/-!
# Paths

A path (`PathBuf`) is a text, and what it leads through is the list of its components: slashes that
repeat or stand at the end count for nothing, and so does a single dot unless a relative path starts
with it. Components are compared, texts are shown.
-/

namespace CallAtlas

/-- A path of a file or directory, as it is written. -/
structure Path where
  text : String
  deriving DecidableEq, Repr

/-- One step of a path. -/
inductive Component where
  /-- The root directory, at the front of an absolute path. -/
  | root
  /-- The current directory, at the front of a relative path. -/
  | current
  /-- The directory above. -/
  | parent
  /-- A directory or file of that name. -/
  | name (text : String)
  deriving DecidableEq, Repr

namespace Path

/-- The pieces between the slashes of a text, empty ones included. -/
def pieces : List Char → List (List Char)
  | [] => [[]]
  | '/' :: rest => [] :: pieces rest
  | c :: rest =>
    match pieces rest with
    | [] => [[c]]
    | piece :: more => (c :: piece) :: more

/-- The component that a piece stands for inside a path. -/
def componentOf? : List Char → Option Component
  | [] => none
  | ['.'] => none
  | ['.', '.'] => some .parent
  | piece => some (.name (String.ofList piece))

/-- Whether the text starts at the root directory. -/
def startsAtRoot (s : String) : Bool :=
  s.toList.head? == some '/'

def isAbsolute (path : Path) : Bool :=
  startsAtRoot path.text

/-- The component that a path starts with and that no piece inside a path stands for. -/
def start (s : List Char) : List Component :=
  if s.head? = some '/' then [.root]
  else if (pieces s).head? = some ['.'] then [.current]
  else []

/-- The components of a path (`components`). -/
def components (path : Path) : List Component :=
  start path.text.toList ++ (pieces path.text.toList).filterMap componentOf?

/-- The path behind another (`push`): an absolute part replaces it, and any other part follows a
slash, which is added unless the path is empty or ends in one. -/
def push (path : Path) (part : String) : Path :=
  if startsAtRoot part then ⟨part⟩
  else if path.text.toList.getLast?.all (· == '/') then ⟨path.text ++ part⟩
  else ⟨path.text ++ "/" ++ part⟩

/-- The path with several parts behind it, one after the other. -/
def pushAll (path : Path) (parts : List String) : Path :=
  parts.foldl push path

/-- The parts between the slashes of a text that are not empty. -/
def parts (s : String) : List String :=
  ((pieces s.toList).filter (· ≠ [])).map String.ofList

end Path

end CallAtlas
