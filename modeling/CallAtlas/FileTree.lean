import CallAtlas.Path

/-!
# File trees

The files and directories below a current directory, and why a file cannot be read there. A path is
followed part by part as it is written, and the first part that does not lead on decides: every
part but the last must be a directory, also where a dot or two dots follow it. Outside of the
current directory nothing is known but the standard directories at the root.
-/

namespace CallAtlas

/-- Why a file cannot be read. -/
inductive FileFault where
  /-- No file has that path. -/
  | missing
  /-- The path leads to a directory. -/
  | directory
  /-- The path leads through a file. -/
  | notDirectory
  /-- The path or one of its names has too many bytes. -/
  | nameTooLong
  /-- The path contains the character zero. -/
  | zeroCharacter
  /-- The system gives a reason of its own. -/
  | other (reason : String)
  deriving DecidableEq, Repr

def FileFault.message : FileFault → String
  | .missing => "No such file or directory (os error 2)"
  | .directory => "Is a directory (os error 21)"
  | .notDirectory => "Not a directory (os error 20)"
  | .nameTooLong => "File name too long (os error 36)"
  | .zeroCharacter => "file name contained an unexpected NUL byte"
  | .other reason => reason

/-- What a path leads to. -/
inductive Node where
  | file (bytes : List UInt8)
  | directory
  deriving DecidableEq, Repr

/-- Files and directories by the names that lead to them from one directory. -/
structure FileTree where
  nodes : List (List String × Node) := []
  deriving DecidableEq, Repr

/-- Where one stands while a path is followed. -/
inductive Place where
  /-- At the end of these names from the current directory. -/
  | inside (names : List String)
  /-- Above the current directory. -/
  | above
  /-- At the end of these names from the root directory. -/
  | system (names : List String)
  deriving DecidableEq, Repr

/-- The most bytes that a name has. -/
def nameLimit : Nat := 255

/-- The number of bytes that a path does not reach. -/
def pathLimit : Nat := 4096

namespace FileTree

def empty : FileTree := {}

/-- What is known of the root directory: its standard directories and the null device. -/
def system : FileTree :=
  ⟨(["dev", "null"], .file []) ::
    ["bin", "boot", "dev", "etc", "home", "lib", "media", "mnt", "opt", "root", "run", "sbin",
      "srv", "tmp", "usr", "var"].map fun name => ([name], .directory)⟩

def node? (tree : FileTree) : List String → Option Node
  | [] => some .directory
  | names => tree.nodes.lookup names

/-- The names that a part leads to, or nothing where it leads above the tree. Whether anything is
there shows when one goes on from it. -/
def follow (tree : FileTree) (names : List String) (part : String) :
    Except FileFault (Option (List String)) :=
  match tree.node? names with
  | none => .error .missing
  | some (.file _) => .error .notDirectory
  | some .directory =>
    if part = "." then .ok (some names)
    else if part = ".." then .ok (if names = [] then none else some names.dropLast)
    else if nameLimit < part.utf8ByteSize then .error .nameTooLong
    else .ok (some (names ++ [part]))

/-- The place that a part leads to from another. Nothing is above the root directory. -/
def enter (tree : FileTree) (place : Place) (part : String) : Except FileFault Place :=
  match place with
  | .inside names =>
    (tree.follow names part).map fun next => next.elim .above .inside
  | .above =>
    if part = "." ∨ part = ".." then .ok .above
    else if nameLimit < part.utf8ByteSize then .error .nameTooLong
    else .error .missing
  | .system names =>
    (system.follow names part).map fun next => .system (next.getD [])

def nodeAt? (tree : FileTree) : Place → Option Node
  | .inside names => tree.node? names
  | .above => some .directory
  | .system names => system.node? names

/-- The place that a path starts from. -/
def origin (path : Path) : Place :=
  if path.isAbsolute then .system [] else .inside []

/-- The parts that a path is followed by: a slash at the end asks for a directory, as a dot does. -/
def partsOf (path : Path) : List String :=
  Path.parts path.text ++ if path.text.toList.getLast? = some '/' then ["."] else []

/-- The place that a path leads to. The empty path leads nowhere. -/
def locate (tree : FileTree) (path : Path) : Except FileFault Place :=
  if path.text.isEmpty then .error .missing else (partsOf path).foldlM tree.enter (origin path)

/-- The bytes of the file that a path leads to. -/
def read (tree : FileTree) (path : Path) : Except FileFault (List UInt8) := do
  if path.text.toList.contains '\x00' then throw .zeroCharacter
  if pathLimit ≤ path.text.utf8ByteSize then throw .nameTooLong
  match tree.nodeAt? (← tree.locate path) with
  | none => .error .missing
  | some .directory => .error .directory
  | some (.file bytes) => .ok bytes

/-- Puts a node at the end of some names, in place of the one that is there. -/
def put (tree : FileTree) (names : List String) (node : Node) : FileTree :=
  ⟨(names, node) :: tree.nodes.filter fun entry => entry.1 ≠ names⟩

/-- Makes a directory at a place where nothing is. -/
def makeDirectory (tree : FileTree) : Place → FileTree
  | .inside names => if (tree.node? names).isSome then tree else tree.put names .directory
  | _ => tree

/-- Follows parts from a place and makes a directory wherever nothing is on the way: the tree
afterwards, and the place at the end, where nothing is made. -/
def enterMaking (tree : FileTree) (place : Place) :
    List String → Except FileFault (FileTree × Place)
  | [] => .ok (tree, place)
  | part :: rest => do
    let tree := tree.makeDirectory place
    tree.enterMaking (← tree.enter place part) rest

/-- Puts a node at a place: a directory where nothing is, a file where no directory is. -/
def settle (tree : FileTree) (place : Place) : Node → FileTree
  | .directory => tree.makeDirectory place
  | .file bytes =>
    match place with
    | .inside names =>
      if tree.node? names = some .directory then tree else tree.put names (.file bytes)
    | _ => tree

/-- Puts a file or a directory at a path, in directories that are made where they are absent. A
path that leads through a file changes nothing. -/
def write (tree : FileTree) (path : Path) (node : Node) : FileTree :=
  match tree.enterMaking (origin path) (partsOf path) with
  | .ok (tree, place) => tree.settle place node
  | .error _ => tree

/-- Takes away what a path leads to, with all that is inside. A path that leads nowhere or out of
the current directory changes nothing. -/
def remove (tree : FileTree) (path : Path) : FileTree :=
  match tree.locate path with
  | .ok (.inside names) => ⟨tree.nodes.filter fun entry => !names.isPrefixOf entry.1⟩
  | _ => tree

end FileTree

end CallAtlas
