import CallAtlas.Failure
import CallAtlas.FileTree
import CallAtlas.Json.Reader
import CallAtlas.Workspace

/-!
# Where artifacts come from

A loader gives the artifact of a project, or says why it cannot be had: from a list of documents,
or from the files of a workspace. Whether a document is a call graph is not looked at here.
-/

namespace CallAtlas

/-- Gives the artifact of a project (`GraphLoader::fetch`). -/
abbrev Loader := String → Except Failure Json

/-- Gives the bytes of a file. -/
abbrev FileReader := Path → Except FileFault (List UInt8)

/-- The loader that knows the artifacts of some projects (`MemoryLoader`). -/
def Loader.ofDocuments (documents : List (String × Json)) : Loader := fun project =>
  match documents.lookup project with
  | some document => .ok document
  | none => .error (.unavailable project "" ("no call graph for project: " ++ project))

/-- The document that the bytes of an artifact hold. -/
def artifactOfBytes (path : Path) (bytes : List UInt8) : Except Failure Json :=
  match Json.read bytes with
  | .ok document => .ok document
  | .error error => .error (.malformed path.text error.message)

/-- The failure of a project whose artifact cannot be read. -/
def unreadable (project : String) (path : Path) (fault : FileFault) : Failure :=
  .unavailable project path.text
    ("no call graph at path: " ++ path.text ++ " (" ++ fault.message ++ ")")

/-- The loader that reads the artifacts of a workspace (`FsLoader`). -/
def Loader.ofFiles (workspace : Workspace) (read : FileReader) : Loader := fun project =>
  let path := workspace.artifactPath project
  match read path with
  | .ok bytes => artifactOfBytes path bytes
  | .error fault => .error (unreadable project path fault)

end CallAtlas
