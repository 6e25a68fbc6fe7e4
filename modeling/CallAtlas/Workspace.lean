import CallAtlas.Path
import CallAtlas.Resolution
import CallAtlas.Text.Blank
import CallAtlas.Text.Lowercase

/-!
# Workspaces

Where projects, their sources and their artifacts lie below the root of a workspace, and how a
click on a file becomes a query.

    <root>/<Project>/project/src/...                     sources
    <root>/<Project>/reports/<project>_callgraph.json    artifact, named in lowercase
-/

namespace CallAtlas

/-- A click in an editor (`ClickEvent`). -/
structure Click where
  path : String
  /-- The line of the click, from one on. -/
  line : UInt32
  identifier : String
  deriving DecidableEq, Repr

/-- A directory with one directory for each project (`WorkspaceLayout`). -/
structure Workspace where
  root : Path
  deriving DecidableEq, Repr

/-- Whether the text is the name of one directory. -/
def isProjectName (name : String) : Bool :=
  (Path.mk name).components == [.name name]

/-- Refuses a project name that is no name of one directory (`validate_project_name`). -/
def checkProjectName (name : String) : Except Failure Unit :=
  if isProjectName name then .ok () else .error (.refused (.projectName name))

namespace Component

/-- The name of a component that has one. -/
def name? : Component → Option String
  | .name text => some text
  | _ => none

/-- Whether the component leads nowhere else. -/
def isCurrent (component : Component) : Bool :=
  component == .current

end Component

namespace Workspace

variable (workspace : Workspace)

/-- The directories between a project and its sources (`SOURCE_DIRS`). -/
def sourceParts : List String := ["project", "src"]

/-- The components of a path below the root (`below_root`). A relative path that does not lead
through the root is taken as relative to it. -/
def below? (path : Path) : Option (List Component) :=
  match List.isPrefixOf? workspace.root.components path.components with
  | some rest => some rest
  | none => if path.isAbsolute then none else some path.components

/-- The project that a file belongs to: the first directory below the root (`project_for`). -/
def projectOf (path : Path) : Except Failure String :=
  match (workspace.below? path).bind fun rest => rest.find? fun part => !part.isCurrent with
  | some (.name project) => .ok project
  | _ => .error (.unknownProject path.text)

/-- The directory of the sources of a project (`source_root`). -/
def sourceRoot (project : String) : Path :=
  (workspace.root.push project).pushAll sourceParts

def artifactName (project : String) : String :=
  Text.lowercase project ++ "_callgraph.json"

/-- The file of a project's artifact (`artifact_path`). -/
def artifactPath (project : String) : Path :=
  ((workspace.root.push project).push "reports").push (artifactName project)

/-- The names that a path leads through below the root, if it leads through nothing but names. -/
def namesBelow? (path : Path) : Option (List String) :=
  (workspace.below? path).bind fun rest =>
    (rest.filter fun part => !part.isCurrent).mapM Component.name?

/-- The names of a path below the sources of a project, of which there is at least one. -/
def insideSources? (project : String) (path : Path) : Option (List String) :=
  (workspace.namesBelow? path).bind fun names =>
    (List.isPrefixOf? (project :: sourceParts) names).filter fun inner => !inner.isEmpty

/-- The path of a file below the sources of a project, with a slash between its names
(`relative_source_path`). This is the only form that a path takes inside a key. -/
def relativeSource (project : String) (path : Path) : Except Failure String :=
  match workspace.insideSources? project path with
  | some inner => .ok ("/".intercalate inner)
  | none => .error (.outsideSources path.text (workspace.sourceRoot project).text)

/-- The path that an editor opens for a path below the sources of a project
(`absolute_source_path`). -/
def absoluteSource (project relative : String) : Path :=
  (workspace.sourceRoot project).pushAll (Path.parts relative)

/-- The lookup that a click asks for (`click_query`). -/
def query (click : Click) : Except Failure Query := do
  let identifier := Text.trim click.identifier
  if identifier.isEmpty then throw (.refused .blankIdentifier)
  if click.line = 0 then throw (.refused .lineZero)
  let path := Path.mk click.path
  let project ← workspace.projectOf path
  let relativePath ← workspace.relativeSource project path
  return { project, relativePath, clickedLine := click.line, identifier }

end Workspace

end CallAtlas
