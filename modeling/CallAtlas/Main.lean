import CallAtlas.CommandLine.Run

/-!
# The program

Reads the files and lines that a command needs and writes what it comes to. A server answers each
line before it reads the next.
-/

namespace CallAtlas.CommandLine

/-- The fault of an error of the system. -/
def faultOf : IO.Error → FileFault
  | .noFileOrDirectory .. => .missing
  | error => .other (toString error)

def readFile (path : Path) : IO (Except FileFault (List UInt8)) := do
  try
    let bytes ← IO.FS.readBinFile path.text
    return .ok bytes.toList
  catch error => return .error (faultOf error)

/-- A reader that knows the artifact of one project, if one is needed. -/
def readerFor (workspace : Workspace) (project : Option String) : IO FileReader := do
  match project with
  | none => return fun _ => .error .missing
  | some project =>
    let found ← readFile (workspace.artifactPath project)
    return fun _ => found

/-- Answers the lines of standard input until it ends. -/
partial def serveLines (navigator : Navigator) (cache : Cache) : IO Unit := do
  let line ← (← IO.getStdin).getLine
  if line.isEmpty then return
  let message := Message.ofLine line
  let needed := (message.project? navigator).filter fun project =>
    (cache.resident? project).isNone
  let read ← readerFor navigator.workspace needed
  let visit := navigator.answerMessage (.ofFiles navigator.workspace read) cache message
  let stdout ← IO.getStdout
  if let some response := visit.result then
    stdout.putStr (response.line ++ "\n")
    stdout.flush
  serveLines navigator visit.cache

/-- Carries out what the arguments ask for and gives the exit code. -/
def carryOut (arguments : List String) : IO UInt32 := do
  let (result : Result) ←
    match Command.ofArguments arguments with
    | .ok (.serve _ around) => do
      serveLines around.navigator .empty
      pure { exitCode := 0 }
    | .ok command => do
      let read ← readerFor command.around.workspace command.project?
      pure (run arguments read [])
    | .error halt => pure halt.result
  (← IO.getStdout).putStr result.output
  (← IO.getStderr).putStr (result.errorLine.getD "")
  return result.exitCode

end CallAtlas.CommandLine

def main (arguments : List String) : IO UInt32 :=
  CallAtlas.CommandLine.carryOut arguments
