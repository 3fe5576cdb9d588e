import RemoteClient.Command.Run

namespace RemoteClient

def failureOf : IO.Error → Files.Error
  | .noFileOrDirectory _ _ _ => .notFound
  | .alreadyExists _ _ _ => .alreadyExists
  | .inappropriateType _ code _ => if code = 20 then .notDirectory else .isDirectory
  | e => .other (toString e)

def attempt {α : Type} (act : IO α) :  IO (Except Files.Error α) := do
  return (← act.toBaseIO).mapError failureOf

def append (path content : String) :  IO Unit := do
  let handle ← IO.FS.Handle.mk path .append
  handle.putStr content

def readText (path : String) :  IO (Except Files.Error String) := do
  match ← attempt (IO.FS.readBinFile path) with
  | .error reason => return .error reason
  | .ok bytes =>
    return match String.fromUTF8? bytes with
      | some text => .ok text
      | none => .error .invalidText

/-- A directory can be opened, but not for writing. -/
def isDirectory (path : String) :  IO Bool := do
  match ← attempt (IO.FS.Handle.mk path .readWrite) with
  | .error .isDirectory => return true
  | _ => return false

def fileExists (path : String) :  IO Bool := do
  match ← attempt (IO.FS.Handle.mk path .read) with
  | .error .notFound | .error .notDirectory => return false
  | _ => return true

instance : Files.Disk IO where
  fileExists := fileExists
  isDirectory := isDirectory
  readText := readText
  write path content := attempt (IO.FS.writeFile path content)
  append path content := attempt (append path content)
  createDirectory path := attempt (IO.FS.createDir path)

def environment :  IO Files.Environment := do
  return ⟨← IO.getEnv "XDG_CONFIG_HOME", ← IO.getEnv "HOME"⟩

def usage : String :=
  "Usage: steward [--config FILE] plan [--input FILE] [--output FILE | --write] [--service NAME]\n"
    ++ "       steward [--config FILE] init-config [--path FILE] [--force]\n"
    ++ "       steward [--config FILE] demo [--calls N] [--fault-every N] [--cancel]\n"

def finish (outcome : Command.Outcome) :  IO UInt32 := do
  IO.eprint outcome.console
  match outcome.result with
  | .ok text =>
    IO.print text
    return 0
  | .error reason =>
    IO.eprintln ("Error: " ++ reason.message)
    return 1

end RemoteClient

open RemoteClient in
def main (args : List String) :  IO UInt32 := do
  match Command.parse args with
  | .ok request => finish (← Command.run (← environment) request)
  | .error .help =>
    IO.print usage
    return 0
  | .error .version =>
    IO.println (Command.name ++ " " ++ Command.version)
    return 0
  | .error .usage =>
    IO.eprint usage
    return 2
