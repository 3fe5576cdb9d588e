import RemoteClient.Files.Disk
import RemoteClient.Settings.Toml

namespace RemoteClient.Settings

inductive Failure where
  | notFound (path : String)
  | file (reason : Files.Error)
  | content (problem : ParseError)
  | noDirectory
  deriving DecidableEq, Repr

namespace Failure

def summary : Failure → String
  | .notFound path => "Config file not found at: " ++ path
  | .file reason => "Failed to read config file: " ++ reason.message
  | .content _ => "Failed to parse config file"
  | .noDirectory => "Could not find user config directory"

def detail? : Failure → Option String
  | .content (.mismatch problem) => some problem.message
  | _ => none

end Failure

/-- A directory for settings counts only if its path is absolute, and a home only if it is named. -/
def directory? (env : Files.Environment) : Option String :=
  (env.configHome.filter Files.isAbsolute).or
    ((env.home.filter (· != "")).map (Files.join · ".config"))

def defaultPath? (env : Files.Environment) : Option String :=
  (directory? env).map fun dir => Files.join (Files.join dir "steward") "config.toml"

variable {m : Type → Type} [Monad m] [Files.Disk m]

def load (path : String) : m (Except Failure Settings) := do
  if ← Files.Disk.fileExists path then
    match ← Files.Disk.readText path with
    | .error reason => return .error (.file reason)
    | .ok text => return (parse text).mapError .content
  else return .error (.notFound path)

def save (s : Settings) (path : String) : m (Except Failure Unit) := do
  return (← Files.Disk.write path s.render).mapError .file

/-- Without a path the user's settings are loaded, if there are any. -/
def loadOrStandard (env : Files.Environment) : Option String → m (Except Failure Settings)
  | some path => load path
  | none => do
    match defaultPath? env with
    | none => return .ok standard
    | some path => if ← Files.Disk.fileExists path then load path else return .ok standard

end RemoteClient.Settings
