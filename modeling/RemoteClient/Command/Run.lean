import RemoteClient.Command.Arguments
import RemoteClient.Json.Basic
import RemoteClient.Log.Sink
import RemoteClient.Plan.File
import RemoteClient.Plan.Planner
import RemoteClient.Service.File
import RemoteClient.Settings.File

/-!
Carrying out a command: settings, then logging, then descriptors, then plans; only when all of them
are at hand is anything written.
-/

namespace RemoteClient.Command

def name : String := "steward"

def version : String := "0.1.0"

inductive Failure where
  | settings (reason : Settings.Failure)
  | logging (reason : Log.SetupError Files.Error)
  | services (path : String) (reason : Catalogue.LoadFailure)
  | plan (reason : Plan.Error)
  | channel (reason : Channel.Error)
  | file (reason : Files.Error)
  | alreadyExists (path : String)
  deriving DecidableEq, Repr

namespace Failure

def summary : Failure → String
  | .settings reason => reason.summary
  | .logging reason => reason.message
  | .services path _ => "Failed to load service descriptors from '" ++ path ++ "'"
  | .plan reason => "Planning failed: " ++ reason.message
  | .channel reason => "Channel error: " ++ reason.message
  | .file reason => "IO error: " ++ reason.message
  | .alreadyExists path => "'" ++ path ++ "' already exists (use --force to overwrite)"

def detail? : Failure → Option String
  | .settings reason => reason.detail?
  | .services _ reason => reason.detail?
  | _ => none

def message (f : Failure) : String :=
  match f.detail? with
  | some detail => f.summary ++ ": " ++ detail
  | none => f.summary

end Failure

/-- What a command prints if it succeeds, or why it failed, and its log lines where no file takes
them. -/
structure Outcome where
  result : Except Failure String
  console : String

namespace Outcome

def failed (reason : Failure) : Outcome := ⟨.error reason, ""⟩

def printed (text : String) : Outcome := ⟨.ok text, ""⟩

end Outcome

variable {m : Type → Type} [Monad m] [Files.Disk m]

def plannedEvent (services : Nat) (input : String) : Log.Event :=
  ⟨.info, "planned clients", [("services", .ofNat services), ("input", .shown input)]⟩

def listWritten (paths : List String) : String :=
  String.join (paths.map fun path => "Wrote " ++ path ++ "\n")

def writePlans (settings : Settings) (output : Option String) (write : Bool) (plans : List Plan) :
    m (Except Failure String) := do
  if write then
    return match ← Plan.writeToDirectory plans settings.codegen.outputDir with
      | .ok paths => .ok (listWritten paths)
      | .error reason => .error (.file reason)
  else
    match output with
    | none => return .ok (Plan.renderAll plans)
    | some path =>
      return match ← Plan.writeText path (Plan.renderAll plans) with
        | .ok () => .ok ""
        | .error reason => .error (.file reason)

def planServices (settings : Settings) (sink : Log.Sink) (input output : Option String)
    (write : Bool)
    (service : Option String) : m Outcome := do
  let input := input.getD settings.codegen.inputPath
  match ← Catalogue.load input with
  | .error reason => return .failed (.services input reason)
  | .ok catalogue =>
    let options := settings.generation.restrict service
    let made := Plan.planAllLog options catalogue
    match Plan.planAll options catalogue with
    | .error reason => return ⟨.error (.plan reason), ← sink.emit made⟩
    | .ok plans =>
      let console ← sink.emit (made ++ [plannedEvent plans.length input])
      return ⟨← writePlans settings output write plans, console⟩

def demonstrate (sink : Log.Sink) (options : Demo.Options) : m Outcome := do
  let (result, events) := Demo.runLogged options
  let console ← sink.emit events
  match result with
  | .error reason => return ⟨.error (.channel reason), console⟩
  | .ok report => return ⟨.ok (report.toJson.pretty ++ "\n"), console⟩

def writeSettings (path : String) : m Outcome := do
  match ← Files.createParents path with
  | .error reason => return .failed (.file reason)
  | .ok () =>
    match ← Settings.standard.save path with
    | .error reason => return .failed (.settings reason)
    | .ok () => return .printed ("Wrote default configuration to " ++ path ++ "\n")

/-- An existing file is kept unless `force` is given. -/
def initSettings (env : Files.Environment) (path : Option String) (force : Bool) : m Outcome := do
  match path.or (Settings.defaultPath? env) with
  | none => return .failed (.settings .noDirectory)
  | some path =>
    if (← Files.Disk.fileExists path) && !force then return .failed (.alreadyExists path)
    else writeSettings path

def withSettings (env : Files.Environment) (path : Option String)
    (act : Settings → Log.Sink → m Outcome) : m Outcome := do
  match ← Settings.loadOrStandard env path with
  | .error reason => return .failed (.settings reason)
  | .ok settings =>
    match ← Log.Sink.setup settings.logging.level settings.logging.file with
    | .error reason => return .failed (.logging reason)
    | .ok sink => act settings sink

def run (env : Files.Environment) (request : Request) : m Outcome :=
  match request.task with
  | .initSettings path force => initSettings env path force
  | .plan input output write service =>
    withSettings env request.settings fun settings sink =>
      planServices settings sink input output write service
  | .demo options => withSettings env request.settings fun _ sink => demonstrate sink options

end RemoteClient.Command
