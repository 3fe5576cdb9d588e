import RemoteClient.Files.Disk
import RemoteClient.Log.Event
import RemoteClient.Text.Visible

namespace RemoteClient.Log

/-- Characters that would steer a terminal are made visible in messages. -/
def defuseChar (c : Char) : List Char :=
  if c = '\x1b' then "\\x1b".toList
  else if c = '\x07' then "\\x07".toList
  else if c = '\x08' then "\\x08".toList
  else if c = '\x0c' then "\\x0c".toList
  else if c = '\x7f' then "\\x7f".toList
  else if '\u0080' ≤ c ∧ c ≤ '\u009f' then Text.codeEscape c
  else [c]

def defuse (message : String) : String := String.ofList (message.toList.flatMap defuseChar)

namespace FieldValue

def inLine : FieldValue → String
  | .text value => Text.quote value
  | .shown value => value

end FieldValue

namespace Event

def padLevel (label : String) : String :=
  String.ofList (List.replicate (5 - label.length) ' ') ++ label

/-- The level is right-aligned to five columns. -/
def line (event : Event) : String :=
  padLevel event.level.label ++ " " ++ defuse event.message
    ++ String.join (event.fields.map fun (name, value) => " " ++ name ++ "=" ++ value.inLine)
    ++ "\n"

end Event

def keep (level : Level) (events : List Event) : List Event :=
  events.filter fun event => event.level.detail ≤ level.detail

def render (level : Level) (events : List Event) : String :=
  String.join ((keep level events).map Event.line)

namespace SetupError

def message : SetupError Files.Error → String
  | .unknownLevel level => unknownLevelMessage level
  | .file reason => "Failed to open log file: " ++ reason.message

end SetupError

structure Sink where
  level : Level
  file : Option String
  deriving DecidableEq, Repr

namespace Sink

variable {m : Type → Type} [Monad m] [Files.Disk m]

/-- The level is looked at before the file is touched. -/
def setup (level : String) (file : Option String) : m (Except (SetupError Files.Error) Sink) := do
  match Level.parse? level with
  | none => return .error (.unknownLevel level)
  | some parsed =>
    match file with
    | none => return .ok ⟨parsed, none⟩
    | some path =>
      match ← Files.Disk.append path "" with
      | .ok () => return .ok ⟨parsed, some path⟩
      | .error reason => return .error (.file reason)

def emit (sink : Sink) (events : List Event) : m String := do
  let text := render sink.level events
  match sink.file with
  | some path =>
    discard (Files.Disk.append path text)
    return ""
  | none => return text

end Sink

end RemoteClient.Log
