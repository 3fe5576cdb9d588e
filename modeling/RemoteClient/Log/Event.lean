import RemoteClient.Text.Runs

namespace RemoteClient.Log

inductive Level where
  | error
  | warn
  | info
  | debug
  | trace
  deriving DecidableEq, Repr

namespace Level

def detail : Level → Nat
  | .error => 1
  | .warn => 2
  | .info => 3
  | .debug => 4
  | .trace => 5

def label : Level → String
  | .error => "ERROR"
  | .warn => "WARN"
  | .info => "INFO"
  | .debug => "DEBUG"
  | .trace => "TRACE"

def all : List Level := [.error, .warn, .info, .debug, .trace]

end Level

/-- A text is put in quotes on a log line; anything else stands as it is shown. -/
inductive FieldValue where
  | text (value : String)
  | shown (value : String)
  deriving DecidableEq, Repr

namespace FieldValue

def plain : FieldValue → String
  | .text value => value
  | .shown value => value

def ofNat (n : Nat) : FieldValue := .shown (toString n)

end FieldValue

structure Event where
  level : Level
  message : String
  fields : List (String × FieldValue)
  deriving DecidableEq, Repr

namespace Event

def trace (origin message : String) : Event := ⟨.trace, message, [("module", .text origin)]⟩

end Event

namespace Level

def asciiLower (text : List Char) : List Char := text.map Char.toLower

def named? (text : List Char) : Option Level :=
  all.find? fun level => asciiLower level.label.toList == asciiLower text

def number? (text : List Char) : Option Nat :=
  let digits := match text with
    | '+' :: rest => rest
    | _ => text
  if digits.isEmpty || !digits.all Char.isDigit then none
  else some (digits.foldl (fun n c => 10 * n + (c.toNat - '0'.toNat)) 0)

def numbered? (text : List Char) : Option Level :=
  (number? text).bind fun n => all.find? (·.detail == n)

def parse? (text : String) : Option Level :=
  let text := Text.trimChars text.toList
  (named? text).or (numbered? text)

end Level

def unknownLevelMessage (level : String) : String :=
  "Unknown log level '" ++ level ++ "'. Expected one of: trace, debug, info, warn, error"

inductive SetupError (Reason : Type) where
  | unknownLevel (level : String)
  | file (reason : Reason)
  deriving DecidableEq, Repr

end RemoteClient.Log
