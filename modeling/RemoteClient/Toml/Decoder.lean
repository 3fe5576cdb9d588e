import RemoteClient.Decode.Mismatch
import RemoteClient.Toml.Value

namespace RemoteClient.Toml

open Decode (Field Mismatch Record Shape)

inductive DecodeError where
  | outOfRange
  | mismatch (problem : Mismatch)
  deriving DecidableEq, Repr

abbrev Decoded (α : Type) := Except DecodeError α

def fail {α : Type} (problem : Mismatch) : Decoded α := .error (.mismatch problem)

namespace Value

/-- The value is not what was expected. A date or a time counts as a map. -/
def refuse {α : Type} (expected : String) : Value → Decoded α
  | .text s => wrong (.text s)
  | .integer n => wrong (.integer n)
  | .real shown => wrong (.real shown)
  | .huge => .error .outOfRange
  | .bool b => wrong (.bool b)
  | .datetime | .table _ _ => wrong .map
  | .array _ _ => wrong .sequence
where
  wrong (found : Shape) : Decoded α := fail (.wrongType found expected)

def decodeText : Value → Decoded String
  | .text s => .ok s
  | v => v.refuse "a string"

def decodePath : Value → Decoded String
  | .text s => .ok s
  | v => v.refuse "path string"

def decodeBool : Value → Decoded Bool
  | .bool b => .ok b
  | v => v.refuse "a boolean"

variable {S : Type}

def decodeEntries (r : Record Value DecodeError S) (s : S) : List (String × Value) → Decoded S
  | [] =>
    match r.missing? s with
    | some name => fail (.missingField name)
    | none => .ok s
  | (key, value) :: rest =>
    match r.field? key with
    | some f => do decodeEntries r (← f.read value s) rest
    | none => if value.holds isHuge then .error .outOfRange else decodeEntries r s rest

def decodeFields (r : Record Value DecodeError S) (index : Nat) (s : S) :
    List (Field Value DecodeError S) → List Value → Decoded S
  | [], _ => .ok s
  | f :: fields, [] =>
    if f.trailing then decodeFields r (index + 1) s fields []
    else fail (.wrongLength index r.lengthTitle)
  | f :: fields, value :: values => do decodeFields r (index + 1) (← f.read value s) fields values

def decodeRecord (r : Record Value DecodeError S) (start : S) : Value → Decoded S
  | .table _ entries => decodeEntries r start entries
  | .datetime => decodeEntries r start []
  | .array items _ => decodeFields r 0 start r.fields items
  | v => v.refuse r.title

def typeName : Value → String
  | .text _ => "string"
  | .integer _ => "integer"
  | .real _ => "float"
  | .huge => "number"
  | .bool _ => "boolean"
  | .datetime => "datetime"
  | .array _ _ => "array"
  | .table _ _ => "table"

def decodeNothing : Value → Decoded Unit
  | .table _ [] | .array [] _ => .ok ()
  | .table _ _ => fail (.other "expected empty table")
  | .array _ _ => fail (.other "expected empty array")
  | v => fail (.other ("expected table, found " ++ v.typeName))

def decodeName {α : Type} (known : List (String × α)) (name : String) : Decoded α :=
  match known.lookup name with
  | some value => .ok value
  | none => fail (.unknownVariant name (known.map (·.1)))

def decodeVariant {α : Type} (known : List (String × α)) : Value → Decoded α
  | .text name => decodeName known name
  | .table _ [] => fail (.other "wanted exactly 1 element, found 0 elements")
  | .table _ [(name, value)] => do
    let result ← decodeName known name
    decodeNothing value
    return result
  | .table _ _ => fail (.other "wanted exactly 1 element, more than 1 element")
  | _ => fail (.other "wanted string or table")

end Value

/-- Where a record's field may be left out: `absentInTable` fields still count as elements when the
record is written as an array. -/
inductive Presence where
  | required
  | absentInTable
  | defaulted

def field {α S : Type} (name : String) (presence : Presence) (get : S → Option α) (put : α → S → S)
    (decode : Value → Decoded α) : Field Value DecodeError S :=
  { name
    optional := !(presence matches .required)
    trailing := presence matches .defaulted
    isSet := fun s => (get s).isSome
    read := fun v s => (decode v).map (put · s) }

end RemoteClient.Toml
