import RemoteClient.Decode.Mismatch
import RemoteClient.Json.Source

/-!
Decoding JSON in reading order: the first problem met decides, and a missing field is noticed where
its object ends. Members nobody asked for are passed over.
-/

namespace RemoteClient.Json

open Decode (Field Mismatch Record Shape)

inductive DecodeError where
  | fault (kind : Fault)
  | mismatch (problem : Mismatch)
  deriving DecidableEq, Repr

abbrev Decoded (α : Type) := Except DecodeError α

namespace Source

def passOver : Source → Option Fault
  | .null | .bool _ | .integer _ | .real _ | .text _ => none
  | .unreadableText _ skipped | .unreadable _ skipped => skipped
  | .absent => some .cutShort
  | .list items stop => (passItems items).or stop
  | .object members stop => (passMembers members).or stop
where
  passItems : List Source → Option Fault
    | [] => none
    | item :: rest => item.passOver.or (passItems rest)
  passMembers : List (Source × Source) → Option Fault
    | [] => none
    | (key, value) :: rest =>
      (passKey key).or (value.passOver.or (passMembers rest))
  passKey : Source → Option Fault
    | .text _ => none
    | .unreadableText _ skipped => skipped
    | .absent => some .cutShort
    | _ => some .malformed

/-- The value is not what was expected; if it cannot be read, that comes first. -/
def refuse {α : Type} (expected : String) : Source → Decoded α
  | .null => wrong .null
  | .bool b => wrong (.bool b)
  | .integer n => wrong (.integer n)
  | .real shown => wrong (.real shown)
  | .text s => wrong (.text s)
  | .list _ _ => wrong .sequence
  | .object _ _ => wrong .map
  | .unreadableText strict _ | .unreadable strict _ => .error (.fault strict)
  | .absent => .error (.fault .cutShort)
where
  wrong (found : Shape) : Decoded α := .error (.mismatch (.wrongType found expected))

def decodeText : Source → Decoded String
  | .text s => .ok s
  | v => v.refuse "a string"

def decodeBool : Source → Decoded Bool
  | .bool b => .ok b
  | v => v.refuse "a boolean"

def decodeOption {α : Type} (decode : Source → Decoded α) : Source → Decoded (Option α)
  | .null => .ok none
  | v => (decode v).map some

def closed {α : Type} (value : α) : Option Fault → Decoded α
  | none => .ok value
  | some f => .error (.fault f)

def decodeItems {α : Type} (decode : Source → Decoded α) (stop : Option Fault) :
    List Source → Decoded (List α)
  | [] => closed [] stop
  | item :: rest => do
    let first ← decode item
    return first :: (← decodeItems decode stop rest)

def decodeList {α : Type} (decode : Source → Decoded α) : Source → Decoded (List α)
  | .list items stop => decodeItems decode stop items
  | v => v.refuse "a sequence"

def keyFault : Source → Fault
  | .unreadableText strict _ => strict
  | .absent => .cutShort
  | _ => .malformed

/-- The members of a record. A field given twice is noticed before its second value is read. -/
def decodeMembers {S : Type} (r : Record Source DecodeError S) (stop : Option Fault) (s : S) :
    List (Source × Source) → Decoded S
  | [] => do
    let s ← closed s stop
    match r.missing? s with
    | some name => throw (.mismatch (.missingField name))
    | none => return s
  | (.text name, value) :: rest =>
    match r.field? name with
    | some f => do
      if f.isSet s then throw (.mismatch (.duplicateField name))
      decodeMembers r stop (← f.read value s) rest
    | none => do
      closed () value.passOver
      decodeMembers r stop s rest
  | (key, _) :: _ => .error (.fault key.keyFault)

def decodeFields {S : Type} (r : Record Source DecodeError S) (stop : Option Fault) (index : Nat)
    (s : S) : List (Field Source DecodeError S) → List Source → Decoded S
  | [], [] => closed s stop
  | [], _ :: _ => .error (.fault .malformed)
  | f :: fields, [] => do
    closed () stop
    if f.trailing then decodeFields r stop (index + 1) s fields []
    else throw (.mismatch (.wrongLength index r.lengthTitle))
  | f :: fields, value :: values => do
    decodeFields r stop (index + 1) (← f.read value s) fields values

def decodeRecord {S : Type} (r : Record Source DecodeError S) (start : S) : Source → Decoded S
  | .object members stop => decodeMembers r stop start members
  | .list items stop => decodeFields r stop 0 start r.fields items
  | v => v.refuse r.title

def decodeName {α : Type} (known : List (String × α)) (name : String) : Decoded α :=
  match known.lookup name with
  | some value => .ok value
  | none => .error (.mismatch (.unknownVariant name (known.map (·.1))))

def decodeUnit : Source → Decoded Unit
  | .null => .ok ()
  | v => v.refuse "unit"

/-- One of several names, alone or as the only member of an object, with nothing as its value. -/
def decodeVariant {α : Type} (known : List (String × α)) : Source → Decoded α
  | .text name => decodeName known name
  | .object ((.text name, value) :: rest) stop => do
    let result ← decodeName known name
    decodeUnit value
    if !rest.isEmpty then throw (.fault .malformed)
    closed result stop
  | .object ((key, _) :: _) _ => .error (.fault key.keyFault)
  | .object [] stop => .error (.fault (stop.getD .malformed))
  | .unreadableText strict _ => .error (.fault strict)
  | .absent => .error (.fault .cutShort)
  | _ => .error (.fault .malformed)

end Source

def decode {α : Type} (decoder : Source → Decoded α) (text : String) : Decoded α := do
  let (source, rest) := read text.toList
  let value ← decoder source
  match rest.map skipSpaces with
  | some (_ :: _) => throw (.fault .malformed)
  | _ => return value

inductive Presence where
  | required
  | defaulted

def field {α S : Type} (name : String) (presence : Presence) (get : S → Option α) (put : α → S → S)
    (decode : Source → Decoded α) : Field Source DecodeError S :=
  { name
    optional := presence matches .defaulted
    trailing := presence matches .defaulted
    isSet := fun s => (get s).isSome
    read := fun v s => (decode v).map (put · s) }

end RemoteClient.Json
