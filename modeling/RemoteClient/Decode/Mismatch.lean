import RemoteClient.Text.Visible

namespace RemoteClient.Decode

inductive Shape where
  | null
  | bool (value : Bool)
  | integer (value : Int)
  | real (shown : String)
  | text (value : String)
  | sequence
  | map
  deriving DecidableEq, Repr

namespace Shape

def describe : Shape → String
  | .null => "null"
  | .bool b => "boolean `" ++ (if b then "true" else "false") ++ "`"
  | .integer n => "integer `" ++ toString n ++ "`"
  | .real shown => "floating point `" ++ shown ++ "`"
  | .text s => "string " ++ Text.quote s
  | .sequence => "sequence"
  | .map => "map"

end Shape

inductive Mismatch where
  | wrongType (found : Shape) (expected : String)
  | missingField (name : String)
  | duplicateField (name : String)
  | wrongLength (found : Nat) (expected : String)
  | unknownVariant (name : String) (known : List String)
  | other (message : String)
  deriving DecidableEq, Repr

namespace Mismatch

def ticked (name : String) : String := "`" ++ name ++ "`"

def choice : List String → String
  | [] => "there are no variants"
  | [a] => "expected " ++ ticked a
  | [a, b] => "expected " ++ ticked a ++ " or " ++ ticked b
  | names => "expected one of " ++ ", ".intercalate (names.map ticked)

def message : Mismatch → String
  | .wrongType found expected => "invalid type: " ++ found.describe ++ ", expected " ++ expected
  | .missingField name => "missing field " ++ ticked name
  | .duplicateField name => "duplicate field " ++ ticked name
  | .wrongLength found expected => "invalid length " ++ toString found ++ ", expected " ++ expected
  | .unknownVariant name known => "unknown variant " ++ ticked name ++ ", " ++ choice known
  | .other message => message

end Mismatch

/-- One field of a record that is read into the partial result `S`. A field may be left out when the
record is written with names, or at the end when it is written as a plain sequence. -/
structure Field (V E S : Type) where
  name : String
  optional : Bool
  trailing : Bool
  isSet : S → Bool
  read : V → S → Except E S

structure Record (V E S : Type) where
  kind : String
  fields : List (Field V E S)

namespace Record

variable {V E S : Type}

def title (r : Record V E S) : String := "struct " ++ r.kind

def lengthTitle (r : Record V E S) : String :=
  r.title ++ " with " ++ toString r.fields.length
    ++ (if r.fields.length = 1 then " element" else " elements")

def field? (r : Record V E S) (name : String) : Option (Field V E S) :=
  r.fields.find? (·.name == name)

/-- Of several missing fields the first in declaration order is reported. -/
def missing? (r : Record V E S) (s : S) : Option String :=
  (r.fields.find? fun f => !f.optional && !f.isSet s).map (·.name)

end Record

end RemoteClient.Decode
