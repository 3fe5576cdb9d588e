namespace RemoteClient.Toml

structure Quoting where
  quote : Char
  escapes : Bool
  lines : Bool
  deriving DecidableEq, Repr

namespace Quoting

def basic : Quoting := ⟨'"', true, false⟩

def literal : Quoting := ⟨'\'', false, false⟩

def basicLines : Quoting := ⟨'"', true, true⟩

def literalLines : Quoting := ⟨'\'', false, true⟩

end Quoting

/-- Control characters other than the tab never stand unescaped. -/
def isPlain (c : Char) : Bool := c = '\t' || (' ' ≤ c && c ≠ '\x7f')

def isBlank (c : Char) : Bool := c = ' ' || c = '\t'

def afterNewline? : List Char → Option (List Char)
  | '\n' :: rest => some rest
  | '\r' :: '\n' :: rest => some rest
  | _ => none

/-- How a table came to be: by a header of its own, on the way to a deeper header, by a dotted key,
or in braces. It decides what may still be added to it. -/
inductive TableKind where
  | header
  | implied
  | dotted
  | inline
  deriving DecidableEq, Repr

/-- A real number is kept as its text; a `huge` number is out of all range. `tables` marks an array
that double-bracket headers add to. -/
inductive Value where
  | text (value : String)
  | integer (value : Int)
  | real (shown : String)
  | huge
  | bool (value : Bool)
  | datetime
  | array (items : List Value) (tables : Bool)
  | table (kind : TableKind) (entries : List (String × Value))
  deriving Inhabited, Repr

abbrev Entries := List (String × Value)

def inRange (below above : Nat) (n : Int) : Bool := -(below : Int) ≤ n && n < (above : Int)

/-- Integers are kept as far as they fit into 128 bits, with or without a sign. -/
def Value.ofInt (n : Int) : Value :=
  if inRange (Nat.pow 2 127) (Nat.pow 2 128) n then .integer n else .huge

def isWide (n : Int) : Bool := !inRange (Nat.pow 2 63) (Nat.pow 2 63) n

namespace Value

def holds (p : Value → Bool) : Value → Bool
  | .array items tables => p (.array items tables) || inItems items
  | .table kind entries => p (.table kind entries) || inEntries entries
  | v => p v
where
  inItems : List Value → Bool
    | [] => false
    | item :: rest => item.holds p || inItems rest
  inEntries : List (String × Value) → Bool
    | [] => false
    | (_, value) :: rest => value.holds p || inEntries rest

def isHuge : Value → Bool
  | .huge => true
  | _ => false

def isOversized : Value → Bool
  | .huge => true
  | .integer n => isWide n
  | _ => false

end Value

end RemoteClient.Toml
