import RemoteClient.Text.Visible

namespace RemoteClient

inductive Json where
  | null
  | bool (value : Bool)
  | number (value : Int)
  | text (value : String)
  | list (items : List Json)
  | object (members : List (String × Json))
  deriving Inhabited, Repr

end RemoteClient

namespace RemoteClient.Json

def escapeChar (c : Char) : List Char :=
  if c = '"' ∨ c = '\\' then ['\\', c]
  else if c = '\x08' then ['\\', 'b']
  else if c = '\t' then ['\\', 't']
  else if c = '\n' then ['\\', 'n']
  else if c = '\x0c' then ['\\', 'f']
  else if c = '\r' then ['\\', 'r']
  else if c < ' ' then
    ['\\', 'u', '0', '0', Nat.digitChar (c.toNat / 16), Nat.digitChar (c.toNat % 16)]
  else [c]

/-- Only quotes, backslashes and characters below the space are escaped. -/
def quoteChars (text : List Char) : List Char := '"' :: text.flatMap escapeChar ++ ['"']

def quote (text : String) : String := String.ofList (quoteChars text.toList)

def newline (depth : Nat) : List Char := '\n' :: List.replicate (2 * depth) ' '

mutual

def prettyChars (depth : Nat) : Json → List Char
  | .null => "null".toList
  | .bool b => (if b then "true" else "false").toList
  | .number n => (toString n).toList
  | .text s => quoteChars s.toList
  | .list [] => ['[', ']']
  | .list (item :: rest) =>
    '[' :: newline (depth + 1) ++ prettyChars (depth + 1) item ++ prettyItems (depth + 1) rest
      ++ newline depth ++ [']']
  | .object [] => ['\x7b', '\x7d']
  | .object ((key, value) :: rest) =>
    '\x7b' :: newline (depth + 1) ++ quoteChars key.toList ++ [':', ' ']
      ++ prettyChars (depth + 1) value ++ prettyMembers (depth + 1) rest
      ++ newline depth ++ ['\x7d']

def prettyItems (depth : Nat) : List Json → List Char
  | [] => []
  | item :: rest => ',' :: newline depth ++ prettyChars depth item ++ prettyItems depth rest

def prettyMembers (depth : Nat) : List (String × Json) → List Char
  | [] => []
  | (key, value) :: rest =>
    ',' :: newline depth ++ quoteChars key.toList ++ [':', ' '] ++ prettyChars depth value
      ++ prettyMembers depth rest

end

def pretty (j : Json) : String := String.ofList (prettyChars 0 j)

end RemoteClient.Json
