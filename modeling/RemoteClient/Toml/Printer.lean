import RemoteClient.Toml.Value

namespace RemoteClient.Toml

def newlineIn (text : List Char) : Bool := text.contains '\n'

def isTame (text : List Char) : Bool := text.all fun c => isPlain c || c = '\n'

def hasTriple (quote : Char) : List Char → Bool
  | a :: b :: c :: rest =>
    (a = quote && b = quote && c = quote) || hasTriple quote (b :: c :: rest)
  | _ => false

def chooseQuoting (text : List Char) : Quoting :=
  let oneLine := isTame text && !newlineIn text
  if oneLine && !text.contains '\\' && !text.contains '"' then .basic
  else if oneLine && !text.contains '\'' then .literal
  else if isTame text && !text.contains '\\' && !hasTriple '"' text then .basicLines
  else if isTame text && !hasTriple '\'' text then .literalLines
  else if newlineIn text then .basicLines
  else .basic

def upperHexDigit (n : Nat) : Char := (Nat.digitChar n).toUpper

/-- In a text on several lines a quote is escaped only if two quotes stand before it. `run` counts
these. -/
def escapeChar (lines : Bool) (run : Nat) (c : Char) : List Char :=
  if c = '"' then (if lines && run < 2 then ['"'] else ['\\', '"'])
  else if c = '\\' then ['\\', '\\']
  else if c = '\x08' then ['\\', 'b']
  else if c = '\t' then ['\\', 't']
  else if c = '\n' then (if lines then ['\n'] else ['\\', 'n'])
  else if c = '\x0c' then ['\\', 'f']
  else if c = '\r' then ['\\', 'r']
  else if isPlain c then [c]
  else ['\\', 'u', '0', '0', upperHexDigit (c.toNat / 16), upperHexDigit (c.toNat % 16)]

def nextRun (run : Nat) (c : Char) : Nat := if c = '"' then (if run < 2 then run + 1 else 0) else 0

def escapeFrom (lines : Bool) (run : Nat) : List Char → List Char
  | [] => []
  | c :: rest => escapeChar lines run c ++ escapeFrom lines (nextRun run c) rest

def delimiter (q : Quoting) : List Char := List.replicate (if q.lines then 3 else 1) q.quote

def quoteWith (q : Quoting) (text : List Char) : List Char :=
  delimiter q ++ (if q.lines && newlineIn text then ['\n'] else [])
    ++ (if q.escapes then escapeFrom q.lines 0 text else text) ++ delimiter q

def quoteChars (text : List Char) : List Char := quoteWith (chooseQuoting text) text

def quote (text : String) : String := String.ofList (quoteChars text.toList)

end RemoteClient.Toml
