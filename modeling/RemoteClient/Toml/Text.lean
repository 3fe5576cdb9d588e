import RemoteClient.Toml.Value

namespace RemoteClient.Toml

def hexValue? (c : Char) : Option Nat :=
  if '0' ≤ c ∧ c ≤ '9' then some (c.toNat - '0'.toNat)
  else if 'a' ≤ c ∧ c ≤ 'f' then some (c.toNat - 'a'.toNat + 10)
  else if 'A' ≤ c ∧ c ≤ 'F' then some (c.toNat - 'A'.toNat + 10)
  else none

def readHex : Nat → Nat → List Char → Option (Nat × List Char)
  | 0, code, s => some (code, s)
  | _ + 1, _, [] => none
  | count + 1, code, c :: rest => do readHex count (16 * code + (← hexValue? c)) rest

def charOfCode? (code : Nat) : Option Char :=
  if code.isValidChar then some (Char.ofNat code) else none

def readCode (digits : Nat) (s : List Char) : Option (List Char × List Char) := do
  let (code, rest) ← readHex digits 0 s
  return ([← charOfCode? code], rest)

def dropLines : List Char → List Char
  | ' ' :: rest => dropLines rest
  | '\t' :: rest => dropLines rest
  | '\n' :: rest => dropLines rest
  | '\r' :: '\n' :: rest => dropLines rest
  | s => s

def readJoin (s : List Char) : Option (List Char × List Char) := do
  let rest ← afterNewline? (s.dropWhile isBlank)
  return ([], dropLines rest)

def readEscape (lines : Bool) : List Char → Option (List Char × List Char)
  | 'b' :: rest => some (['\x08'], rest)
  | 't' :: rest => some (['\t'], rest)
  | 'n' :: rest => some (['\n'], rest)
  | 'f' :: rest => some (['\x0c'], rest)
  | 'r' :: rest => some (['\r'], rest)
  | 'e' :: rest => some (['\x1b'], rest)
  | '"' :: rest => some (['"'], rest)
  | '\\' :: rest => some (['\\'], rest)
  | 'x' :: rest => readCode 2 rest
  | 'u' :: rest => readCode 4 rest
  | 'U' :: rest => readCode 8 rest
  | s => if lines then readJoin s else none

/-- At the end of a text on several lines, up to two quotes before the closing three belong to
it. -/
def closing? (q : Quoting) (s : List Char) : Option (List Char × List Char) :=
  if q.lines then
    match s with
    | a :: b :: c :: rest =>
      if a = q.quote ∧ b = q.quote ∧ c = q.quote then
        let extra := (rest.take 2).takeWhile (· = q.quote)
        some (extra, rest.drop extra.length)
      else none
    | _ => none
  else
    match s with
    | c :: rest => if c = q.quote then some ([], rest) else none
    | [] => none

def readPiece (q : Quoting) : List Char → Option (List Char × List Char)
  | [] => none
  | c :: rest =>
    if c = '\\' ∧ q.escapes then readEscape q.lines rest
    else if isPlain c then some ([c], rest)
    else if q.lines then
      match c, rest with
      | '\n', _ => some (['\n'], rest)
      | '\r', '\n' :: rest => some (['\r', '\n'], rest)
      | _, _ => none
    else none

def readBody (q : Quoting) : Nat → List Char → Option (List Char × List Char)
  | 0, _ => none
  | fuel + 1, s =>
    match closing? q s with
    | some done => some done
    | none => do
      let (piece, rest) ← readPiece q s
      let (more, rest) ← readBody q fuel rest
      return (piece ++ more, rest)

/-- A line break right after the opening quotes is no part of the text. -/
def readQuoted (q : Quoting) (s : List Char) : Option (List Char × List Char) :=
  let s := if q.lines then (afterNewline? s).getD s else s
  readBody q (s.length + 1) s

def readLine? : List Char → Option (List Char × List Char)
  | '"' :: rest => readQuoted .basic rest
  | '\'' :: rest => readQuoted .literal rest
  | _ => none

def readText? : List Char → Option (List Char × List Char)
  | '"' :: '"' :: '"' :: rest => readQuoted .basicLines rest
  | '\'' :: '\'' :: '\'' :: rest => readQuoted .literalLines rest
  | s => readLine? s

end RemoteClient.Toml
