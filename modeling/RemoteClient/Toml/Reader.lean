import RemoteClient.Toml.Document
import RemoteClient.Toml.Scalar
import RemoteClient.Toml.Text

namespace RemoteClient.Toml

def skipBlanks (s : List Char) : List Char := s.dropWhile isBlank

def skipComment : List Char → List Char
  | '#' :: rest => rest.dropWhile isPlain
  | s => s

def endLine? (s : List Char) : Option (List Char) :=
  match skipComment (skipBlanks s) with
  | [] => some []
  | s => afterNewline? s

/-- Blanks, line breaks and comments, as may stand between brackets; `inside` a comment all is
skipped up to the end of the line. -/
def skipSpace (inside : Bool) : List Char → List Char
  | [] => []
  | '\n' :: rest => skipSpace false rest
  | '\r' :: '\n' :: rest => skipSpace false rest
  | c :: rest =>
    if inside then (if isPlain c then skipSpace true rest else c :: rest)
    else if isBlank c then skipSpace false rest
    else if c = '#' then skipSpace true rest
    else c :: rest

def skipAround (braces : Bool) (s : List Char) : List Char :=
  if braces then skipSpace false s else skipBlanks s

/-- Brackets may be nested this deep, and a path may have as many keys. -/
def deepest : Nat := 80

def isBare (c : Char) : Bool := c.isAlphanum || c = '_' || c = '-'

def readKey? (s : List Char) : Option (String × List Char) :=
  match s.takeWhile isBare with
  | [] => (readLine? s).map fun (key, rest) => (String.ofList key, rest)
  | bare => some (String.ofList bare, s.dropWhile isBare)

def readPath? : Nat → List Char → Option (List String × List Char)
  | 0, _ => none
  | fuel + 1, s => do
    let (key, rest) ← readKey? s
    match skipBlanks rest with
    | '.' :: more =>
      let (path, rest) ← readPath? fuel (skipBlanks more)
      return (key :: path, rest)
    | _ => return ([key], rest)

def readDotted? (s : List Char) : Option (List String × List Char) :=
  (readPath? (s.length + 1) s).filter (·.1.length ≤ deepest)

def readAssigned? (braces : Bool) (s : List Char) : Option (List String × List Char) := do
  let (path, rest) ← readDotted? s
  match skipAround braces rest with
  | '=' :: rest => some (path, skipAround braces rest)
  | _ => none

def endsScalar (c : Char) : Bool :=
  isBlank c || c = '\n' || c = '\r' || c = '#' || c = '"' || c = '\'' || c = ',' || c = '='
    || c = '[' || c = ']' || c = '\x7b' || c = '\x7d'

/-- A date may have a time after one blank. -/
def readScalar? (s : List Char) : Option (Value × List Char) :=
  let first := s.takeWhile (!endsScalar ·)
  let rest := s.dropWhile (!endsScalar ·)
  match date? first, rest with
  | some [], ' ' :: c :: more =>
    if c.isDigit then
      (scalar? (first ++ ' ' :: (c :: more).takeWhile (!endsScalar ·))).map
        (·, (c :: more).dropWhile (!endsScalar ·))
    else (scalar? first).map (·, rest)
  | _, _ => (scalar? first).map (·, rest)

mutual

/-- `depth` counts the brackets around the value. -/
def readValue? : Nat → Nat → List Char → Option (Value × List Char)
  | 0, _, _ => none
  | fuel + 1, depth, s =>
    match s with
    | [] => none
    | '[' :: rest =>
      if depth < deepest then (readItems? fuel (depth + 1) (skipSpace false rest)).map
        fun (items, rest) => (.array items false, rest)
      else none
    | '\x7b' :: rest =>
      if depth < deepest then (readEntries? fuel (depth + 1) [] (skipSpace false rest)).map
        fun (entries, rest) => (.table .inline entries, rest)
      else none
    | c :: _ =>
      if c = '"' ∨ c = '\'' then (readText? s).map fun (cs, rest) =>
        (.text (String.ofList cs), rest)
      else readScalar? s

def readItems? : Nat → Nat → List Char → Option (List Value × List Char)
  | 0, _, _ => none
  | fuel + 1, depth, s =>
    match s with
    | ']' :: rest => some ([], rest)
    | _ => do
      let (item, rest) ← readValue? fuel depth s
      match skipSpace false rest with
      | ']' :: rest => some ([item], rest)
      | ',' :: rest =>
        let (items, rest) ← readItems? fuel depth (skipSpace false rest)
        return (item :: items, rest)
      | _ => none

def readEntries? : Nat → Nat → Entries → List Char → Option (Entries × List Char)
  | 0, _, _, _ => none
  | fuel + 1, depth, entries, s =>
    match s with
    | '\x7d' :: rest => some (entries, rest)
    | _ => do
      let (path, rest) ← readAssigned? true s
      let (value, rest) ← readValue? fuel depth rest
      let entries ← assign? path value .header entries
      match skipSpace false rest with
      | '\x7d' :: rest => some (entries, rest)
      | ',' :: rest => readEntries? fuel depth entries (skipSpace false rest)
      | _ => none

end

def readHeaderPath? (s : List Char) : Option (List String × List Char) := do
  let (path, rest) ← readDotted? (skipBlanks s)
  return (path, skipBlanks rest)

def readHeader? (s : List Char) : Option (Statement × List Char) := do
  match ← readHeaderPath? s with
  | (path, ']' :: rest) => some (.header path, rest)
  | _ => none

def readArrayHeader? (s : List Char) : Option (Statement × List Char) := do
  match ← readHeaderPath? s with
  | (path, ']' :: ']' :: rest) => some (.arrayHeader path, rest)
  | _ => none

def readAssignment? (s : List Char) : Option (Statement × List Char) := do
  let (path, rest) ← readAssigned? false s
  let (value, rest) ← readValue? (2 * rest.length + 2) 0 rest
  return (.assign path value, rest)

def readStatement? : List Char → Option (Statement × List Char)
  | '[' :: '[' :: rest => readArrayHeader? rest
  | '[' :: rest => readHeader? rest
  | s => readAssignment? s

def readStatements? : Nat → List Char → Option (List Statement)
  | 0, _ => none
  | fuel + 1, s =>
    match skipBlanks s with
    | [] => some []
    | s =>
      match endLine? s with
      | some rest => readStatements? fuel rest
      | none => do
        let (statement, rest) ← readStatement? s
        let statements ← readStatements? fuel (← endLine? rest)
        return statement :: statements

def read? (s : List Char) : Option Entries := do
  let s := match s with
    | '\ufeff' :: rest => rest
    | _ => s
  collect? (← readStatements? (s.length + 1) s)

end RemoteClient.Toml
