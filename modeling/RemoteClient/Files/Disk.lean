namespace RemoteClient.Files

def isAbsolute (path : String) : Bool := path.toList.head? == some '/'

def pieces (path : List Char) : List (List Char) :=
  path.foldr (fun c acc => match acc with
    | [] => [[c]]
    | first :: rest => if c = '/' then [] :: first :: rest else (c :: first) :: rest) [[]]

/-- Pieces that name nothing at the end of a path: empty ones, and dots except in front. -/
def dropIdle : List (List Char) → List (List Char)
  | [] => []
  | first :: rest =>
    let kept := (rest.reverse.dropWhile fun p => p = [] ∨ p = ['.']).reverse
    if kept = [] ∧ first = [] then [] else first :: kept

def joinPieces : List (List Char) → List Char
  | [] => []
  | [piece] => piece
  | piece :: rest => piece ++ '/' :: joinPieces rest

/-- The path without its last name. The root and the empty path have none. -/
def parent? (path : String) : Option String :=
  if isAbsolute path then
    match dropIdle ([] :: pieces (path.toList.drop 1)) with
    | [] | [_] => none
    | names => some (String.ofList ('/' :: joinPieces ((dropIdle names.dropLast).drop 1)))
  else
    match dropIdle (pieces path.toList) with
    | [] => none
    | names => some (String.ofList (joinPieces (dropIdle names.dropLast)))

/-- An absolute path stands for itself. -/
def join (dir path : String) : String :=
  if isAbsolute path || dir == "" then path
  else if dir.toList.getLast? == some '/' then dir ++ path
  else dir ++ "/" ++ path

end RemoteClient.Files

namespace RemoteClient

namespace Files

inductive Error where
  | notFound
  | alreadyExists
  | notDirectory
  | isDirectory
  | nameTooLong
  | nulInName
  | invalidText
  | other (message : String)
  deriving DecidableEq, Repr

namespace Error

def message : Error → String
  | .notFound => "No such file or directory (os error 2)"
  | .alreadyExists => "File exists (os error 17)"
  | .notDirectory => "Not a directory (os error 20)"
  | .isDirectory => "Is a directory (os error 21)"
  | .nameTooLong => "File name too long (os error 36)"
  | .nulInName => "file name contained an unexpected NUL byte"
  | .invalidText => "stream did not contain valid UTF-8"
  | .other message => message

end Error

/-- `write` replaces what the file held; `append` adds to it. Both create a file that is not there.
`createDirectory` makes one directory. -/
class Disk (m : Type → Type) where
  fileExists : String → m Bool
  isDirectory : String → m Bool
  readText : String → m (Except Error String)
  write : String → String → m (Except Error Unit)
  append : String → String → m (Except Error Unit)
  createDirectory : String → m (Except Error Unit)

structure Environment where
  configHome : Option String
  home : Option String
  deriving DecidableEq, Repr

variable {m : Type → Type} [Monad m] [Disk m]

def tolerate (path : String) : Except Error Unit → m (Except Error Unit)
  | .ok () => return .ok ()
  | .error e => do
    if ← Disk.isDirectory path then return .ok () else return .error e

/-- Makes a directory and those it lies in. Each parent is a shorter text, so `fuel` counts the
characters of the path. -/
def createUpTo : Nat → String → m (Except Error Unit)
  | 0, _ => return .ok ()
  | fuel + 1, path => do
    if path == "" then return .ok ()
    match ← Disk.createDirectory path with
    | .error .notFound =>
      match parent? path with
      | none => return .error (.other "failed to create whole tree")
      | some parent =>
        match ← createUpTo fuel parent with
        | .error e => return .error e
        | .ok () => tolerate path (← Disk.createDirectory path)
    | result => tolerate path result

def createDirectories (path : String) : m (Except Error Unit) :=
  createUpTo (path.length + 1) path

def createParents (path : String) : m (Except Error Unit) :=
  match parent? path with
  | some parent => createDirectories parent
  | none => return .ok ()

end Files

end RemoteClient
