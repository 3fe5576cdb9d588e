import RemoteClient.Files.Disk

namespace RemoteClient.Files

inductive Content where
  | text (value : String)
  | binary (bytes : List UInt8)
  deriving DecidableEq, Repr

inductive Node where
  | file (content : Content)
  | directory
  deriving DecidableEq, Repr

abbrev Location := List String

/-- The root is always there. Relative paths begin at `current`. -/
structure Tree where
  current : Location
  nodes : List (Location × Node)
  deriving DecidableEq, Repr

namespace Content

def ofBytes (bytes : List UInt8) : Content :=
  match String.fromUTF8? ⟨bytes.toArray⟩ with
  | some value => .text value
  | none => .binary bytes

def append : Content → String → Content
  | .text value, more => .text (value ++ more)
  | .binary bytes, more => .binary (bytes ++ more.toUTF8.toList)

end Content

/-- Where a path leads. A path to a place that is `free`, or whose last name is `tooLong` for any
place, has a directory around it; `slash` tells whether it ends in a slash, which asks for a
directory. -/
inductive Target where
  | file (place : Location) (content : Content) (slash : Bool)
  | directory (place : Location)
  | free (place : Location) (slash : Bool)
  | tooLong (slash : Bool)
  | failed (reason : Error)
  deriving DecidableEq, Repr

namespace Tree

def node? (t : Tree) (place : Location) : Option Node :=
  if place = [] then some .directory else t.nodes.lookup place

def put (t : Tree) (place : Location) (node : Node) : Tree :=
  if t.nodes.any (·.1 == place) then
    { t with nodes := t.nodes.map fun entry => if entry.1 = place then (place, node) else entry }
  else { t with nodes := t.nodes ++ [(place, node)] }

def longestName : Nat := 255

def longestPath : Nat := 4095

def follow (t : Tree) (place : Location) (slash : Bool) : List String → Target
  | [] => .directory place
  | name :: rest =>
    if longestName < name.utf8ByteSize then
      if rest.isEmpty then .tooLong slash else .failed .nameTooLong
    else if name == "." then t.follow place slash rest
    else if name == ".." then t.follow place.dropLast slash rest
    else
      match t.node? (place ++ [name]) with
      | some .directory => t.follow (place ++ [name]) slash rest
      | some (.file content) =>
        if rest.isEmpty then .file (place ++ [name]) content slash else .failed .notDirectory
      | none => if rest.isEmpty then .free (place ++ [name]) slash else .failed .notFound

def resolve (t : Tree) (path : String) : Target :=
  if path == "" then .failed .notFound
  else if path.toList.contains '\x00' then .failed .nulInName
  else if longestPath < path.utf8ByteSize then .failed .nameTooLong
  else
    let names := ((pieces path.toList).filter (· ≠ [])).map String.ofList
    t.follow (if isAbsolute path then [] else t.current) (path.toList.getLast? == some '/') names

def fileExists (t : Tree) (path : String) : Bool :=
  match t.resolve path with
  | .file _ _ slash => !slash
  | .directory _ => true
  | .free _ _ | .tooLong _ | .failed _ => false

def isDirectory (t : Tree) (path : String) : Bool :=
  match t.resolve path with
  | .directory _ => true
  | .file _ _ _ | .free _ _ | .tooLong _ | .failed _ => false

def readText (t : Tree) (path : String) : Except Error String :=
  match t.resolve path with
  | .file _ (.text value) false => .ok value
  | .file _ (.binary _) false => .error .invalidText
  | .file _ _ true => .error .notDirectory
  | .directory _ => .error .isDirectory
  | .free _ _ => .error .notFound
  | .tooLong _ => .error .nameTooLong
  | .failed reason => .error reason

/-- Puts new content into a file, made from what it held before. A slash at the end is noticed
before the name itself is looked up. -/
def change (t : Tree) (path : String) (update : Option Content → Content) :
    Except Error Unit × Tree :=
  match t.resolve path with
  | .file place content false => (.ok (), t.put place (.file (update (some content))))
  | .free place false => (.ok (), t.put place (.file (update none)))
  | .file _ _ true | .free _ true | .tooLong true => (.error .isDirectory, t)
  | .tooLong false => (.error .nameTooLong, t)
  | .directory _ => (.error .isDirectory, t)
  | .failed reason => (.error reason, t)

def write (t : Tree) (path content : String) : Except Error Unit × Tree :=
  t.change path fun _ => .text content

def append (t : Tree) (path content : String) : Except Error Unit × Tree :=
  t.change path fun
    | some before => before.append content
    | none => .text content

def createDirectory (t : Tree) (path : String) : Except Error Unit × Tree :=
  match t.resolve path with
  | .free place _ => (.ok (), t.put place .directory)
  | .file _ _ _ | .directory _ => (.error .alreadyExists, t)
  | .tooLong _ => (.error .nameTooLong, t)
  | .failed reason => (.error reason, t)

end Tree

abbrev OnTree := StateM Tree

instance : Disk OnTree where
  fileExists path := return (← get).fileExists path
  isDirectory path := return (← get).isDirectory path
  readText path := return (← get).readText path
  write path content := modifyGet (·.write path content)
  append path content := modifyGet (·.append path content)
  createDirectory path := modifyGet (·.createDirectory path)

end RemoteClient.Files
