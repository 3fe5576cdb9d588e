import RemoteClient.Toml.Value

/-!
Collecting the statements of a document into one table. A table is defined in one place only: a
header may open it once, dotted keys extend only what dotted keys made, and nothing is added to a
table in braces or to a written array.
-/

namespace RemoteClient.Toml

inductive Statement where
  | header (path : List String)
  | arrayHeader (path : List String)
  | assign (path : List String) (value : Value)

namespace Entries

def put (key : String) (value : Value) : Entries → Entries
  | [] => [(key, value)]
  | entry :: rest =>
    if key < entry.1 then (key, value) :: entry :: rest
    else if key = entry.1 then (key, value) :: rest
    else entry :: put key value rest

def remove (entries : Entries) (key : String) : Entries := entries.filter (·.1 ≠ key)

def insert? (entries : Entries) (key : String) (value : Value) : Option Entries :=
  if (entries.lookup key).isSome then none else some (entries.put key value)

end Entries

def canEnter (dotted : Bool) (kind : TableKind) : Bool :=
  match kind with
  | .header => !dotted
  | .implied | .dotted => true
  | .inline => false

/-- Goes down a path, making tables on the way, and changes the table it ends in. The last table of
an array stands for the array, and may always be entered. -/
def descend {α : Type} (dotted : Bool) (act : TableKind → Entries → Option (α × Entries)) :
    List String → TableKind → Entries → Option (α × Entries)
  | [], kind, entries => act kind entries
  | key :: rest, _, entries =>
    match entries.lookup key with
    | none => do
      let kind := if dotted then .dotted else .implied
      let (a, inner) ← descend dotted act rest kind []
      return (a, Entries.put key (.table kind inner) entries)
    | some (.table kind inner) =>
      if canEnter dotted kind then do
        let (a, inner) ← descend dotted act rest kind inner
        return (a, Entries.put key (.table kind inner) entries)
      else none
    | some (.array items true) =>
      match items.getLast? with
      | some (.table kind inner) => do
        let (a, inner) ← descend dotted act rest kind inner
        return (a, Entries.put key (.array (items.dropLast ++ [.table kind inner]) true) entries)
      | _ => none
    | some _ => none

/-- A path is never empty: the last key and what leads to it. -/
def splitLast : List String → List String × String
  | [] => ([], "")
  | [key] => ([], key)
  | key :: rest => let (path, last) := splitLast rest; (key :: path, last)

/-- Dotted keys end in a table that dotted keys made. -/
def assign? (path : List String) (value : Value) (kind : TableKind) (entries : Entries) :
    Option Entries := do
  let (path, key) := splitLast path
  let insert (kind : TableKind) (entries : Entries) : Option (Unit × Entries) :=
    if path.isEmpty || kind = .dotted then (Entries.insert? entries key value).map ((), ·) else none
  let ((), entries) ← descend (!path.isEmpty) insert path kind entries
  return entries

inductive Section where
  | top
  | table (path : List String)
  | element (path : List String)

structure Collection where
  root : Entries
  current : Entries
  place : Section

namespace Collection

def start : Collection := ⟨[], [], .top⟩

def addElement (key : String) (table : Value) (entries : Entries) : Option (Unit × Entries) :=
  match entries.lookup key with
  | none => some ((), Entries.put key (.array [table] true) entries)
  | some (.array items true) => some ((), Entries.put key (.array (items ++ [table]) true) entries)
  | some _ => none

def finish (c : Collection) : Option Entries := do
  match c.place with
  | .top => return c.current
  | .table path =>
    let (path, key) := splitLast path
    let table := Value.table .header c.current
    let ((), root) ← descend false
      (fun _ entries => (Entries.insert? entries key table).map ((), ·)) path .header c.root
    return root
  | .element path =>
    let (path, key) := splitLast path
    let ((), root) ← descend false (fun _ => addElement key (.table .header c.current)) path .header
      c.root
    return root

/-- A table that was only implied so far can be opened; it is taken out until its section ends. -/
def takeImplied (key : String) (entries : Entries) : Option (Entries × Entries) :=
  match entries.lookup key with
  | none => some ([], entries)
  | some (.table .implied inner) => some (inner, Entries.remove entries key)
  | some _ => none

def open? (root : Entries) (path : List String) : Option Collection := do
  let (parents, key) := splitLast path
  let (current, root) ← descend false (fun _ => takeImplied key) parents .header root
  return ⟨root, current, .table path⟩

def add? (c : Collection) : Statement → Option Collection
  | .assign path value => (assign? path value .header c.current).map ({ c with current := · })
  | .header path => do open? (← c.finish) path
  | .arrayHeader path => do return ⟨← c.finish, [], .element path⟩

def addAll? (c : Collection) : List Statement → Option Collection
  | [] => some c
  | statement :: rest => do addAll? (← c.add? statement) rest

end Collection

def collect? (statements : List Statement) : Option Entries := do
  (← Collection.start.addAll? statements).finish

end RemoteClient.Toml
