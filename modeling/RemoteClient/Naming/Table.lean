import RemoteClient.Text.Lowercase

/-!
A stack of naming scopes that hands out names which are free, up to letter case, in the current
scope and in every scope around it.
-/

namespace RemoteClient.Naming

/-- Names that agree after folding count as one name. -/
def fold (name : String) : String := Text.lowercase name

/-- What one scope recorded. `allocated` pairs each folded request with the name given for it. -/
structure Scope where
  allocated : List (String × String)
  reserved : List String
  deriving DecidableEq, Repr

namespace Scope

def reserving (names : List String) : Scope := ⟨[], names.map fold⟩

def lookup? (s : Scope) (key : String) : Option String := s.allocated.lookup key

def holds (s : Scope) (key : String) : Bool := s.reserved.contains key

def reserve (s : Scope) (key : String) : Scope :=
  if s.holds key then s else { s with reserved := key :: s.reserved }

def record (s : Scope) (key name : String) : Scope :=
  { s with allocated := (key, name) :: s.allocated }

end Scope

/-- The root scope is the last of `current :: enclosing` and is never left. -/
structure Table where
  current : Scope
  enclosing : List Scope
  deriving DecidableEq, Repr

namespace Table

/-- Innermost first. -/
def scopes (t : Table) : List Scope := t.current :: t.enclosing

def ofReserved (names : List String) : Table := ⟨Scope.reserving names, []⟩

def depth (t : Table) : Nat := t.enclosing.length

def holds (t : Table) (key : String) : Bool := t.scopes.any (·.holds key)

def isReserved (t : Table) (name : String) : Bool := t.holds (fold name)

def lookupKey? (t : Table) (key : String) : Option String := t.scopes.findSome? (·.lookup? key)

def lookup? (t : Table) (desired : String) : Option String := t.lookupKey? (fold desired)

def reserve (t : Table) (name : String) : Table :=
  { t with current := t.current.reserve (fold name) }

def numbered (desired : String) (k : Nat) : String := desired ++ "_" ++ toString k

/-- The first of `candidate`, `desired_k`, `desired_(k+1)`, … that is free. Each probe that fails
has hit another reservation, so a budget of one more than their number is never used up. -/
def probe (t : Table) (desired : String) (candidate : String) (k : Nat) : Nat → String
  | 0 => candidate
  | budget + 1 =>
    if t.isReserved candidate then t.probe desired (numbered desired k) (k + 1) budget
    else candidate

def reservedCount (t : Table) : Nat := (t.scopes.map (·.reserved.length)).foldr (· + ·) 0

def uniqueName (t : Table) (desired : String) : String :=
  t.probe desired desired 0 (t.reservedCount + 1)

/-- The name for `desired`: the one given before, if any scope in sight gave one, else a name that
is free and from now on reserved. -/
def allocate (t : Table) (desired : String) : String × Table :=
  let key := fold desired
  match t.lookupKey? key with
  | some name => (name, t)
  | none =>
    let name := t.uniqueName desired
    (name, { t with current := (t.current.reserve (fold name)).record key name })

def enter (t : Table) (names : List String) : Table :=
  ⟨Scope.reserving names, t.current :: t.enclosing⟩

def exit? (t : Table) : Option Table :=
  match t.enclosing with
  | [] => none
  | parent :: rest => some ⟨parent, rest⟩

def leave (t : Table) : Table := t.exit?.getD t

def leaveAll (t : Table) : Table :=
  match t.enclosing.getLast? with
  | none => t
  | some root => ⟨root, []⟩

end Table

end RemoteClient.Naming
