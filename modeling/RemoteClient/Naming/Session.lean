import RemoteClient.Naming.Table

namespace RemoteClient.Naming

inductive Request where
  | allocate (name : String)
  | reserve (name : String)
  | isReserved (name : String)
  | lookup (name : String)
  | depth
  | enter (names : List String)
  | exit
  deriving DecidableEq, Repr

inductive Answer where
  | done
  | name (given : String)
  | found (given : Option String)
  | verdict (holds : Bool)
  | depth (scopes : Nat)
  | atRoot
  deriving DecidableEq, Repr

namespace Table

def step (t : Table) : Request → Answer × Table
  | .allocate name => let (given, t) := t.allocate name; (.name given, t)
  | .reserve name => (.done, t.reserve name)
  | .isReserved name => (.verdict (t.isReserved name), t)
  | .lookup name => (.found (t.lookup? name), t)
  | .depth => (.depth t.depth, t)
  | .enter names => let t := t.enter names; (.depth t.depth, t)
  | .exit =>
    match t.exit? with
    | some t => (.depth t.depth, t)
    | none => (.atRoot, t)

def run (t : Table) : List Request → List Answer × Table
  | [] => ([], t)
  | request :: rest =>
    let (answer, t) := t.step request
    let (answers, t) := t.run rest
    (answer :: answers, t)

end Table

end RemoteClient.Naming
