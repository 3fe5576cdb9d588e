import RemoteClient.Proofs.Toml.Collecting
import RemoteClient.Toml.Reader

namespace RemoteClient.Toml

variable {s rest : List Char} {path : List String} {v : Value} {statements : List Statement}
    {root : Entries}

def Statement.Sound : Statement → Prop
  | .header path | .arrayHeader path => path ≠ []
  | .assign path value => SoundLine (path, value)

def statements? (s : List Char) : Option (List Statement) :=
  let s := match s with
    | '\ufeff' :: rest => rest
    | _ => s
  readStatements? (s.length + 1) s

/-- A text with these entries. Numbers that are out of all range are no numbers. -/
structure Document (s : List Char) (root : Entries) : Prop where
  means : ∃ statements, statements? s = some statements ∧ Table (partsOf statements) root
  sized : (Value.table .header root).holds Value.isHuge = false

end RemoteClient.Toml
