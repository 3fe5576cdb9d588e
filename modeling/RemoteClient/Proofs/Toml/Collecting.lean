import RemoteClient.Proofs.Toml.Descending

namespace RemoteClient.Toml

open Collection (addElement takeImplied)

variable {path : List String} {last : String} {c : Content} {p : Part} {parts : List Part}
variable {lines : List (List String × Value)} {root entries : Entries} {v : Value}
    {kind : TableKind}

def assignAll? (lines : List (List String × Value)) (entries : Entries) : Option Entries :=
  lines.foldlM (fun entries line => assign? line.1 line.2 .header entries) entries

namespace Content

def meet? : Content → Option Value → Option Value
  | .value v, none => some v
  | .table lines, none => (assignAll? lines []).map (.table .header)
  | .table lines, some (.table .implied entries) => (assignAll? lines entries).map (.table .header)
  | .element lines, none =>
    (assignAll? lines []).map fun entries => .array [.table .header entries] true
  | .element lines, some (.array items true) =>
    (assignAll? lines []).map fun entries => .array (items ++ [.table .header entries]) true
  | _, _ => none

end Content

theorem shape_value (written : v.isWritten) {w : Value} :
    Shape (parts ++ [⟨[], .value v⟩]) (some w) ↔
    ∃ slot, Shape parts slot ∧ (Content.value v).meet? slot = some w := by
  constructor
  · intro shape
    rcases shape.ending with ⟨same, rfl⟩ | ⟨_, _, same, _⟩ | ⟨_, _, _, same, _⟩
    all_goals cases same
    exact ⟨none, .absent, rfl⟩
  · rintro ⟨slot, shape, met⟩
    cases slot with
    | some w => cases met
    | none =>
        cases met
        rw [Shape.none_iff.mp shape]
        exact .value written

theorem splitLast_concat (path : List String) (last : String) :
    splitLast (path ++ [last]) = (path, last) := by
  induction path with
  | nil => rfl
  | cons key path ih =>
      cases path with
      | nil => rfl
      | cons next path =>
          rw [List.cons_append] at ih ⊢
          rw [List.cons_append, splitLast, ih]
          exact fun none => nomatch none

/-- Where a line ends, which dotted keys must have made unless the line has a single key. -/
def insertLine (single : Bool) (last : String) (v : Value) (kind : TableKind) (entries : Entries) :
    Option (Unit × Entries) :=
  if single || kind = .dotted then (entries.insert? last v).map ((), ·) else none

theorem assign_concat {last : String} : assign? (path ++ [last]) v kind entries =
    (descend (!path.isEmpty) (insertLine path.isEmpty last v) path kind entries).map (·.2) := by
  simp only [assign?, splitLast_concat, Option.bind_eq_bind, Option.pure_def]
  rw [Option.map_eq_bind]
  rfl

theorem insertLine_iff (written : v.isWritten) {single : Bool} (may : single || kind = .dotted) :
    Table (parts ++ [⟨[last], .value v⟩]) root ↔
      ∃ before, Table parts before ∧
        (insertLine single last v kind before).map (·.2) = some root := by
  rw [table_concat _ fun _ _ => shape_value written]
  refine exists_congr fun before => and_congr_right fun _ => ?_
  rw [insertLine, if_pos may, Entries.insert?]
  cases before.lookup last <;> simp [Content.meet?]

theorem assign_iff (named : path ≠ []) (written : v.isWritten) :
    Table (parts ++ [⟨path, .value v⟩]) root ↔
    ∃ before, Table parts before ∧ assign? path v .header before = some root := by
  obtain ⟨path, last, rfl⟩ := List.eq_nil_or_concat path |>.resolve_left named
  simp only [List.concat_eq_append, assign_concat]
  cases path with
  | nil => exact insertLine_iff written rfl
  | cons key path =>
      refine table_descend (insertLine false last v) (fun kind parts root ends => ?_)
        (fun kind before other => ?_) ?_
      · exact insertLine_iff written (by simpa using ends rfl rfl)
      · have undotted : kind ≠ .dotted := fun dotted => other fun _ _ => dotted
        simp [insertLine, undotted]
      · simp [Part.EndsIn]

/-- As the reader gives it: no path is empty, no value was put together from several lines. -/
def SoundLine (line : List String × Value) : Prop := line.1 ≠ [] ∧ line.2.isWritten

section

variable (sound : ∀ line ∈ lines, SoundLine line)
include sound

theorem assignAll_iff : Table (parts ++ ofLines lines) root ↔
    ∃ before, Table parts before ∧ assignAll? lines before = some root :=
  table_all _ _ fun line member => assign_iff (sound line member).1 (sound line member).2

theorem assignAll_nil_iff : Table (ofLines lines) root ↔ assignAll? lines [] = some root := by
  have all : Table ([] ++ ofLines lines) root ↔ _ := assignAll_iff sound
  simpa [table_nil] using all

theorem Shape.opens (implied : parts = [] ∨ Led .implied parts) (table : Table parts entries)
    (assigned : assignAll? lines entries = some root) :
    Shape (parts ++ [⟨[], .table lines⟩]) (some (.table .header root)) := by
  have whole := (assignAll_iff sound).mpr ⟨entries, table, assigned⟩
  have opened : Opened .header (parts ++ [⟨[], .table lines⟩]) (parts ++ ofLines lines ++ []) :=
    .header implied (by simp)
  rw [List.append_nil] at opened
  exact .table opened whole

theorem Elements.adds {items : List Value} (elements : Elements parts items)
    (assigned : assignAll? lines [] = some root) :
    Shape (parts ++ [⟨[], .element lines⟩])
      (some (.array (items ++ [.table .header root]) true)) := by
  have table := (assignAll_nil_iff sound).mpr assigned
  exact .array (.next elements (by simp) (by rwa [List.append_nil])) concat_ne_nil

end

def Part.add? (p : Part) (root : Entries) : Option Entries :=
  match p.content with
  | .value v => assign? p.path v .header root
  | .table lines => do
    let c ← Collection.open? root p.path
    let current ← assignAll? lines c.current
    Collection.finish { c with current }
  | .element lines => do
    let current ← assignAll? lines []
    Collection.finish ⟨root, current, .element p.path⟩

def Part.Sound (p : Part) : Prop :=
  p.path ≠ [] ∧ match p.content with
    | .value v => v.isWritten
    | .table lines | .element lines => ∀ line ∈ lines, SoundLine line

end RemoteClient.Toml
