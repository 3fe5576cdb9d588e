import RemoteClient.Proofs.Toml.Entries

/-!
What the statements of a document mean, told without going through them one after another: what
stands at a key depends on the parts of the document that lead to the key, and on no others.
-/

namespace RemoteClient.Toml

/-- What a part of a document puts at the end of its path: a value, or a section with its lines. -/
inductive Content where
  | value (value : Value)
  | table (lines : List (List String × Value))
  | element (lines : List (List String × Value))

/-- A line, or a header with the lines below it, as seen from a table on the way. -/
structure Part where
  path : List String
  content : Content

def Content.isLine (c : Content) : Bool := c matches .value _

def leading : List Statement → List (List String × Value)
  | .assign path value :: rest => (path, value) :: leading rest
  | _ => []

def sections : List Statement → List Part
  | [] => []
  | .assign _ _ :: rest => sections rest
  | .header path :: rest => ⟨path, .table (leading rest)⟩ :: sections rest
  | .arrayHeader path :: rest => ⟨path, .element (leading rest)⟩ :: sections rest

def ofLines (lines : List (List String × Value)) : List Part :=
  lines.map fun line => ⟨line.1, .value line.2⟩

def partsOf (statements : List Statement) : List Part :=
  ofLines (leading statements) ++ sections statements

namespace Part

def leads (p : Part) : TableKind := if p.content.isLine then .dotted else .implied

/-- A line can end only in a table that dotted keys made. -/
def EndsIn (p : Part) (kind : TableKind) : Prop :=
  p.content.isLine → p.path.length = 1 → kind = .dotted

/-- The part goes into a table, and if it is a line, into another one inside. -/
def Passes (p : Part) : Prop := p.path ≠ [] ∧ p.EndsIn .header

/-- What can be added to a table: to one that dotted keys made, anything; to one that was only
implied, what passes; to one with a header of its own, sections. -/
def Joins (p : Part) : TableKind → Prop
  | .dotted => p.path ≠ []
  | .implied => p.Passes
  | .header => p.path ≠ [] ∧ p.content.isLine = false
  | .inline => False

def beyond? (key : String) (p : Part) : Option Part :=
  match p.path with
  | [] => none
  | first :: rest => if first = key then some ⟨rest, p.content⟩ else none

end Part

def toward (key : String) (parts : List Part) : List Part := parts.filterMap (·.beyond? key)

/-- Parts that make a table on the way to something inside it. The first decides what kind of table
it is. -/
inductive Led : TableKind → List Part → Prop
  | parts {first : Part} {rest : List Part} (join : ∀ p ∈ first :: rest, p.Joins first.leads) :
      Led first.leads (first :: rest)

/-- How a table comes to be from the parts that lead to it, with the parts to be seen inside. A
table that was implied may still get a header of its own. -/
inductive Opened : TableKind → List Part → List Part → Prop
  | led {kind : TableKind} {parts : List Part} (led : Led kind parts) : Opened kind parts parts
  | header {before after : List Part} {lines : List (List String × Value)}
      (implied : before = [] ∨ Led .implied before)
      (join : ∀ p ∈ after, p.Joins .header) :
      Opened .header (before ++ ⟨[], .table lines⟩ :: after) (before ++ ofLines lines ++ after)

/-- A value as it is written: tables are in braces, arrays in brackets. -/
def Value.isWritten : Value → Bool
  | .table kind _ => kind = .inline
  | .array _ tables => !tables
  | _ => true

mutual

/-- What stands at a key, by the parts that lead to it. -/
inductive Shape : List Part → Option Value → Prop
  | absent : Shape [] none
  | value {v : Value} (written : v.isWritten) : Shape [⟨[], .value v⟩] (some v)
  | table {kind : TableKind} {parts inside : List Part} {entries : Entries}
      (opened : Opened kind parts inside)
      (table : Table inside entries) : Shape parts (some (.table kind entries))
  | array {parts : List Part} {items : List Value} (elements : Elements parts items)
      (filled : items ≠ []) :
      Shape parts (some (.array items true))

/-- Each element has a header of its own, and takes what passes up to the next. -/
inductive Elements : List Part → List Value → Prop
  | none : Elements [] []
  | next {earlier later : List Part} {lines : List (List String × Value)} {items : List Value}
      {entries : Entries}
      (elements : Elements earlier items) (pass : ∀ p ∈ later, p.Passes)
      (table : Table (ofLines lines ++ later) entries) :
      Elements (earlier ++ ⟨[], .element lines⟩ :: later) (items ++ [.table .header entries])

/-- The entries of a table, by the parts seen inside. -/
inductive Table : List Part → Entries → Prop
  | keys {parts : List Part} {entries : Entries} (increasing : entries.Increasing)
      (named : ∀ p ∈ parts, p.path ≠ [])
        (each : ∀ key, Shape (toward key parts) (entries.lookup key)) :
      Table parts entries

end

section

variable {key other : String} {rest : List String} {c : Content} {p : Part}
    {parts inside : List Part}
variable {root entries : Entries} {slot : Option Value} {v : Value} {kind : TableKind}
    {items : List Value}

theorem toward_same :
    toward key (parts ++ [⟨key :: rest, c⟩]) = toward key parts ++ [⟨rest, c⟩] := by
  simp [toward, Part.beyond?]

theorem toward_other (apart : other ≠ key) :
    toward other (parts ++ [⟨key :: rest, c⟩]) = toward other parts := by
  simp [toward, Part.beyond?, Ne.symm apart]

theorem concat_ne_nil {α : Type} {xs : List α} {x : α} : xs ++ [x] ≠ [] := by simp

theorem forall_concat {P : Part → Prop} (all : ∀ q ∈ parts, P q) (holds : P p) :
    ∀ q ∈ parts ++ [p], P q := by
  rw [List.forall_mem_append, List.forall_mem_singleton]
  exact ⟨all, holds⟩

theorem concat_split {before after : List Part} {q : Part}
    (whole : parts ++ [p] = before ++ q :: after) :
    (parts = before ∧ p = q ∧ after = []) ∨ ∃ more, parts = before ++ q ::
      more ∧ after = more ++ [p] := by
  rcases List.eq_nil_or_concat after with rfl | ⟨more, last, rfl⟩
  · obtain ⟨same, only⟩ := List.append_inj' whole rfl
    exact .inl ⟨same, List.singleton_inj.mp only, rfl⟩
  · rw [List.concat_eq_append, ← List.cons_append, ← List.append_assoc] at whole
    obtain ⟨same, only⟩ := List.append_inj' whole rfl
    exact .inr ⟨more, same, by rw [List.concat_eq_append, only]⟩

theorem Shape.none_iff : Shape parts none ↔ parts = [] := by
  refine ⟨fun shape => ?_, fun empty => empty ▸ .absent⟩
  cases shape
  rfl

theorem Elements.nil_iff (elements : Elements parts items) : parts = [] ↔ items = [] := by
  cases elements with
  | none => simp
  | next => simp

theorem Opened.nonempty (opened : Opened kind parts inside) : parts ≠ [] := by
  cases opened with
  | led led => cases led; simp
  | header => simp

theorem Shape.nil (shape : Shape [] slot) : slot = none := by
  cases shape with
  | absent => rfl
  | table opened => exact absurd rfl opened.nonempty
  | array elements filled => exact absurd (elements.nil_iff.mp rfl) filled

theorem table_nil : Table [] entries ↔ entries = [] := by
  constructor
  · intro table
    cases table with
    | keys increasing _ each => exact increasing.ext .nil fun key => (each key).nil
  · rintro rfl
    exact .keys .nil (by simp) fun _ => .absent

theorem Table.increasing (table : Table parts entries) : entries.Increasing := by
  cases table
  assumption

/-- What one more part does at its first key, it does to the table. -/
theorem table_concat (step : Option Value → Option Value)
    (steps : ∀ parts v, Shape (parts ++ [⟨rest, c⟩]) (some v) ↔
      ∃ slot, Shape parts slot ∧ step slot = some v) :
    Table (parts ++ [⟨key :: rest, c⟩]) root ↔
      ∃ before, Table parts before ∧
        (step (before.lookup key)).map (before.put key ·) = some root := by
  constructor
  · intro table
    cases table with
    | keys increasing named each =>
        have here := each key
        rw [toward_same] at here
        cases found : root.lookup key with
        | none =>
            rw [found, Shape.none_iff] at here
            exact absurd here concat_ne_nil
        | some v =>
            rw [found, steps] at here
            obtain ⟨slot, shape, stepped⟩ := here
            -- Before the last part came, what it met stood at the key; all other keys are as they
            -- were.
            refine ⟨root.set key slot, ?_, ?_⟩
            · refine .keys increasing.set (fun p member => named p (by simp [member])) fun other =>
                ?_
              by_cases same : other = key
              · rw [same, Entries.lookup_set_same]
                exact shape
              · rw [Entries.lookup_set_other same, ← toward_other same]
                exact each other
            · rw [Entries.lookup_set_same, stepped, Option.map_some, increasing.put_set,
                increasing.put_found found]
  · rintro ⟨before, table, stepped⟩
    cases table with
    | keys increasing named each =>
        obtain ⟨v, found, rfl⟩ := Option.map_eq_some_iff.mp stepped
        refine .keys increasing.put (forall_concat named (List.cons_ne_nil key rest)) fun other =>
          ?_
        by_cases same : other = key
        · rw [same, toward_same, Entries.lookup_put_same, steps]
          exact ⟨_, each key, found⟩
        · rw [toward_other same, Entries.lookup_put_other same]
          exact each other

theorem table_all {ι : Type} (part : ι → Part) (add : Entries → ι → Option Entries) {xs : List ι}
    (adds : ∀ x ∈ xs, ∀ {parts root}, Table (parts ++ [part x]) root ↔
      ∃ before, Table parts before ∧ add before x = some root) :
    Table (parts ++ xs.map part) root ↔
      ∃ before, Table parts before ∧ xs.foldlM add before = some root := by
  induction xs generalizing parts with
  | nil => simp
  | cons x xs ih =>
      have shifted : parts ++ (x :: xs).map part = parts ++ [part x] ++ xs.map part := by simp
      rw [shifted, ih fun y member => adds y (List.mem_cons_of_mem _ member)]
      simp only [adds x List.mem_cons_self, List.foldlM_cons, Option.bind_eq_bind,
        Option.bind_eq_some_iff]
      tauto

theorem joins_iff :
    p.Joins kind ↔ p.path ≠ [] ∧ canEnter p.content.isLine kind ∧ p.EndsIn kind := by
  cases kind <;> simp [Part.Joins, Part.Passes, Part.EndsIn, canEnter]
  simp +contextual

theorem Part.joins_leads (nested : p.path ≠ []) : p.Joins p.leads := by
  rw [joins_iff, Part.leads]
  split_ifs with line <;> simp [canEnter, EndsIn, nested, line]

theorem Opened.join (opened : Opened kind parts inside) (joins : p.Joins kind) :
    Opened kind (parts ++ [p]) (inside ++ [p]) := by
  cases opened with
  | led led =>
      cases led with
      | parts join => exact .led (.parts (forall_concat join joins))
  | @header before after lines implied join =>
      rw [List.append_assoc, List.cons_append, List.append_assoc]
      exact .header implied (forall_concat join joins)

/-- The last part to go through a table either made it, or was added to it. -/
theorem Opened.last (opened : Opened kind (parts ++ [p]) inside) (nested : p.path ≠ []) :
    p.Joins kind ∧ ∃ before, inside = before ++ [p] ∧
      (parts = [] ∧ before = [] ∧ kind = p.leads ∨ Opened kind parts before) := by
  generalize whole : parts ++ [p] = all at opened
  cases opened with
  | led led =>
      cases led with
      | @parts first rest join =>
          refine ⟨join p (by simp [← whole]), parts, whole.symm, ?_⟩
          cases parts with
          | nil =>
              cases whole
              exact .inl ⟨rfl, rfl, rfl⟩
          | cons q parts =>
              cases whole
              exact .inr (.led (.parts fun p member => join p (by simp at member ⊢; tauto)))
  | @header before after lines implied join =>
      rcases concat_split whole with ⟨-, rfl, -⟩ | ⟨more, rfl, rfl⟩
      · exact absurd rfl nested
      · refine ⟨join p (by simp), before ++ ofLines lines ++ more, by simp, .inr ?_⟩
        exact .header implied fun q member => join q (by simp [member])

theorem Opened.ending (opened : Opened kind (parts ++ [⟨[], c⟩]) inside) :
    ∃ lines, c = .table lines ∧ kind = .header ∧ inside = parts ++ ofLines lines ∧
      (parts = [] ∨ Led .implied parts) := by
  generalize whole : parts ++ [⟨[], c⟩] = all at opened
  cases opened with
  | led led =>
      cases led with
      | @parts first rest join =>
          have joins := join ⟨[], c⟩ (by simp [← whole])
          exact absurd rfl (joins_iff.mp joins).1
  | @header before after lines implied join =>
      rcases concat_split whole with ⟨rfl, same, rfl⟩ | ⟨more, rfl, rfl⟩
      · cases same
        exact ⟨lines, rfl, rfl, List.append_nil _, implied⟩
      · exact absurd rfl (joins_iff.mp (join ⟨[], c⟩ (by simp))).1

theorem Opened.implied (opened : Opened .implied parts inside) :
    Led .implied parts ∧ inside = parts := by
  generalize same : TableKind.implied = kind at opened
  cases opened with
  | led led => exact ⟨same ▸ led, rfl⟩
  | header => cases same

theorem Elements.ending (elements : Elements (parts ++ [⟨[], c⟩]) items) :
    ∃ lines earlier entries, c = .element lines ∧ items = earlier ++ [.table .header entries] ∧
      Elements parts earlier ∧ Table (ofLines lines) entries := by
  generalize whole : parts ++ [⟨[], c⟩] = all at elements
  cases elements with
  | none => exact absurd whole concat_ne_nil
  | @next earlier later lines items entries elements pass table =>
      rcases concat_split whole with ⟨rfl, same, rfl⟩ | ⟨more, -, rfl⟩
      · cases same
        exact ⟨lines, items, entries, rfl, rfl, elements, by simpa using table⟩
      · exact absurd rfl (pass ⟨[], c⟩ (by simp)).1

theorem Shape.ending (shape : Shape (parts ++ [⟨[], c⟩]) (some v)) :
    (c = .value v ∧ parts = []) ∨
      (∃ lines entries, c = .table lines ∧ v = .table .header entries ∧
        Table (parts ++ ofLines lines) entries ∧
        (parts = [] ∨ Led .implied parts)) ∨
      ∃ lines items entries, c = .element lines ∧
        v = .array (items ++ [.table .header entries]) true ∧
        Elements parts items ∧ Table (ofLines lines) entries := by
  generalize whole : parts ++ [⟨[], c⟩] = all at shape
  cases shape with
  | value =>
      rcases concat_split (whole.trans (List.nil_append _).symm) with
        ⟨rfl, same, -⟩ | ⟨more, -, none⟩
      · cases same
        exact .inl ⟨rfl, rfl⟩
      · exact absurd none.symm concat_ne_nil
  | table opened table =>
      subst whole
      obtain ⟨lines, rfl, rfl, rfl, implied⟩ := opened.ending
      exact .inr (.inl ⟨lines, _, rfl, rfl, table, implied⟩)
  | array elements =>
      subst whole
      obtain ⟨lines, items, entries, rfl, rfl, elements, table⟩ := elements.ending
      exact .inr (.inr ⟨lines, items, entries, rfl, rfl, elements, table⟩)

end

end RemoteClient.Toml
