import RemoteClient.Proofs.Decode.Records
import RemoteClient.Toml.Decoder

namespace RemoteClient.Toml

open Decode (Field Lawful Record bind_ok field_cases forall₂_mem missing_none)

/-- A field of a record: its key, the values that state it, and whether it can be left out. -/
structure Entry where
  key : String
  form : Value → Prop
  spare : Prop

inductive States (entries : List Entry) : Value → Prop
  | table {kind : TableKind} {found : Entries}
      (stated : ∀ e ∈ entries, ∀ v, (e.key, v) ∈ found → e.form v)
      (spared : ∀ e ∈ entries, e.key ∉ found.map (·.1) → e.spare) :
        States entries (.table kind found)

/-- Nothing in the value has the key. A list has the fields of a record by their places, so that it
lacks no key. -/
def Value.Without (key : String) : Value → Prop
  | .table _ found => key ∉ found.map (·.1)
  | .array _ _ => False
  | _ => True

def Lacks (needed : List String) (v : Value) : Prop := ∃ key ∈ needed, v.Without key

def Sized (v : Value) : Prop := v.holds Value.isHuge = false

theorem Sized.member {kind : TableKind} {found : Entries} (sized : Sized (.table kind found))
    {m : String × Value} (member : m ∈ found) :
    Sized m.2 := by
  have inside : Value.holds.inEntries Value.isHuge found = false := by
    simpa [Sized, Value.holds, Value.isHuge] using sized
  clear sized
  induction found with
  | nil => cases member
  | cons first rest ih =>
      obtain ⟨key, v⟩ := first
      rw [Value.holds.inEntries, Bool.or_eq_false_iff] at inside
      rcases List.mem_cons.mp member with rfl | after
      · exact inside.1
      · exact ih after inside.2

section

variable {S : Type} {r : Record Value DecodeError S} {f : Field Value DecodeError S}
    {start s t u : S}
variable {v : Value} {key : String} {found : Entries} {entries : List Entry} {right : S → Prop}

theorem decodeEntries_known (lawful : Lawful r start) (known : f ∈ r.fields) :
    Value.decodeEntries r s ((f.name, v) :: found) =
      f.read v s >>= (Value.decodeEntries r · found) := by
  rw [Value.decodeEntries, lawful.field known]

theorem decodeEntries_unknown (unknown : r.field? key = none) :
    Value.decodeEntries r s ((key, v) :: found) =
    if v.holds Value.isHuge then .error .outOfRange else Value.decodeEntries r s found := by
  rw [Value.decodeEntries, unknown]

def SetBy (f : Field Value DecodeError S) (s : S) (found : Entries) : Prop :=
  f.isSet s ∨ f.name ∈ found.map (·.1)

theorem setBy_known (lawful : Lawful r start) {g : Field Value DecodeError S}
    (known : f ∈ r.fields) (read : f.read v s = .ok t) (other : g ∈ r.fields) :
    SetBy g t found ↔ SetBy g s ((f.name, v) :: found) := by
  simp only [SetBy, lawful.sets f known read g other, List.map_cons, List.mem_cons, Bool.or_eq_true,
    decide_eq_true_eq]
  tauto

theorem setBy_unknown (lawful : Lawful r start) (unknown : r.field? key = none)
    (known : f ∈ r.fields) :
    SetBy f s found ↔ SetBy f s ((key, v) :: found) := by
  simp only [SetBy, List.map_cons, List.mem_cons, lawful.apart unknown known, false_or]

/-- A record is decoded from a table in which each field that must be given is given, and nothing is
out of range. -/
theorem decodeEntries_given (lawful : Lawful r start) (holds : right s)
    (reads : ∀ f ∈ r.fields, ∀ v, (f.name, v) ∈ found → ∀ s, right s →
      ∃ t, f.read v s = .ok t ∧ right t)
    (given : ∀ f ∈ r.fields, f.optional = false → SetBy f s found)
    (sized : ∀ m ∈ found, Sized m.2) :
    ∃ t, Value.decodeEntries r s found = .ok t ∧ right t ∧ ∀ f ∈ r.fields, f.isSet t ↔
      SetBy f s found := by
  induction found generalizing s with
  | nil =>
      have complete : r.missing? s = none := missing_none.mpr fun f known needed => by
        simpa [SetBy] using given f known needed
      exact ⟨s, by rw [Value.decodeEntries, complete], holds, by simp [SetBy]⟩
  | cons member found ih =>
      obtain ⟨key, v⟩ := member
      have after : ∀ m ∈ found, Sized m.2 := fun m inside => sized m (List.mem_cons_of_mem _ inside)
      have later : ∀ f ∈ r.fields, ∀ v, (f.name, v) ∈ found → ∀ s, right s →
          ∃ t, f.read v s = .ok t ∧ right t :=
        fun f known v inside => reads f known v (List.mem_cons_of_mem _ inside)
      rcases field_cases r key with ⟨f, known, rfl⟩ | unknown
      · obtain ⟨t, read, still⟩ := reads f known v List.mem_cons_self s holds
        have same (g) (other : g ∈ r.fields) : SetBy g t found ↔ SetBy g s ((f.name, v) :: found) :=
          setBy_known lawful known read other
        obtain ⟨u, decoded, right, set⟩ := ih still later
          (fun g other needed => (same g other).mpr (given g other needed)) after
        refine ⟨u, ?_, right, fun g other => (set g other).trans (same g other)⟩
        rw [decodeEntries_known lawful known, read]
        exact decoded
      · have same (g) (other : g ∈ r.fields) : SetBy g s found ↔ SetBy g s ((key, v) :: found) :=
          setBy_unknown lawful unknown other
        obtain ⟨u, decoded, right, set⟩ := ih holds later
          (fun g other needed => (same g other).mpr (given g other needed)) after
        refine ⟨u, ?_, right, fun g other => (set g other).trans (same g other)⟩
        have small : v.holds Value.isHuge = false := sized _ List.mem_cons_self
        rw [decodeEntries_unknown unknown, small]
        exact decoded

theorem decodeEntries_ok (lawful : Lawful r start) (decoded : Value.decodeEntries r s found = .ok u)
    (known : f ∈ r.fields) : (f.optional = false → SetBy f s found) ∧
      ∀ v, (f.name, v) ∈ found → ∃ s t, f.read v s = .ok t := by
  induction found generalizing s with
  | nil =>
      rw [Value.decodeEntries] at decoded
      cases missing : r.missing? s with
      | some name =>
          rw [missing] at decoded
          cases decoded
      | none =>
          exact ⟨fun needed => by simp [SetBy, missing_none.mp missing f known needed], by simp⟩
  | cons member found ih =>
      obtain ⟨key, v⟩ := member
      rcases field_cases r key with ⟨g, other, rfl⟩ | unknown
      · rw [decodeEntries_known lawful other] at decoded
        obtain ⟨t, read, decoded⟩ := bind_ok decoded
        obtain ⟨needed, values⟩ := ih decoded
        refine ⟨fun must => (setBy_known lawful other read known).mp (needed must),
          fun w inside => ?_⟩
        rcases List.mem_cons.mp inside with here | after
        · cases lawful.same other known (Prod.mk.inj here).1
          cases here
          exact ⟨s, t, read⟩
        · exact values w after
      · rw [decodeEntries_unknown unknown] at decoded
        split_ifs at decoded
        obtain ⟨needed, values⟩ := ih decoded
        refine ⟨fun must => (setBy_unknown lawful unknown known).mp (needed must),
          fun w inside => ?_⟩
        rcases List.mem_cons.mp inside with here | after
        · exact absurd (Prod.mk.inj here).1 (lawful.apart unknown known)
        · exact values w after

end

/-- A field goes with an entry: it can be left out only where the entry needs it not, and whatever
states the entry is read as the field. -/
structure Suits {S : Type} (right : S → Prop) (f : Field Value DecodeError S) (e : Entry) :
    Prop where
  key : f.name = e.key
  needed : f.optional = false → ¬ e.spare
  reads : ∀ {v}, e.form v → Sized v → ∀ d, right d → ∃ t, f.read v d = .ok t ∧ right t

section

variable {α S : Type} {name : String} {presence : Presence} {get : S → Option α} {put : α → S → S}
variable {decode : Value → Decoded α} {v : Value} {d t : S} {right : S → Prop}

@[simp] theorem field_name : (field name presence get put decode).name = name := rfl

@[simp] theorem field_isSet : (field name presence get put decode).isSet d = (get d).isSome := rfl

@[simp] theorem field_optional :
    (field name presence get put decode).optional = false ↔ presence = .required := by
  cases presence <;> simp [field]

theorem field_read :
    (field name presence get put decode).read v d = .ok t ↔
      ∃ x, decode v = .ok x ∧ put x d = t := by
  cases decoded : decode v <;> simp [field, decoded, Except.map]

theorem field_suits {form : Value → Prop} {spare : Prop}
    (decodes : ∀ {v}, form v → Sized v → ∃ x, decode v = .ok x ∧ ∀ d, right d → right (put x d))
    (needed : presence = .required → ¬ spare) :
    Suits right (field name presence get put decode) ⟨name, form, spare⟩ where
  key := rfl
  needed required := needed (field_optional.mp required)
  reads formed sized d holds := by
    obtain ⟨x, decoded, keeps⟩ := decodes formed sized
    exact ⟨put x d, field_read.mpr ⟨x, decoded, rfl⟩, keeps d holds⟩

end

section

variable {S : Type} {r : Record Value DecodeError S} {f : Field Value DecodeError S} {start : S}
variable {v : Value} {entries : List Entry} {right : S → Prop}

/-- A table that states the entries is decoded as the record, and only what it need not state is
left unset. -/
theorem States.decodes (lawful : Lawful r start) (holds : right start)
    (suits : List.Forall₂ (Suits right) r.fields entries) (states : States entries v)
    (sized : Sized v) :
    ∃ t, v.decodeRecord r start = .ok t ∧ right t ∧
      List.Forall₂ (fun f e => f.isSet t = false → e.spare) r.fields entries := by
  cases states with
  | @table kind found stated spared =>
      have unset {f : Field Value DecodeError S} (known : f ∈ r.fields) :
          SetBy f start found ↔ f.name ∈ found.map (·.1) := by
        simp [SetBy, lawful.unset f known]
      have reads : ∀ f ∈ r.fields, ∀ v, (f.name, v) ∈ found → ∀ s, right s →
          ∃ t, f.read v s = .ok t ∧ right t := by
        intro f known v member
        obtain ⟨e, inside, suit⟩ := forall₂_mem suits known
        exact suit.reads (stated e inside v (suit.key ▸ member)) (sized.member member)
      have given : ∀ f ∈ r.fields, f.optional = false → SetBy f start found := by
        intro f known needed
        obtain ⟨e, inside, suit⟩ := forall₂_mem suits known
        rw [unset known, suit.key]
        by_contra absent
        exact suit.needed needed (spared e inside absent)
      obtain ⟨t, decoded, right, set⟩ :=
        decodeEntries_given lawful holds reads given fun m member => sized.member member
      refine ⟨t, decoded, right, ?_⟩
      rw [List.forall₂_iff_zip] at suits ⊢
      refine ⟨suits.1, fun {f e} both left => ?_⟩
      obtain ⟨known, inside⟩ := List.of_mem_zip both
      have absent := (set f known).not.mp (by simp [left])
      rw [unset known, (suits.2 both).key] at absent
      exact spared e inside absent

theorem Lacks.rejects {needed : List String} (lawful : Lawful r start)
    (required : ∀ key ∈ needed, ∃ f ∈ r.fields, f.name = key ∧ f.optional = false)
    (lacks : Lacks needed v) (t : S) :
    v.decodeRecord r start ≠ .ok t := by
  obtain ⟨key, isNeeded, without⟩ := lacks
  obtain ⟨f, known, rfl, needed⟩ := required key isNeeded
  intro decoded
  have given {found : Entries} (decoded : Value.decodeEntries r start found = .ok t) :
      f.name ∈ found.map (·.1) := by
    simpa [SetBy, lawful.unset f known] using (decodeEntries_ok lawful decoded known).1 needed
  cases v with
  | table kind found => exact without (given decoded)
  | datetime => simpa using given decoded
  | array => exact without
  | _ => cases decoded

end

end RemoteClient.Toml
