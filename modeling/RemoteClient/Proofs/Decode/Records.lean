import Mathlib.Data.List.Forall2
import Mathlib.Data.List.Nodup
import RemoteClient.Decode.Mismatch

namespace RemoteClient.Decode

/-- A record in which every field has its own name, is not set at first, and is set by reading it
alone. -/
structure Lawful {V E S : Type} (r : Record V E S) (start : S) : Prop where
  distinct : (r.fields.map (·.name)).Nodup
  unset : ∀ f ∈ r.fields, f.isSet start = false
  sets : ∀ f ∈ r.fields, ∀ {v s t}, f.read v s = .ok t → ∀ g ∈ r.fields,
    g.isSet t = (decide (g.name = f.name) || g.isSet s)

section

variable {V E S : Type} {r : Record V E S} {f g : Field V E S} {start s : S} {key : String}

theorem Lawful.same (lawful : Lawful r start) (known : f ∈ r.fields) (other : g ∈ r.fields)
    (named : g.name = f.name) : g = f :=
  List.inj_on_of_nodup_map lawful.distinct other known named

theorem Lawful.field (lawful : Lawful r start) (known : f ∈ r.fields) :
    r.field? f.name = some f := by
  obtain ⟨g, found⟩ : ∃ g, r.field? f.name = some g := by
    rw [← Option.isSome_iff_exists, Record.field?, List.find?_isSome]
    exact ⟨f, known, by simp⟩
  have named : g.name = f.name := by simpa using List.find?_some found
  rw [found, lawful.same known (List.mem_of_find?_eq_some found) named]

theorem field_cases (r : Record V E S) (key : String) :
    (∃ f ∈ r.fields, f.name = key) ∨ r.field? key = none := by
  cases found : r.field? key with
  | none => exact .inr rfl
  | some f => exact .inl ⟨f, List.mem_of_find?_eq_some found, by simpa using List.find?_some found⟩

theorem Lawful.apart (lawful : Lawful r start) (unknown : r.field? key = none)
    (known : f ∈ r.fields) :
    f.name ≠ key := by
  rintro rfl
  rw [lawful.field known] at unknown
  cases unknown

theorem missing_none : r.missing? s = none ↔ ∀ f ∈ r.fields, f.optional = false → f.isSet s := by
  simp only [Record.missing?, Option.map_eq_none_iff, List.find?_eq_none]
  refine forall₂_congr fun f _ => ?_
  cases f.optional <;> cases f.isSet s <;> simp

end

def Agrees {α : Type} (read stated : Option α) : Prop := ∀ x ∈ read, stated = some x

section

variable {α : Type} {read stated others : Option α} {x default : α}

@[simp] theorem agrees_none : Agrees none stated := by simp [Agrees]

@[simp] theorem agrees_some : Agrees (some x) stated ↔ stated = some x := by simp [Agrees]

theorem Agrees.getD (agrees : Agrees read (some x)) (spare : read.isSome = false → x = default) :
    read.getD default = x := by
  cases read with
  | none => exact (spare rfl).symm
  | some y => exact (Option.some.inj (agrees y rfl)).symm

theorem Agrees.or (agrees : Agrees read stated) (spare : read.isSome = false → stated = others) :
    read.or others = stated := by
  cases read with
  | none => exact (spare rfl).symm
  | some y => exact (agrees y rfl).symm

end

section

variable {E α β : Type}

theorem bind_ok {first : Except E α} {next : α → Except E β} {b : β}
    (done : first >>= next = .ok b) :
    ∃ a, first = .ok a ∧ next a = .ok b := by
  cases first with
  | error => cases done
  | ok a => exact ⟨a, rfl, done⟩

theorem forall₂_mem {R : α → β → Prop} {as : List α} {bs : List β}
    (related : List.Forall₂ R as bs) {a : α} (member : a ∈ as) :
    ∃ b ∈ bs, R a b := by
  induction related with
  | nil => cases member
  | cons here _ ih =>
      rcases List.mem_cons.mp member with rfl | after
      · exact ⟨_, List.mem_cons_self, here⟩
      · obtain ⟨b, inside, holds⟩ := ih after
        exact ⟨b, List.mem_cons_of_mem _ inside, holds⟩

end

end RemoteClient.Decode
