import RemoteClient.Naming.Session
import RemoteClient.Proofs.Naming.Allocation
import Mathlib.Data.List.Forall2

/-!
Letter case never matters to a table: two tables that are used alike, up to the case of every name,
answer alike.
-/

namespace RemoteClient.Naming

theorem rel_none_left {α β : Type} {r : α → β → Prop} {other : Option β}
    (related : Option.Rel r none other) : other = none := by
  cases related
  rfl

theorem rel_some_left {α β : Type} {r : α → β → Prop} {a : α} {other : Option β}
    (related : Option.Rel r (some a) other) : ∃ b, other = some b ∧ r a b := by
  cases related with
  | some same => exact ⟨_, rfl, same⟩

/-- The two spellings count as one name. -/
def Alike (name other : String) : Prop := fold name = fold other

instance (name other : String) : Decidable (Alike name other) :=
  inferInstanceAs (Decidable (fold name = fold other))

/-- A suffix does not undo what lower case made of the end of a word. -/
theorem Alike.numbered {name other : String} (alike : Alike name other) (k : Nat) :
    Alike (Table.numbered name k) (Table.numbered other k) := by
  rw [Alike, fold_numbered, fold_numbered, alike]

theorem Alike.keys {names others : List String} (alike : List.Forall₂ Alike names others) :
    names.map fold = others.map fold := by
  induction alike with
  | nil => rfl
  | cons same _ ih => exact congrArg₂ List.cons same ih

inductive Request.Alike : Request → Request → Prop
  | allocate {name other : String} :
      Naming.Alike name other → Alike (.allocate name) (.allocate other)
  | reserve {name other : String} : Naming.Alike name other → Alike (.reserve name) (.reserve other)
  | isReserved {name other : String} :
      Naming.Alike name other → Alike (.isReserved name) (.isReserved other)
  | lookup {name other : String} : Naming.Alike name other → Alike (.lookup name) (.lookup other)
  | depth : Alike .depth .depth
  | enter {names others : List String} :
    List.Forall₂ Naming.Alike names others → Alike (.enter names) (.enter others)
  | exit : Alike .exit .exit

inductive Answer.Alike : Answer → Answer → Prop
  | done : Alike .done .done
  | name {given other : String} : Naming.Alike given other → Alike (.name given) (.name other)
  | found {given other : Option String} :
    Option.Rel Naming.Alike given other → Alike (.found given) (.found other)
  | verdict (holds : Bool) : Alike (.verdict holds) (.verdict holds)
  | depth (scopes : Nat) : Alike (.depth scopes) (.depth scopes)
  | atRoot : Alike .atRoot .atRoot

structure Scope.Alike (s s' : Scope) : Prop where
  allocated : List.Forall₂ (fun a b => a.1 = b.1 ∧ Naming.Alike a.2 b.2) s.allocated s'.allocated
  reserved : s.reserved = s'.reserved

namespace Scope.Alike

variable {s s' : Scope}

theorem reserving {names others : List String} (alike : List.Forall₂ Naming.Alike names others) :
    Alike (Scope.reserving names) (Scope.reserving others) where
  allocated := .nil
  reserved := Naming.Alike.keys alike

theorem holds (alike : Alike s s') (key : String) : s.holds key = s'.holds key := by
  rw [Scope.holds, Scope.holds, alike.reserved]

theorem reserve (alike : Alike s s') (key : String) : Alike (s.reserve key) (s'.reserve key) := by
  unfold Scope.reserve
  rw [alike.holds key]
  split
  · exact alike
  · exact ⟨alike.allocated, congrArg (key :: ·) alike.reserved⟩

theorem record (alike : Alike s s') (key : String) {name other : String}
    (same : Naming.Alike name other) :
    Alike (s.record key name) (s'.record key other) where
  allocated := .cons ⟨rfl, same⟩ alike.allocated
  reserved := alike.reserved

theorem lookup (alike : Alike s s') (key : String) :
    Option.Rel Naming.Alike (s.lookup? key) (s'.lookup? key) := by
  obtain ⟨allocated, _⟩ := alike
  unfold Scope.lookup?
  revert allocated
  generalize s.allocated = pairs
  generalize s'.allocated = pairs'
  intro allocated
  induction allocated with
  | nil => exact .none
  | @cons a b _ _ same _ ih =>
      obtain ⟨request, name⟩ := a
      obtain ⟨_, other⟩ := b
      obtain ⟨rfl, names⟩ := same
      rw [List.lookup_cons, List.lookup_cons]
      cases key == request with
      | true => exact .some names
      | false => exact ih

end Scope.Alike

section Stack

variable {stack other : List Scope}

theorem any_holds_alike (alike : List.Forall₂ Scope.Alike stack other) (key : String) :
    stack.any (·.holds key) = other.any (·.holds key) := by
  induction alike with
  | nil => rfl
  | cons same _ ih => rw [List.any_cons, List.any_cons, same.holds, ih]

theorem reserved_alike (alike : List.Forall₂ Scope.Alike stack other) :
    stack.map (·.reserved) = other.map (·.reserved) := by
  induction alike with
  | nil => rfl
  | cons same _ ih => rw [List.map_cons, List.map_cons, same.reserved, ih]

theorem findSome_lookup_alike (alike : List.Forall₂ Scope.Alike stack other) (key : String) :
    Option.Rel Alike (stack.findSome? (·.lookup? key)) (other.findSome? (·.lookup? key)) := by
  induction alike with
  | nil => exact .none
  | @cons s s' _ _ same _ ih =>
      have found := same.lookup key
      rw [List.findSome?_cons, List.findSome?_cons]
      cases asked : s.lookup? key with
      | none =>
          rw [asked] at found
          rw [rel_none_left found]
          exact ih
      | some name =>
          rw [asked] at found
          obtain ⟨name', asked', names⟩ := rel_some_left found
          rw [asked']
          exact .some names

end Stack

namespace Table

def Alike (t t' : Table) : Prop := List.Forall₂ Scope.Alike t.scopes t'.scopes

namespace Alike

variable {t t' : Table}

theorem current (alike : Alike t t') : Scope.Alike t.current t'.current :=
  (List.forall₂_cons.mp alike).1

theorem enclosing (alike : Alike t t') : List.Forall₂ Scope.Alike t.enclosing t'.enclosing :=
  (List.forall₂_cons.mp alike).2

theorem holds (alike : Alike t t') (key : String) : t.holds key = t'.holds key :=
  any_holds_alike alike key

theorem isReserved (alike : Alike t t') {name other : String} (same : Naming.Alike name other) :
    t.isReserved name = t'.isReserved other := by
  rw [Table.isReserved, Table.isReserved, same, alike.holds]

theorem reservedCount (alike : Alike t t') : t.reservedCount = t'.reservedCount := by
  have lengths := congrArg (List.map List.length) (reserved_alike alike)
  rw [List.map_map, List.map_map] at lengths
  exact congrArg (List.foldr (· + ·) 0) lengths

theorem lookup (alike : Alike t t') (key : String) :
    Option.Rel Naming.Alike (t.lookupKey? key) (t'.lookupKey? key) :=
  findSome_lookup_alike alike key

theorem reserve (alike : Alike t t') {name other : String} (same : Naming.Alike name other) :
    Alike (t.reserve name) (t'.reserve other) := by
  refine .cons ?_ alike.enclosing
  rw [reserve_current, reserve_current, same]
  exact alike.current.reserve (fold other)

theorem enter (alike : Alike t t') {names others : List String}
    (same : List.Forall₂ Naming.Alike names others) : Alike (t.enter names) (t'.enter others) :=
  .cons (.reserving same) alike

theorem probe (alike : Alike t t') {desired wanted : String} (same : Naming.Alike desired wanted)
    {candidate other : String} (tried : Naming.Alike candidate other) (k budget : Nat) :
    Naming.Alike (t.probe desired candidate k budget) (t'.probe wanted other k budget) := by
  induction budget generalizing candidate other k with
  | zero => exact tried
  | succ budget ih =>
      rw [Table.probe, Table.probe, alike.isReserved tried]
      split
      · exact ih (same.numbered k) (k + 1)
      · exact tried

theorem uniqueName (alike : Alike t t') {desired wanted : String}
    (same : Naming.Alike desired wanted) :
    Naming.Alike (t.uniqueName desired) (t'.uniqueName wanted) := by
  rw [Table.uniqueName, Table.uniqueName, alike.reservedCount]
  exact alike.probe same same 0 _

theorem allocate (alike : Alike t t') {desired wanted : String}
    (same : Naming.Alike desired wanted) :
    Naming.Alike (t.allocate desired).1 (t'.allocate wanted).1 ∧
      Alike (t.allocate desired).2 (t'.allocate wanted).2 := by
  have found := alike.lookup (fold desired)
  cases asked : t.lookupKey? (fold desired) with
  | some name =>
      rw [asked] at found
      obtain ⟨name', asked', names⟩ := rel_some_left found
      rw [same] at asked'
      rw [allocate_found asked, allocate_found asked']
      exact ⟨names, alike⟩
  | none =>
      rw [asked] at found
      have asked' := rel_none_left found
      rw [same] at asked'
      have names := alike.uniqueName same
      rw [allocate_new asked, allocate_new asked']
      refine ⟨names, .cons ?_ alike.enclosing⟩
      rw [names, same]
      exact (alike.current.reserve _).record _ names

theorem depth (alike : Alike t t') : t.depth = t'.depth := alike.enclosing.length_eq

theorem exit (alike : Alike t t') : Option.Rel Alike t.exit? t'.exit? := by
  obtain ⟨current, enclosing⟩ := t
  obtain ⟨current', enclosing'⟩ := t'
  cases alike.enclosing with
  | nil => exact .none
  | cons outer rest => exact .some (.cons outer rest)

theorem step (alike : Alike t t') {request other : Request} (same : Request.Alike request other) :
    Answer.Alike (t.step request).1 (t'.step other).1 ∧
      Alike (t.step request).2 (t'.step other).2 := by
  cases same with
  | allocate names =>
      obtain ⟨given, tables⟩ := alike.allocate names
      exact ⟨.name given, tables⟩
  | reserve names => exact ⟨.done, alike.reserve names⟩
  | isReserved names =>
      rw [Table.step, Table.step, alike.isReserved names]
      exact ⟨.verdict _, alike⟩
  | @lookup name _ names =>
      have found := alike.lookup (fold name)
      rw [Table.step, Table.step, lookup?, lookup?, ← names]
      exact ⟨.found found, alike⟩
  | depth =>
      rw [Table.step, Table.step, alike.depth]
      exact ⟨.depth _, alike⟩
  | enter names =>
      have entered := alike.enter names
      rw [Table.step, Table.step, entered.depth]
      exact ⟨.depth _, entered⟩
  | exit =>
      have left := alike.exit
      rw [Table.step, Table.step]
      cases outer : t.exit? with
      | none =>
          rw [outer] at left
          rw [rel_none_left left]
          exact ⟨.atRoot, alike⟩
      | some parent =>
          rw [outer] at left
          obtain ⟨parent', outer', parents⟩ := rel_some_left left
          rw [outer']
          change Answer.Alike (.depth parent.depth) (.depth parent'.depth) ∧ Alike parent parent'
          rw [parents.depth]
          exact ⟨.depth _, parents⟩

theorem run (alike : Alike t t') {requests others : List Request}
    (same : List.Forall₂ Request.Alike requests others) :
    List.Forall₂ Answer.Alike (t.run requests).1 (t'.run others).1 := by
  induction same generalizing t t' with
  | nil => exact .nil
  | cons first _ ih =>
      obtain ⟨answers, tables⟩ := alike.step first
      exact .cons answers (ih tables)

end Alike

/-- Two tables that began alike and were used alike answer alike, one answer after the other; and
names that count as one still do with the same suffix. -/
theorem case_never_matters {reserved reserved' : List String} {requests requests' : List Request}
    (start : List.Forall₂ Naming.Alike reserved reserved')
    (same : List.Forall₂ Request.Alike requests requests') :
    List.Forall₂ Answer.Alike ((ofReserved reserved).run requests).1
        ((ofReserved reserved').run requests').1 ∧
      ∀ name other : String, Naming.Alike name other →
        ∀ k, Naming.Alike (numbered name k) (numbered other k) := by
  have alike : Alike (ofReserved reserved) (ofReserved reserved') := .cons (.reserving start) .nil
  exact ⟨alike.run same, fun _ _ names k => names.numbered k⟩

/-- A capital sigma at the end of a word, and a capital that becomes two characters. -/
theorem final_sigma_never_matters :
    List.Forall₂ Answer.Alike
      ((ofReserved ["ΟΔΟΣ"]).run
        [.allocate "Οδος", .enter ["İ"], .allocate "İ", .isReserved "οδοΣ_0"]).1
      ((ofReserved ["οδος"]).run [.allocate "ΟΔΟΣ", .enter ["i\u0307"], .allocate "i\u0307",
        .isReserved "ΟΔΟς_0"]).1 :=
  (case_never_matters (.cons (by decide +kernel) .nil) <|
    .cons (.allocate (by decide +kernel)) <| .cons (.enter (.cons (by decide +kernel) .nil)) <|
      .cons (.allocate (by decide +kernel)) <| .cons (.isReserved (by decide +kernel)) .nil).1

end Table

end RemoteClient.Naming
