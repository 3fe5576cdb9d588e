import RemoteClient.Naming.Table
import RemoteClient.Proofs.Text.Lowercase
import Mathlib.Data.List.Dedup
import Mathlib.Data.List.Nodup
import Mathlib.Data.List.Perm.Subperm

namespace RemoteClient.Naming

theorem fold_numbered (desired : String) (k : Nat) :
    fold (Table.numbered desired k) = fold desired ++ "_" ++ toString k := by
  have numeric : ∀ c ∈ (toString k).toList, c.isDigit := by
    intro c member
    rw [Nat.toString_eq_repr, Nat.toList_repr] at member
    exact Nat.isDigit_of_mem_toDigits (by decide) (by decide) member
  apply String.toList_inj.mp
  simpa [fold, Text.lowercase, Table.numbered] using Text.lower_numbered desired.toList numeric

theorem fold_numbered_inj {desired : String} {j k : Nat}
    (same : fold (Table.numbered desired j) = fold (Table.numbered desired k)) : j = k := by
  rw [fold_numbered, fold_numbered] at same
  have digits := congrArg String.toList same
  simp only [String.toList_append, List.append_cancel_left_eq, Nat.toString_eq_repr,
    Nat.toList_repr] at digits
  have parsed := congrArg (Nat.ofDigitChars 10 · 0) digits
  simpa using parsed

theorem fold_numbered_ne (desired : String) (k : Nat) :
    fold (Table.numbered desired k) ≠ fold desired := by
  rw [fold_numbered]
  intro same
  have lengths := congrArg (List.length ∘ String.toList) same
  simp at lengths

namespace Scope

theorem reserving_holds (names : List String) (key : String) :
    (reserving names).holds key ↔ key ∈ names.map fold := by
  simp [reserving, holds]

theorem reserve_holds (s : Scope) (given key : String) :
    (s.reserve given).holds key ↔ s.holds key ∨ key = given := by
  unfold reserve
  split
  · rename_i already
    constructor
    · exact .inl
    · rintro (before | rfl)
      · exact before
      · exact already
  · simp [holds, or_comm]

theorem reserve_lookup (s : Scope) (given key : String) :
    (s.reserve given).lookup? key = s.lookup? key := by
  unfold reserve
  split <;> rfl

theorem record_holds (s : Scope) (asked name key : String) :
    (s.record asked name).holds key = s.holds key := rfl

theorem record_lookup {s : Scope} {asked key : String} (name : String) (different : key ≠ asked) :
    (s.record asked name).lookup? key = s.lookup? key := by
  rw [lookup?, record, List.lookup_cons, beq_false_of_ne different]
  rfl

end Scope

namespace Table

theorem reserve_current (t : Table) (name : String) :
    (t.reserve name).current = t.current.reserve (fold name) := rfl

def candidate (desired : String) : Nat → String
  | 0 => desired
  | k + 1 => numbered desired k

theorem candidate_inj {desired : String} {j k : Nat}
    (same : fold (candidate desired j) = fold (candidate desired k)) : j = k := by
  cases j with
  | zero =>
      cases k with
      | zero => rfl
      | succ k => exact absurd same.symm (fold_numbered_ne desired k)
  | succ j =>
      cases k with
      | zero => exact absurd same (fold_numbered_ne desired j)
      | succ k => exact congrArg Nat.succ (fold_numbered_inj same)

def reservedKeys (t : Table) : List String := t.scopes.flatMap (·.reserved)

theorem holds_iff (t : Table) (key : String) : t.holds key ↔ key ∈ t.reservedKeys := by
  simp [holds, reservedKeys, Scope.holds]

theorem reservedKeys_length (t : Table) : t.reservedKeys.length = t.reservedCount := by
  rw [reservedKeys, List.length_flatMap, reservedCount, List.sum_eq_foldr]

def distinctReserved (t : Table) : Nat := t.reservedKeys.dedup.length

theorem distinctReserved_le (t : Table) : t.distinctReserved ≤ t.reservedCount := by
  rw [← reservedKeys_length]
  exact (List.dedup_sublist t.reservedKeys).length_le

/-- A probe stops at the first free candidate, or when its budget is used up. -/
theorem probe_stops (t : Table) (desired : String) (k budget : Nat) :
    ∃ j, k ≤ j ∧ t.probe desired (candidate desired k) k budget = candidate desired j ∧
      (∀ i, k ≤ i → i < j → t.isReserved (candidate desired i)) ∧
      (t.isReserved (candidate desired j) = false ∨ j = k + budget) := by
  induction budget generalizing k with
  | zero => exact ⟨k, Nat.le_refl k, rfl, by omega, .inr rfl⟩
  | succ budget ih =>
      cases reserved : t.isReserved (candidate desired k) with
      | false =>
          refine ⟨k, Nat.le_refl k, ?_, by omega, .inl reserved⟩
          rw [probe, reserved]
          rfl
      | true =>
          obtain ⟨j, after, found, hits, stops⟩ := ih (k + 1)
          refine ⟨j, by omega, ?_, fun i above below => ?_, stops.imp_right (by omega)⟩
          · rw [probe, reserved]
            exact found
          · by_cases first : i = k
            · rw [first, reserved]
            · exact hits i (by omega) below

/-- The candidates differ after folding, so that each one that is taken meets a reservation of its
own. -/
theorem hits_le {t : Table} {desired : String} {j : Nat}
    (hits : ∀ i, i < j → t.isReserved (candidate desired i)) : j ≤ t.distinctReserved := by
  let keys := (List.range j).map fun i => fold (candidate desired i)
  have distinct : keys.Nodup :=
    List.nodup_range.map fun _ _ same => candidate_inj same
  have inside : keys ⊆ t.reservedKeys.dedup := by
    intro key member
    obtain ⟨i, below, rfl⟩ := List.mem_map.mp member
    exact List.mem_dedup.mpr ((holds_iff t _).mp (hits i (List.mem_range.mp below)))
  have count := (distinct.subperm inside).length_le
  rwa [List.length_map, List.length_range] at count

/-- From `start` on, the candidate with this number is the first that is free. -/
structure FirstFree (t : Table) (desired : String) (start j : Nat) : Prop where
  after : start ≤ j
  free : t.isReserved (candidate desired j) = false
  hits : ∀ i, start ≤ i → i < j → t.isReserved (candidate desired i)

theorem FirstFree.unique {t : Table} {desired : String} {start j k : Nat}
    (first : FirstFree t desired start j) (other : FirstFree t desired start k) :
    j = k := by
  rcases Nat.lt_trichotomy j k with earlier | same | later
  · exact absurd (other.hits j first.after earlier) (by simp [first.free])
  · exact same
  · exact absurd (first.hits k other.after later) (by simp [other.free])

theorem uniqueName_first (t : Table) (desired : String) :
    ∃ j, t.uniqueName desired = candidate desired j ∧ FirstFree t desired 0 j := by
  obtain ⟨j, after, found, hits, free | spent⟩ :=
    probe_stops t desired 0 (t.reservedCount + 1)
  · exact ⟨j, found, after, free, hits⟩
  · have few := hits_le fun i below => hits i (Nat.zero_le i) below
    have counted := distinctReserved_le t
    omega

theorem uniqueName_free (t : Table) (desired : String) :
    t.isReserved (t.uniqueName desired) = false := by
  obtain ⟨j, found, first⟩ := uniqueName_first t desired
  rw [found, first.free]

theorem ofReserved_holds (names : List String) (key : String) :
    (ofReserved names).holds key ↔ key ∈ names.map fold := by
  rw [← Scope.reserving_holds]
  simp [holds, scopes, ofReserved]

theorem enter_holds (t : Table) (names : List String) (key : String) :
    (t.enter names).holds key ↔ key ∈ names.map fold ∨ t.holds key := by
  rw [← Scope.reserving_holds]
  simp [holds, scopes, enter]

theorem enter_lookup (t : Table) (names : List String) (key : String) :
    (t.enter names).lookupKey? key = t.lookupKey? key := rfl

theorem allocate_found {t : Table} {desired name : String}
    (found : t.lookupKey? (fold desired) = some name) :
    t.allocate desired = (name, t) := by
  simp [allocate, found]

theorem allocate_new {t : Table} {desired : String} (unasked : t.lookupKey? (fold desired) = none) :
    t.allocate desired = (t.uniqueName desired,
      { t with current := (t.current.reserve (fold (t.uniqueName desired))).record (fold desired)
                            (t.uniqueName desired) }) := by
  simp [allocate, unasked]

def allocateAll (t : Table) : List String → List String × Table
  | [] => ([], t)
  | desired :: rest =>
    let (name, t) := t.allocate desired
    let (names, t) := t.allocateAll rest
    (name :: names, t)

/-- New requests are met: each with a name of its own which was free and which is held from then on.
The table is otherwise as it was. -/
structure Meets (t : Table) (requests names : List String) (later : Table) : Prop where
  distinct : (names.map fold).Nodup
  free : ∀ name ∈ names, ¬ t.holds (fold name)
  held : ∀ key, later.holds key ↔ t.holds key ∨ key ∈ names.map fold
  others : ∀ key, key ∉ requests.map fold → later.lookupKey? key = t.lookupKey? key

theorem allocate_meets {t : Table} {desired : String}
    (unasked : t.lookupKey? (fold desired) = none) :
    Meets t [desired] [(t.allocate desired).1] (t.allocate desired).2 := by
  rw [allocate_new unasked]
  refine ⟨List.nodup_singleton _, ?_, fun key => ?_, fun key other => ?_⟩
  · intro name member
    rw [List.mem_singleton.mp member]
    simpa [isReserved] using uniqueName_free t desired
  · rw [holds, scopes, List.any_cons, Scope.record_holds, Bool.or_eq_true, Scope.reserve_holds,
      holds, scopes, List.any_cons, Bool.or_eq_true, List.map_singleton, List.mem_singleton]
    tauto
  · rw [List.map_singleton, List.mem_singleton] at other
    rw [lookupKey?, scopes, List.findSome?_cons, Scope.record_lookup _ other, Scope.reserve_lookup]
    rfl

theorem Meets.append {t middle later : Table} {first second names more : List String}
    (front : Meets t first names middle) (back : Meets middle second more later) :
    Meets t (first ++ second) (names ++ more) later where
  distinct := by
    rw [List.map_append, List.nodup_append]
    refine ⟨front.distinct, back.distinct, ?_⟩
    rintro key inside other outside rfl
    obtain ⟨name, member, rfl⟩ := List.mem_map.mp outside
    exact back.free name member ((front.held _).mpr (.inr inside))
  free := by
    intro name member
    rcases List.mem_append.mp member with member | member
    · exact front.free name member
    · exact fun before => back.free name member ((front.held _).mpr (.inl before))
  held := by
    intro key
    rw [back.held, front.held, List.map_append, List.mem_append, or_assoc]
  others := by
    intro key other
    rw [List.map_append, List.mem_append, not_or] at other
    rw [back.others key other.2, front.others key other.1]

theorem allocateAll_meets {t : Table} {requests : List String}
    (distinct : (requests.map fold).Nodup)
    (unasked : ∀ desired ∈ requests, t.lookupKey? (fold desired) = none) :
    Meets t requests (t.allocateAll requests).1 (t.allocateAll requests).2 := by
  induction requests generalizing t with
  | nil =>
      exact ⟨List.nodup_nil, by simp [allocateAll], by simp [allocateAll], by simp [allocateAll]⟩
  | cons desired rest ih =>
      rw [List.map_cons, List.nodup_cons] at distinct
      have first := allocate_meets (unasked desired List.mem_cons_self)
      have later := ih (t := (t.allocate desired).2) distinct.2 fun other member => by
        have different : fold other ∉ [desired].map fold := by
          intro same
          rw [List.map_singleton, List.mem_singleton] at same
          exact distinct.1 (same ▸ List.mem_map_of_mem member)
        rw [first.others _ different]
        exact unasked other (List.mem_cons_of_mem desired member)
      exact first.append later

end Table

end RemoteClient.Naming
