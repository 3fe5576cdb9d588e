import RemoteClient.Proofs.Naming.Allocation

/-!
The search for a free name ends without any bound on its rounds: it makes at most one probe more
than there are reserved names, and stops at the least suffix that is free.
-/

namespace RemoteClient.Naming.Table

/-- The search, with nothing to limit it: about to probe `start`, with `desired_k` to come next, it
ends at `name` after so many probes. -/
inductive Searches (t : Table) (desired : String) : String → Nat → Nat → String → Prop
  | free {start : String} {k : Nat} :
    t.isReserved start = false → Searches t desired start k 1 start
  | taken {start : String} {k probes : Nat} {name : String} :
    t.isReserved start → Searches t desired (numbered desired k) (k + 1) probes name →
    Searches t desired start k (probes + 1) name

theorem Searches.stops {t : Table} {desired start name : String} {k probes : Nat}
    (search : Searches t desired start k probes name) (begun : start = candidate desired k) :
    ∃ j, FirstFree t desired k j ∧ name = candidate desired j ∧ j + 1 = k + probes := by
  -- Each round probes the candidate whose number the next suffix tells.
  induction search with
  | @free _ k free =>
      subst begun
      exact ⟨k, ⟨Nat.le_refl k, free, by omega⟩, rfl, rfl⟩
  | @taken _ k _ _ reserved _ ih =>
      subst begun
      obtain ⟨j, first, named, counted⟩ := ih rfl
      have after := first.after
      refine ⟨j, ⟨by omega, first.free, fun i above below => ?_⟩, named, by omega⟩
      by_cases next : i = k
      · rw [next, reserved]
      · exact first.hits i (by omega) below

theorem FirstFree.searches {t : Table} {desired : String} {k hits : Nat}
    (first : FirstFree t desired k (k + hits)) :
    Searches t desired (candidate desired k) k (hits + 1) (candidate desired (k + hits)) := by
  induction hits generalizing k with
  | zero => exact .free first.free
  | succ hits ih =>
      have next : k + (hits + 1) = k + 1 + hits := by omega
      rw [next] at first ⊢
      have later : FirstFree t desired (k + 1) (k + 1 + hits) :=
        ⟨by omega, first.free, fun i above below => first.hits i (by omega) below⟩
      exact .taken (first.hits k (Nat.le_refl k) (by omega)) (ih later)

theorem searches_iff {t : Table} {desired : String} {j : Nat} (first : FirstFree t desired 0 j)
    (probes : Nat) (name : String) :
    Searches t desired desired 0 probes name ↔ probes = j + 1 ∧ name = candidate desired j := by
  constructor
  · intro search
    obtain ⟨k, other, named, counted⟩ := search.stops (k := 0) rfl
    rw [first.unique other]
    exact ⟨by omega, named⟩
  · rintro ⟨rfl, rfl⟩
    have begun : FirstFree t desired 0 (0 + j) := by rwa [Nat.zero_add]
    have search := begun.searches
    rwa [Nat.zero_add] at search

/-- For a request that no scope in sight has met, the search ends in one way only, at the name that
is given, after at most one probe more than there are reserved names. That name is the requested one
where no scope reserves it; else it carries the least suffix with which no scope does. -/
theorem probes_least_free {t : Table} {desired : String} (unasked : t.lookup? desired = none) :
    (∃ probes, probes ≤ t.distinctReserved + 1 ∧ ∀ n name,
        Searches t desired desired 0 n name ↔ n = probes ∧ name = (t.allocate desired).1) ∧
      (fold desired ∉ t.reservedKeys → (t.allocate desired).1 = desired) ∧
      (fold desired ∈ t.reservedKeys → ∃ k, (t.allocate desired).1 = numbered desired k ∧
        fold (numbered desired k) ∉ t.reservedKeys ∧
        ∀ i, i < k → fold (numbered desired i) ∈ t.reservedKeys) := by
  obtain ⟨j, found, first⟩ := uniqueName_first t desired
  have given : (t.allocate desired).1 = candidate desired j := by
    rw [allocate_new unasked, found]
  have taken {i : Nat} (before : i < j) : fold (candidate desired i) ∈ t.reservedKeys :=
    (holds_iff t _).mp (first.hits i (Nat.zero_le i) before)
  have free : fold (candidate desired j) ∉ t.reservedKeys := by
    rw [← holds_iff]
    exact Bool.eq_false_iff.mp first.free
  have few : j ≤ t.distinctReserved := hits_le fun i before => first.hits i (Nat.zero_le i) before
  rw [given]
  refine ⟨⟨j + 1, Nat.succ_le_succ few, searches_iff first⟩, fun absent => ?_, fun present => ?_⟩
  · cases j with
    | zero => rfl
    | succ k => exact absurd (taken (Nat.succ_pos k)) absent
  · cases j with
    | zero => exact absurd present free
    | succ k => exact ⟨k, rfl, free, fun i before => taken (i := i + 1) (Nat.succ_lt_succ before)⟩

def crowded : Table := (ofReserved ["value", "value_0", "VALUE_1"]).enter ["Value_2", "value"]

/-- The bound is met: four names are reserved, and the search takes five probes. -/
theorem crowded_search_ends :
    crowded.lookup? "Value" = none ∧ ∃ probes, probes ≤ 5 ∧ ∀ n name,
      Searches crowded "Value" "Value" 0 n name ↔ n = probes ∧ name = "Value_3" := by
  have unasked : crowded.lookup? "Value" = none := by decide +kernel
  obtain ⟨⟨probes, few, ends⟩, _⟩ := probes_least_free unasked
  have counted : crowded.distinctReserved = 4 := by decide +kernel
  have given : (crowded.allocate "Value").1 = "Value_3" := by decide +kernel
  rw [counted] at few
  rw [given] at ends
  exact ⟨unasked, probes, few, ends⟩

end RemoteClient.Naming.Table
