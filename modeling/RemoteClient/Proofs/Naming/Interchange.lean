import RemoteClient.Proofs.Naming.Allocation

namespace RemoteClient.Naming.Table

/-- Over all scopes in sight, the tables hold the same names and recorded the same allocations. -/
structure Interchangeable (t t' : Table) : Prop where
  holds : ∀ key, t.holds key ↔ t'.holds key
  lookups : ∀ key, t.lookupKey? key = t'.lookupKey? key

theorem ofReserved_interchangeable {names others : List String}
    (same : ∀ key, key ∈ names.map fold ↔ key ∈ others.map fold) :
    Interchangeable (ofReserved names) (ofReserved others) where
  holds key := by rw [ofReserved_holds, ofReserved_holds, same]
  lookups _ := rfl

theorem allocate_lookup {t : Table} {desired : String}
    (unasked : t.lookupKey? (fold desired) = none) (key : String) :
    (t.allocate desired).2.lookupKey? key =
      if key = fold desired then some (t.allocate desired).1 else t.lookupKey? key := by
  by_cases same : key = fold desired
  · rw [if_pos same, same, allocate_new unasked, lookupKey?, scopes, List.findSome?_cons,
      Scope.lookup?, Scope.record, List.lookup_cons, beq_self_eq_true]
  · rw [if_neg same]
    refine (allocate_meets unasked).others key ?_
    rwa [List.map_singleton, List.mem_singleton]

namespace Interchangeable

variable {t t' : Table}

theorem isReserved (same : Interchangeable t t') (name : String) :
    t.isReserved name = t'.isReserved name :=
  Bool.eq_iff_iff.mpr (same.holds (fold name))

/-- The first free candidate is the same, however many reservations the probes run into. -/
theorem uniqueName (same : Interchangeable t t') (desired : String) :
    t.uniqueName desired = t'.uniqueName desired := by
  obtain ⟨j, found, first⟩ := uniqueName_first t desired
  obtain ⟨k, found', first'⟩ := uniqueName_first t' desired
  have free : t'.isReserved (candidate desired j) = false := by rw [← same.isReserved, first.free]
  have hits (i : Nat) (after : 0 ≤ i) (before : i < j) : t'.isReserved (candidate desired i) := by
    rw [← same.isReserved]
    exact first.hits i after before
  have agreed : FirstFree t' desired 0 j := ⟨first.after, free, hits⟩
  rw [found, found', agreed.unique first']

theorem enter (same : Interchangeable t t') (names : List String) :
    Interchangeable (t.enter names) (t'.enter names) where
  holds key := by rw [enter_holds, enter_holds, same.holds]
  lookups key := by rw [enter_lookup, enter_lookup, same.lookups]

theorem allocate (same : Interchangeable t t') (desired : String) :
    (t.allocate desired).1 = (t'.allocate desired).1 ∧
      Interchangeable (t.allocate desired).2 (t'.allocate desired).2 := by
  cases asked : t.lookupKey? (fold desired) with
  | some name =>
      have asked' := (same.lookups _).symm.trans asked
      rw [allocate_found asked, allocate_found asked']
      exact ⟨rfl, same⟩
  | none =>
      have asked' := (same.lookups _).symm.trans asked
      have names : (t.allocate desired).1 = (t'.allocate desired).1 := by
        rw [allocate_new asked, allocate_new asked']
        exact same.uniqueName desired
      refine ⟨names, fun key => ?_, fun key => ?_⟩
      · rw [(allocate_meets asked).held, (allocate_meets asked').held, same.holds, names]
      · rw [allocate_lookup asked, allocate_lookup asked', same.lookups, names]

theorem allocateAll (same : Interchangeable t t') (requests : List String) :
    (t.allocateAll requests).1 = (t'.allocateAll requests).1 ∧
      Interchangeable (t.allocateAll requests).2 (t'.allocateAll requests).2 := by
  induction requests generalizing t t' with
  | nil => exact ⟨rfl, same⟩
  | cons desired rest ih =>
      obtain ⟨first, middle⟩ := same.allocate desired
      obtain ⟨others, last⟩ := ih middle
      exact ⟨congrArg₂ List.cons first others, last⟩

end Interchangeable

end RemoteClient.Naming.Table
