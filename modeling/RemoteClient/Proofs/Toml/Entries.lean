import Mathlib.Data.String.Basic
import RemoteClient.Toml.Document

namespace RemoteClient.Toml.Entries

def set (key : String) (slot : Option Value) (entries : Entries) : Entries :=
  match slot with
  | none => entries.remove key
  | some v => entries.put key v

def Increasing (entries : Entries) : Prop := entries.Pairwise (·.1 < ·.1)

variable {key other : String} {slot : Option Value} {v w : Value} {entry : String × Value}
    {entries more : Entries}

theorem lookup_here (named : key = entry.1) : List.lookup key (entry :: entries) = some entry.2 :=
  named ▸ List.lookup_cons_self

theorem lookup_past (apart : key ≠ entry.1) :
    List.lookup key (entry :: entries) = entries.lookup key := by
  obtain ⟨first, v⟩ := entry
  rw [List.lookup_cons, beq_false_of_ne apart]

theorem lookup_below (below : ∀ entry ∈ entries, key < entry.1) : entries.lookup key = none := by
  rw [List.lookup_eq_none_iff]
  intro entry member
  simpa using (below entry member).ne

@[simp] theorem lookup_put_same : (put key v entries).lookup key = some v := by
  induction entries with
  | nil => exact lookup_here rfl
  | cons entry rest ih =>
      rw [put]
      split_ifs with before here
      · exact lookup_here rfl
      · exact lookup_here rfl
      · rw [lookup_past here, ih]

theorem lookup_put_other (apart : other ≠ key) :
    (put key v entries).lookup other = entries.lookup other := by
  induction entries with
  | nil => exact lookup_past apart
  | cons entry rest ih =>
      rw [put]
      split_ifs with before here
      · exact lookup_past apart
      · rw [lookup_past apart, lookup_past (here ▸ apart)]
      · by_cases found : other = entry.1
        · rw [lookup_here found, lookup_here found]
        · rw [lookup_past found, lookup_past found, ih]

theorem mem_put (member : entry ∈ put key v entries) : entry = (key, v) ∨ entry ∈ entries := by
  induction entries with
  | nil => simpa [put] using member
  | cons first rest ih =>
      rw [put] at member
      split_ifs at member with before here
      · simpa using member
      · exact (List.mem_cons.mp member).imp_right (List.mem_cons_of_mem _)
      · rcases List.mem_cons.mp member with rfl | after
        · exact .inr List.mem_cons_self
        · exact (ih after).imp_right (List.mem_cons_of_mem _)

theorem Increasing.put (increasing : Increasing entries) : Increasing (entries.put key v) := by
  induction entries with
  | nil => exact List.pairwise_singleton _ _
  | cons entry rest ih =>
      have beyond : ∀ later ∈ rest, entry.1 < later.1 := (List.pairwise_cons.mp increasing).1
      rw [Entries.put]
      split_ifs with before here
      · refine List.Pairwise.cons (fun later member => ?_) increasing
        rcases List.mem_cons.mp member with rfl | after
        · exact before
        · exact before.trans (beyond later after)
      · exact List.Pairwise.cons (fun later member => here ▸ beyond later member) increasing.of_cons
      · refine List.Pairwise.cons (fun later member => ?_) (ih increasing.of_cons)
        rcases mem_put member with rfl | after
        · exact lt_of_le_of_ne (not_lt.mp before) (Ne.symm here)
        · exact beyond later after

theorem Increasing.remove (increasing : Increasing entries) : Increasing (entries.remove key) :=
  List.Pairwise.filter _ increasing

@[simp] theorem lookup_remove_same : (entries.remove key).lookup key = none := by
  rw [List.lookup_eq_none_iff]
  intro entry member
  have kept : entry.1 ≠ key := of_decide_eq_true (List.mem_filter.mp member).2
  exact bne_iff_ne.mpr kept.symm

theorem lookup_remove_other (apart : other ≠ key) :
    (entries.remove key).lookup other = entries.lookup other := by
  induction entries with
  | nil => rfl
  | cons entry rest ih =>
      by_cases here : entry.1 = key
      · have dropped : remove (entry :: rest) key = remove rest key := by simp [remove, here]
        rw [dropped, ih, lookup_past (here ▸ apart)]
      · have kept : remove (entry :: rest) key = entry :: remove rest key := by simp [remove, here]
        rw [kept]
        by_cases found : other = entry.1
        · rw [lookup_here found, lookup_here found]
        · rw [lookup_past found, lookup_past found, ih]

theorem lookup_first (increasing : Increasing (entry :: entries)) (lower : key ≤ entry.1) :
    List.lookup key (entry :: entries) = if key = entry.1 then some entry.2 else none := by
  split_ifs with here
  · exact lookup_here here
  · refine lookup_below fun later member => ?_
    have below := lt_of_le_of_ne lower here
    rcases List.mem_cons.mp member with rfl | after
    · exact below
    · exact below.trans ((List.pairwise_cons.mp increasing).1 later after)

theorem Increasing.ext (increasing : Increasing entries) (others : Increasing more)
    (same : ∀ key, entries.lookup key = more.lookup key) : entries = more := by
  induction entries generalizing more with
  | nil =>
      cases more with
      | nil => rfl
      | cons entry rest =>
          have found := same entry.1
          rw [lookup_here rfl] at found
          cases found
  | cons entry rest ih =>
      cases more with
      | nil =>
          have found := same entry.1
          rw [lookup_here rfl] at found
          cases found
      | cons first later =>
          have here : entry.1 = first.1 := by
            by_contra apart
            -- The lower of the two first keys is in one list only.
            rcases le_total entry.1 first.1 with lower | lower
            · have found := same entry.1
              rw [lookup_here rfl, lookup_first others lower, if_neg apart] at found
              cases found
            · have found := same first.1
              rw [lookup_here rfl, lookup_first increasing lower, if_neg (Ne.symm apart)] at found
              cases found
          have value : entry.2 = first.2 := by
            have found := same entry.1
            rw [lookup_here rfl, lookup_here here] at found
            exact Option.some.inj found
          refine congrArg₂ List.cons (Prod.ext here value)
            (ih increasing.of_cons others.of_cons fun key => ?_)
          by_cases found_here : key = entry.1
          · rw [lookup_below fun e member => found_here ▸
              (List.pairwise_cons.mp increasing).1 e member,
              lookup_below fun e member =>
                (found_here.trans here) ▸ (List.pairwise_cons.mp others).1 e member]
          · have found := same key
            rwa [lookup_past found_here, lookup_past (here ▸ found_here)] at found

@[simp] theorem lookup_set_same : (set key slot entries).lookup key = slot := by
  cases slot with
  | none => exact lookup_remove_same
  | some v => exact lookup_put_same

theorem lookup_set_other (apart : other ≠ key) :
    (set key slot entries).lookup other = entries.lookup other := by
  cases slot with
  | none => exact lookup_remove_other apart
  | some v => exact lookup_put_other apart

theorem Increasing.set (increasing : Increasing entries) : Increasing (entries.set key slot) := by
  cases slot with
  | none => exact increasing.remove
  | some v => exact increasing.put

theorem Increasing.put_set (increasing : Increasing entries) :
    (Entries.set key slot entries).put key v = entries.put key v := by
  refine increasing.set.put.ext increasing.put fun other => ?_
  by_cases here : other = key
  · rw [here, lookup_put_same, lookup_put_same]
  · rw [lookup_put_other here, lookup_put_other here, lookup_set_other here]

theorem Increasing.put_found (increasing : Increasing entries)
    (found : entries.lookup key = some v) :
    entries.put key v = entries := by
  refine increasing.put.ext increasing fun other => ?_
  by_cases here : other = key
  · rw [here, lookup_put_same, found]
  · rw [lookup_put_other here]

end RemoteClient.Toml.Entries
