import RemoteClient.Proofs.Interleaving.Ledger

namespace RemoteClient

namespace Deed

theorem plain_created {deed : Deed} (plain : deed.isPlain) (id : Nat) : .created id ≠ deed := by
  rintro rfl
  cases plain

theorem plain_installed {deed : Deed} (plain : deed.isPlain) (c id : Nat) :
    .installed c id ≠ deed := by
  rintro rfl
  cases plain

end Deed

namespace Interleaving

namespace Ledger

variable {l : Ledger} {r : Record} {actor : Actor} {deed : Deed}

theorem did_later (did : l.Did actor deed) : (l.add r).Did actor deed := (did_add ..).mpr (.inr did)

theorem did_now (l : Ledger) (actor : Actor) (deed : Deed) : (l.add ⟨actor, deed⟩).Did actor deed :=
  (did_add ..).mpr (.inl rfl)

theorem did_other (other : deed ≠ r.deed) : (l.add r).Did actor deed ↔ l.Did actor deed := by
  rw [did_add, or_iff_right]
  rintro rfl
  exact other rfl

theorem installed_later {id : Nat} (installed : l.Installed id) : (l.add r).Installed id := by
  obtain ⟨actor, c, did⟩ := installed
  exact ⟨actor, c, did_later did⟩

theorem installed_cases {id : Nat} (installed : (l.add r).Installed id) :
    l.Installed id ∨ ∃ c, r.deed = .installed c id := by
  obtain ⟨actor, c, did⟩ := installed
  rcases (did_add ..).mp did with rfl | before
  · exact .inr ⟨c, rfl⟩
  · exact .inl ⟨actor, c, before⟩

theorem attacked_cases {c id : Nat} (attacked : (l.add r).Attacked c id) :
    l.Attacked c id ∨ ∃ k, r.actor = .call c k ∧ r.deed.attacks id := by
  obtain ⟨k, deed, did, attacks⟩ := attacked
  rcases (did_add ..).mp did with rfl | before
  · exact .inr ⟨k, rfl, attacks⟩
  · exact .inl ⟨k, deed, before, attacks⟩

theorem attacked_harmless {c id : Nat} (harmless : ∀ other, r.deed.attacks other = false)
    (attacked : (l.add r).Attacked c id) : l.Attacked c id := by
  rcases attacked_cases attacked with before | ⟨_, _, attacks⟩
  · exact before
  · rw [harmless] at attacks
    cases attacks

theorem created_cases {maker : Actor} {id : Nat} (did : (l.supply actor).Did maker (.created id)) :
    (maker = actor ∧ id = l.made + 1) ∨ l.Did maker (.created id) := by
  rcases (did_add ..).mp did with same | before
  · cases same
    exact .inl ⟨rfl, rfl⟩
  · exact .inr before

end Ledger

/-- Channels are numbered as they are made, by one maker each. Only its maker installs a channel,
once. -/
structure Annals (l : Ledger) : Prop where
  created_le : ∀ {actor : Actor} {id : Nat}, l.Did actor (.created id) → id ≤ l.made
  attacked_le : ∀ {c id : Nat}, l.Attacked c id → id ≤ l.made
  created_once : ∀ {a b : Actor} {id : Nat}, l.Did a (.created id) → l.Did b (.created id) → a = b
  installed_own : ∀ {actor : Actor} {c id : Nat}, l.Did actor (.installed c id) →
    ∃ k, actor = .call c k ∧ l.Did actor (.created id)
  installed_once : ((installs l.history).map (·.2)).Nodup

namespace Annals

variable {l : Ledger} {r : Record}

theorem one_owner (an : Annals l) {a b : Actor} {c d id : Nat} (left : l.Did a (.installed c id))
    (right : l.Did b (.installed d id)) : c = d := by
  obtain ⟨i, rfl, made⟩ := an.installed_own left
  obtain ⟨j, rfl, remade⟩ := an.installed_own right
  cases an.created_once made remade
  rfl

theorem unmade (an : Annals l) (actor : Actor) : ¬ l.Did actor (.created (l.made + 1)) := fun did =>
  Nat.not_succ_le_self _ (an.created_le did)

theorem start : Annals ⟨[], 0, []⟩ := by
  constructor <;> simp [Ledger.Did, Ledger.Attacked, installs]

theorem put (an : Annals l) (c : Nat) (ctl : Controller) : Annals (l.put c ctl) :=
  ⟨an.created_le, an.attacked_le, an.created_once, an.installed_own, an.installed_once⟩

theorem found (an : Annals l) : Annals l.found :=
  ⟨an.created_le, an.attacked_le, an.created_once, an.installed_own, an.installed_once⟩

theorem add_plain (an : Annals l) (plain : r.deed.isPlain)
    (known : ∀ c k id, r.actor = .call c k → r.deed.attacks id → id ≤ l.made) :
    Annals (l.add r) := by
  have made {actor : Actor} {id : Nat} :
      (l.add r).Did actor (.created id) ↔ l.Did actor (.created id) :=
    Ledger.did_other (Deed.plain_created plain id)
  constructor
  case created_le => exact fun did => an.created_le (made.mp did)
  case attacked_le =>
    intro c id attacked
    rcases Ledger.attacked_cases attacked with before | ⟨k, call, attacks⟩
    · exact an.attacked_le before
    · exact known c k id call attacks
  case created_once => exact fun left right => an.created_once (made.mp left) (made.mp right)
  case installed_own =>
    intro actor c id did
    obtain ⟨k, same, own⟩ :=
      an.installed_own ((Ledger.did_other (Deed.plain_installed plain c id)).mp did)
    exact ⟨k, same, Ledger.did_later own⟩
  case installed_once =>
    rw [Ledger.history_add, installs_plain plain]
    exact an.installed_once

theorem supply (an : Annals l) (actor : Actor) : Annals (l.supply actor) := by
  constructor
  case created_le =>
    intro a id did
    rcases Ledger.created_cases did with ⟨_, rfl⟩ | before
    · exact Nat.le_refl _
    · exact Nat.le_succ_of_le (an.created_le before)
  case attacked_le =>
    intro c id attacked
    have before := an.attacked_le (Ledger.attacked_harmless (fun _ => rfl) attacked)
    exact Nat.le_succ_of_le before
  case created_once =>
    intro a b id left right
    rcases Ledger.created_cases left with ⟨same, last⟩ | before
    · rcases Ledger.created_cases right with ⟨again, _⟩ | before
      · rw [same, again]
      · exact absurd (last ▸ before) (an.unmade b)
    · rcases Ledger.created_cases right with ⟨_, last⟩ | again
      · exact absurd (last ▸ before) (an.unmade a)
      · exact an.created_once before again
  case installed_own =>
    intro a c id did
    obtain ⟨k, same, own⟩ := an.installed_own ((Ledger.did_other (by simp)).mp did)
    exact ⟨k, same, Ledger.did_later own⟩
  case installed_once => exact an.installed_once

theorem install (an : Annals l) {c k id : Nat} (own : l.Did (.call c k) (.created id))
    (loose : ¬ l.Installed id) : Annals (l.add ⟨.call c k, .installed c id⟩) := by
  constructor
  case created_le => exact fun did => an.created_le ((Ledger.did_other (by simp)).mp did)
  case attacked_le =>
    exact fun attacked => an.attacked_le (Ledger.attacked_harmless (fun _ => rfl) attacked)
  case created_once =>
    intro a b other left right
    exact an.created_once ((Ledger.did_other (by simp)).mp left)
      ((Ledger.did_other (by simp)).mp right)
  case installed_own =>
    intro actor d other did
    rcases (Ledger.did_add ..).mp did with same | before
    · cases same
      exact ⟨k, rfl, Ledger.did_later own⟩
    · obtain ⟨j, call, made⟩ := an.installed_own before
      exact ⟨j, call, Ledger.did_later made⟩
  case installed_once =>
    have shown : installs (l.add ⟨.call c k, .installed c id⟩).history = (c, id) ::
        installs l.history := by
      rw [Ledger.history_add, installs_cons]
      rfl
    rw [shown, List.map_cons, List.nodup_cons]
    refine ⟨fun member => ?_, an.installed_once⟩
    obtain ⟨⟨d, _⟩, inside, rfl⟩ := List.mem_map.mp member
    obtain ⟨actor, did⟩ := mem_installs.mp inside
    exact loose ⟨actor, d, did⟩

end Annals

/-- The slots are filled as often as the history says, and with channels that are open and
untouched. -/
structure Shelved (l : Ledger) : Prop extends Annals l where
  counted : ∀ c, l.generation c = ((installs l.history).map (·.1)).count c
  tagged : ∀ {c : Nat} {held : Cached} {generation : Nat},
    l.slots[c]? = some ⟨some held, generation⟩ → held.generation = generation
  cached : ∀ {c id : Nat}, l.slot? c = some id → ¬ l.Attacked c id ∧
    ∃ k, l.Did (.call c k) (.created id) ∧ l.Did (.call c k) (.opened (.ofEndpoint id)) ∧
      l.Did (.call c k) (.installed c id)

namespace Shelved

variable {l : Ledger} {r : Record}

theorem slot_installed (sh : Shelved l) {c id : Nat} (cached : l.slot? c = some id) :
    l.Installed id := by
  obtain ⟨_, k, _, _, installed⟩ := sh.cached cached
  exact ⟨_, c, installed⟩

theorem slot_unique (sh : Shelved l) {c d id : Nat} (left : l.slot? c = some id)
    (right : l.slot? d = some id) : c = d := by
  obtain ⟨_, i, _, _, installed⟩ := sh.cached left
  obtain ⟨_, j, _, _, reinstalled⟩ := sh.cached right
  exact sh.one_owner installed reinstalled

theorem start : Shelved ⟨[], 0, []⟩ := by
  constructor
  case toAnnals => exact .start
  all_goals simp [Ledger.slot?, Ledger.generation, installs]

theorem add_plain (sh : Shelved l) (plain : r.deed.isPlain)
    (harmless : ∀ c k id, r.actor = .call c k → r.deed.attacks id →
      id ≤ l.made ∧ l.slot? c ≠ some id) : Shelved (l.add r) where
  toAnnals :=
    sh.toAnnals.add_plain plain fun c k id call attacks => (harmless c k id call attacks).1
  counted := by
    intro c
    rw [Ledger.history_add, installs_plain plain]
    exact sh.counted c
  tagged := sh.tagged
  cached := by
    intro c id cached
    obtain ⟨sound, k, own, opened, put⟩ := sh.cached cached
    refine ⟨fun attacked => ?_, k, Ledger.did_later own, Ledger.did_later opened,
      Ledger.did_later put⟩
    rcases Ledger.attacked_cases attacked with before | ⟨j, call, attacks⟩
    · exact sound before
    · exact (harmless c j id call attacks).2 cached

theorem supply (sh : Shelved l) (actor : Actor) : Shelved (l.supply actor) where
  toAnnals := sh.toAnnals.supply actor
  counted := sh.counted
  tagged := sh.tagged
  cached := by
    intro c id cached
    obtain ⟨sound, k, own, opened, put⟩ := sh.cached cached
    exact ⟨fun attacked => sound (Ledger.attacked_harmless (fun _ => rfl) attacked), k,
      Ledger.did_later own, Ledger.did_later opened, Ledger.did_later put⟩

theorem found (sh : Shelved l) : Shelved l.found where
  toAnnals := sh.toAnnals.found
  counted := fun c => (Ledger.generation_found l c).trans (sh.counted c)
  tagged := by
    intro c held generation slot
    by_cases inside : c < l.slots.length
    · rw [Ledger.found, List.getElem?_append_left inside] at slot
      exact sh.tagged slot
    · have empty := List.mem_of_getElem? slot
      simp_all [Ledger.found, List.getElem?_append_right, List.getElem?_singleton, Controller.empty]
  cached := fun cached => sh.cached (Ledger.slot_found l _ ▸ cached)

theorem install (sh : Shelved l) {c k id generation : Nat}
    (free : l.slots[c]? = some ⟨none, generation⟩) (own : l.Did (.call c k) (.created id))
    (opened : l.Did (.call c k) (.opened (.ofEndpoint id))) (loose : ¬ l.Installed id)
    (sound : ¬ l.Attacked c id) :
    Shelved ((l.put c ⟨some ⟨id, generation + 1⟩, generation + 1⟩).add
      ⟨.call c k, .installed c id⟩) := by
  have known : c < l.slots.length := (List.getElem?_eq_some_iff.mp free).1
  have harmless {d other : Nat} (before : ¬ l.Attacked d other) :
      ¬ ((l.put c ⟨some ⟨id, generation + 1⟩, generation + 1⟩).add
        ⟨.call c k, .installed c id⟩).Attacked d other :=
    fun attacked => before (Ledger.attacked_harmless (l := l.put c _) (fun _ => rfl) attacked)
  constructor
  case toAnnals => exact (sh.toAnnals.put c _).install own loose
  case counted =>
    intro d
    have shown : installs ((l.put c ⟨some ⟨id, generation + 1⟩, generation + 1⟩).add
        ⟨.call c k, .installed c id⟩).history = (c, id) :: installs l.history := by
      rw [Ledger.history_add, installs_cons]
      rfl
    rw [shown, List.map_cons, Ledger.generation_add]
    by_cases same : d = c
    · subst same
      rw [List.count_cons_self, ← sh.counted d, Ledger.generation_put_same l d _ known]
      simp [Ledger.generation, free]
    · rw [List.count_cons_of_ne (Ne.symm same), ← sh.counted d]
      exact Ledger.generation_put_other l _ same
  case tagged =>
    intro d held tag slot
    rw [Ledger.slots_add, Ledger.put] at slot
    by_cases same : d = c
    · subst same
      rw [List.getElem?_set_self known] at slot
      cases slot
      rfl
    · rw [List.getElem?_set_ne (Ne.symm same)] at slot
      exact sh.tagged slot
  case cached =>
    intro d other cached
    rw [Ledger.slot_add] at cached
    by_cases same : d = c
    · subst same
      rw [Ledger.slot_put_same l d _ known] at cached
      cases cached
      exact ⟨harmless sound, k, Ledger.did_later own, Ledger.did_later opened, Ledger.did_now ..⟩
    · rw [Ledger.slot_put_other l _ same] at cached
      obtain ⟨sound, j, made, opened, put⟩ := sh.cached cached
      exact ⟨harmless sound, j, Ledger.did_later made, Ledger.did_later opened,
        Ledger.did_later put⟩

theorem vacate (sh : Shelved l) {c generation : Nat} {held : Cached}
    (cached : l.slots[c]? = some ⟨some held, generation⟩) :
    Shelved (l.put c ⟨none, generation⟩) := by
  have known : c < l.slots.length := (List.getElem?_eq_some_iff.mp cached).1
  constructor
  case toAnnals => exact sh.toAnnals.put c _
  case counted =>
    intro d
    refine Eq.trans ?_ (sh.counted d)
    by_cases same : d = c
    · subst same
      rw [Ledger.generation_put_same l d _ known]
      simp [Ledger.generation, cached]
    · exact Ledger.generation_put_other l _ same
  case tagged =>
    intro d other tag slot
    rw [Ledger.put] at slot
    by_cases same : d = c
    · subst same
      rw [List.getElem?_set_self known] at slot
      cases slot
    · rw [List.getElem?_set_ne (Ne.symm same)] at slot
      exact sh.tagged slot
  case cached =>
    intro d id now
    by_cases same : d = c
    · subst same
      rw [Ledger.slot_put_same l d _ known] at now
      cases now
    · rw [Ledger.slot_put_other l _ same] at now
      exact sh.cached now

end Shelved

end Interleaving

end RemoteClient
