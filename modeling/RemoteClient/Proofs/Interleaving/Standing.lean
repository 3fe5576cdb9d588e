import RemoteClient.Proofs.Interleaving.Annals

/-!
The invariant of the ledger: every channel a controller made lies in its slot, in the hand of one of
its calls, or is torn down, and what lies in a slot is open and untouched. Every move keeps it.
-/

namespace RemoteClient.Interleaving

/-- What the history and the slots say, and which channels the hands of the calls hold. -/
structure Standing (l : Ledger) (hands : Actor → Hand) : Prop extends Shelved l where
  fresh : ∀ {actor : Actor} {id : Nat}, (hands actor).fresh? = some id → ¬ l.Installed id ∧
    ∃ c k, actor = .call c k ∧ l.Did actor (.created id) ∧ ¬ l.Attacked c id
  ready : ∀ {actor : Actor} {id : Nat}, hands actor = .ready id →
    l.Did actor (.opened (.ofEndpoint id))
  closing : ∀ {actor : Actor} {id : Nat} {sole : Bool}, hands actor = .closing id sole →
    (∃ maker, l.Did maker (.created id)) ∧ (∀ c, l.slot? c ≠ some id) ∧
      (sole = false → l.Installed id)
  sole : ∀ {a b : Actor} {id : Nat}, (hands a).own? = some id → (hands b).own? = some id → a = b
  accounted : ∀ {c k id : Nat}, l.Did (.call c k) (.created id) →
    l.slot? c = some id ∨ (∃ j, (hands (.call c j)).own? = some id ∧ l.Took c j id) ∨ l.TornDown id

theorem update_cases {α : Type} (read : Hand → α) {hands : Actor → Hand} {actor other : Actor}
    {hand : Hand} {now : α} (held : read (Function.update hands actor hand other) = now) :
    (other = actor ∧ read hand = now) ∨ (other ≠ actor ∧ read (hands other) = now) := by
  by_cases same : other = actor
  · rw [same, Function.update_self] at held
    exact .inl ⟨same, held⟩
  · rw [Function.update_of_ne same] at held
    exact .inr ⟨same, held⟩

namespace Standing

variable {l : Ledger} {hands : Actor → Hand}

theorem owned_made (st : Standing l hands) {actor : Actor} {id : Nat}
    (own : (hands actor).own? = some id) : ∃ maker, l.Did maker (.created id) := by
  rcases Hand.own_cases own with fresh | closing
  · obtain ⟨_, c, k, _, made, _⟩ := st.fresh fresh
    exact ⟨_, made⟩
  · exact (st.closing closing).1

theorem owned_uncached (st : Standing l hands) {actor : Actor} {c id : Nat}
    (own : (hands actor).own? = some id) : l.slot? c ≠ some id := by
  rcases Hand.own_cases own with fresh | closing
  · exact fun cached => (st.fresh fresh).1 (st.slot_installed cached)
  · exact (st.closing closing).2.1 c

theorem closing_not_fresh (st : Standing l hands) {a b : Actor} {id : Nat} {sole : Bool}
    (closing : hands a = .closing id sole) : (hands b).fresh? ≠ some id := by
  intro fresh
  cases sole with
  | true =>
      have own : (hands a).own? = some id := by rw [closing]; rfl
      have same : a = b := st.sole own (Hand.fresh_own fresh)
      rw [← same, closing] at fresh
      cases fresh
  | false => exact (st.fresh fresh).1 ((st.closing closing).2.2 rfl)

theorem start : Standing ⟨[], 0, []⟩ fun _ => .empty := by
  constructor
  case toShelved => exact .start
  all_goals simp [Ledger.Did, Hand.fresh?, Hand.own?]

/-- A record that makes no channel and installs none. No call may attack a channel that is in the
slot of its controller, or that is still fresh. -/
theorem add_plain (st : Standing l hands) (r : Record) (plain : r.deed.isPlain)
    (harmless : ∀ c k id, r.actor = .call c k → r.deed.attacks id →
      id ≤ l.made ∧ l.slot? c ≠ some id ∧ ∀ actor, (hands actor).fresh? ≠ some id) :
    Standing (l.add r) hands := by
  constructor
  case toShelved =>
    apply st.toShelved.add_plain plain
    intro c k id call attacks
    obtain ⟨made, uncached, _⟩ := harmless c k id call attacks
    exact ⟨made, uncached⟩
  case fresh =>
    intro actor id fresh
    obtain ⟨loose, c, k, same, own, sound⟩ := st.fresh fresh
    refine ⟨fun installed => ?_, c, k, same, Ledger.did_later own, fun attacked => ?_⟩
    · rcases Ledger.installed_cases installed with before | ⟨d, now⟩
      · exact loose before
      · exact Deed.plain_installed plain d id now.symm
    · rcases Ledger.attacked_cases attacked with before | ⟨j, call, attacks⟩
      · exact sound before
      · exact (harmless c j id call attacks).2.2 actor fresh
  case ready => exact fun held => Ledger.did_later (st.ready held)
  case closing =>
    intro actor id sole held
    obtain ⟨⟨maker, own⟩, uncached, reached⟩ := st.closing held
    exact ⟨⟨maker, Ledger.did_later own⟩, uncached,
      fun shared => Ledger.installed_later (reached shared)⟩
  case sole => exact st.sole
  case accounted =>
    intro c k id did
    have before := (Ledger.did_other (Deed.plain_created plain id)).mp did
    rcases st.accounted before with cached | ⟨j, own, took⟩ | torn
    · exact .inl cached
    · exact .inr (.inl ⟨j, own, took.imp Ledger.did_later Ledger.did_later⟩)
    · exact .inr (.inr ((Ledger.tornDown_add ..).mpr (.inr torn)))

/-- A call that changes only its hand may give a channel up, but must not take one that it did not
hold, and may let go of one that is its sole charge only when it is torn down. -/
theorem change_hand (st : Standing l hands) (actor : Actor) (hand : Hand)
    (fresh : ∀ id, hand.fresh? = some id → (hands actor).fresh? = some id)
    (ready : ∀ id, hand = .ready id → l.Did actor (.opened (.ofEndpoint id)))
    (closing : ∀ id sole, hand = .closing id sole → (∃ maker, l.Did maker (.created id)) ∧
      (∀ c, l.slot? c ≠ some id) ∧ (sole = false → l.Installed id))
    (gained : ∀ id, hand.own? = some id → (hands actor).own? = some id)
    (lost : ∀ id, (hands actor).own? = some id → hand.own? = some id ∨ l.TornDown id) :
    Standing l (Function.update hands actor hand) := by
  have owned {other : Actor} {id : Nat}
      (own : (Function.update hands actor hand other).own? = some id) :
      (hands other).own? = some id := by
    rcases update_cases Hand.own? own with ⟨rfl, now⟩ | ⟨_, before⟩
    · exact gained id now
    · exact before
  constructor
  case toShelved => exact st.toShelved
  case fresh =>
    intro other id held
    rcases update_cases Hand.fresh? held with ⟨rfl, now⟩ | ⟨_, before⟩
    · exact st.fresh (fresh id now)
    · exact st.fresh before
  case ready =>
    intro other id held
    rcases update_cases (fun h => h) held with ⟨rfl, now⟩ | ⟨_, before⟩
    · exact ready _ now
    · exact st.ready before
  case closing =>
    intro other id sole held
    rcases update_cases (fun h => h) held with ⟨rfl, now⟩ | ⟨_, before⟩
    · exact closing _ sole now
    · exact st.closing before
  case sole => exact fun left right => st.sole (owned left) (owned right)
  case accounted =>
    intro c k id made
    rcases st.accounted made with cached | ⟨j, own, took⟩ | torn
    · exact .inl cached
    · by_cases same : Actor.call c j = actor
      · subst same
        rcases lost id own with kept | torn
        · exact .inr (.inl ⟨j, by rwa [Function.update_self], took⟩)
        · exact .inr (.inr torn)
      · exact .inr (.inl ⟨j, by rwa [Function.update_of_ne same], took⟩)
    · exact .inr (.inr torn)

theorem supply (st : Standing l hands) (actor : Actor) (hand : Hand) (free : hands actor = .empty)
    (taken : (actor = .outside ∧ hand = .empty) ∨
      ((∃ c k, actor = .call c k) ∧ hand = .opening (l.made + 1))) :
    Standing (l.supply actor) (Function.update hands actor hand) := by
  have newer : (l.supply actor).Did actor (.created (l.made + 1)) := Ledger.did_now ..
  have loose {id : Nat} (installed : (l.supply actor).Installed id) : l.Installed id := by
    rcases Ledger.installed_cases installed with before | ⟨_, other⟩
    · exact before
    · cases other
  have sound {c id : Nat} (attacked : (l.supply actor).Attacked c id) : l.Attacked c id :=
    Ledger.attacked_harmless (fun _ => rfl) attacked
  have owned {a : Actor} {id : Nat} (own : (Function.update hands actor hand a).own? = some id) :
      (a = actor ∧ id = l.made + 1) ∨ ((hands a).own? = some id ∧ id ≠ l.made + 1) := by
    rcases update_cases Hand.own? own with ⟨rfl, now⟩ | ⟨_, before⟩
    · rcases taken with ⟨_, rfl⟩ | ⟨_, rfl⟩
      · cases now
      · cases now
        exact .inl ⟨rfl, rfl⟩
    · obtain ⟨maker, did⟩ := st.owned_made before
      exact .inr ⟨before, fun last => st.unmade maker (last ▸ did)⟩
  constructor
  case toShelved => exact st.toShelved.supply actor
  case fresh =>
    intro a id fresh
    rcases update_cases Hand.fresh? fresh with ⟨rfl, now⟩ | ⟨_, before⟩
    · rcases taken with ⟨_, rfl⟩ | ⟨⟨c, k, rfl⟩, rfl⟩
      · cases now
      · cases now
        refine ⟨fun installed => ?_, c, k, rfl, newer, fun attacked => ?_⟩
        · obtain ⟨b, d, did⟩ := loose installed
          obtain ⟨_, _, own⟩ := st.installed_own did
          exact st.unmade b own
        · exact Nat.not_succ_le_self _ (st.attacked_le (sound attacked))
    · obtain ⟨uninstalled, c, k, call, own, untouched⟩ := st.fresh before
      exact ⟨fun installed => uninstalled (loose installed), c, k, call, Ledger.did_later own,
        fun attacked => untouched (sound attacked)⟩
  case ready =>
    intro a id held
    rcases update_cases (fun h => h) held with ⟨rfl, now⟩ | ⟨_, before⟩
    · rcases taken with ⟨_, rfl⟩ | ⟨_, rfl⟩ <;> cases now
    · exact Ledger.did_later (st.ready before)
  case closing =>
    intro a id sole held
    rcases update_cases (fun h => h) held with ⟨rfl, now⟩ | ⟨_, before⟩
    · rcases taken with ⟨_, rfl⟩ | ⟨_, rfl⟩ <;> cases now
    · obtain ⟨⟨maker, own⟩, uncached, reached⟩ := st.closing before
      exact ⟨⟨maker, Ledger.did_later own⟩, uncached,
        fun shared => Ledger.installed_later (reached shared)⟩
  case sole =>
    intro a b id left right
    rcases owned left with ⟨rfl, rfl⟩ | ⟨own, old⟩
    · rcases owned right with ⟨rfl, _⟩ | ⟨_, old⟩
      · rfl
      · exact absurd rfl old
    · rcases owned right with ⟨_, rfl⟩ | ⟨again, _⟩
      · exact absurd rfl old
      · exact st.sole own again
  case accounted =>
    intro c k id did
    rcases Ledger.created_cases did with ⟨same, rfl⟩ | before
    · subst same
      rcases taken with ⟨same, _⟩ | ⟨_, rfl⟩
      · cases same
      · exact .inr (.inl ⟨k, by rw [Function.update_self]; rfl, .inl newer⟩)
    · rcases st.accounted before with cached | ⟨j, own, took⟩ | torn
      · exact .inl cached
      · refine .inr (.inl ⟨j, ?_, took.imp Ledger.did_later Ledger.did_later⟩)
        rw [Function.update_of_ne, own]
        rintro rfl
        rw [free] at own
        cases own
      · exact .inr (.inr ((Ledger.tornDown_add ..).mpr (.inr torn)))

theorem found (st : Standing l hands) : Standing l.found hands := by
  constructor
  case toShelved => exact st.toShelved.found
  case fresh => exact st.fresh
  case ready => exact st.ready
  case closing =>
    intro actor id sole held
    obtain ⟨made, uncached, reached⟩ := st.closing held
    exact ⟨made, fun c => Ledger.slot_found l c ▸ uncached c, reached⟩
  case sole => exact st.sole
  case accounted =>
    intro c k id made
    rw [Ledger.slot_found]
    exact st.accounted made

theorem install (st : Standing l hands) {c k id generation : Nat}
    (free : l.slots[c]? = some ⟨none, generation⟩) (held : hands (.call c k) = .ready id) :
    Standing ((l.put c ⟨some ⟨id, generation + 1⟩, generation + 1⟩).add
        ⟨.call c k, .installed c id⟩)
      (Function.update hands (.call c k) .empty) := by
  have known : c < l.slots.length := (List.getElem?_eq_some_iff.mp free).1
  have vacant : l.slot? c = none := by simp [Ledger.slot?, free]
  have fresh : (hands (.call c k)).fresh? = some id := by rw [held]; rfl
  obtain ⟨uninstalled, _, _, same, own, sound⟩ := st.fresh fresh
  cases same
  set after :=
    (l.put c ⟨some ⟨id, generation + 1⟩, generation + 1⟩).add ⟨.call c k, .installed c id⟩
    with after_eq
  have filled : after.slot? c = some id := by
    rw [after_eq, Ledger.slot_add, Ledger.slot_put_same l c _ known]
    rfl
  have unfilled {d : Nat} (apart : d ≠ c) : after.slot? d = l.slot? d :=
    Ledger.slot_put_other l _ apart
  have others {α : Type} (read : Hand → α) {a : Actor} {thing : α} (filling : read .empty ≠ thing)
      (now : read (Function.update hands (.call c k) .empty a) = thing) :
      a ≠ .call c k ∧ read (hands a) = thing := by
    rcases update_cases read now with ⟨_, empty⟩ | other
    · exact absurd empty filling
    · exact other
  constructor
  case toShelved => exact st.toShelved.install free own (st.ready held) uninstalled sound
  case fresh =>
    intro a other now
    obtain ⟨apart, before⟩ := others Hand.fresh? (by simp [Hand.fresh?]) now
    obtain ⟨loose, d, j, call, made, sound⟩ := st.fresh before
    refine ⟨fun installed => ?_, d, j, call, Ledger.did_later made, fun attacked => ?_⟩
    · rcases Ledger.installed_cases installed with again | ⟨_, same⟩
      · exact loose again
      · cases same
        exact apart (st.sole (Hand.fresh_own before) (Hand.fresh_own fresh))
    · exact sound (Ledger.attacked_harmless (l := l.put c _) (fun _ => rfl) attacked)
  case ready =>
    intro a other now
    exact Ledger.did_later (st.ready (others (fun h => h) (by simp) now).2)
  case closing =>
    intro a other sole now
    obtain ⟨_, before⟩ := others (fun h => h) (by simp) now
    obtain ⟨⟨maker, made⟩, uncached, reached⟩ := st.closing before
    refine ⟨⟨maker, Ledger.did_later made⟩, fun d cached => ?_, fun shared => ?_⟩
    · by_cases same : d = c
      · subst same
        cases filled.symm.trans cached
        exact st.closing_not_fresh before fresh
      · exact uncached d (unfilled same ▸ cached)
    · exact Ledger.installed_later (l := l.put c _) (reached shared)
  case sole =>
    intro a b other left right
    have first := others Hand.own? (by simp [Hand.own?]) left
    have second := others Hand.own? (by simp [Hand.own?]) right
    exact st.sole first.2 second.2
  case accounted =>
    intro d j other did
    have before : l.Did (.call d j) (.created other) := (Ledger.did_other (by simp)).mp did
    rcases st.accounted before with cached | ⟨i, own, took⟩ | torn
    · by_cases same : d = c
      · rw [same, vacant] at cached
        cases cached
      · exact .inl (unfilled same ▸ cached)
    · by_cases same : Actor.call d i = .call c k
      · cases same
        cases (Hand.fresh_own fresh).symm.trans own
        exact .inl filled
      · refine .inr (.inl ⟨i, by rwa [Function.update_of_ne same], ?_⟩)
        exact took.imp Ledger.did_later Ledger.did_later
    · exact .inr (.inr ((Ledger.tornDown_add ..).mpr (.inr torn)))

theorem vacate (st : Standing l hands) {c k generation : Nat} {held : Cached}
    (cached : l.slots[c]? = some ⟨some held, generation⟩) (free : hands (.call c k) = .empty)
    (told : l.Did (.call c k) (.removed c held.channel)) :
    Standing (l.put c ⟨none, generation⟩)
      (Function.update hands (.call c k) (.closing held.channel true)) := by
  have known : c < l.slots.length := (List.getElem?_eq_some_iff.mp cached).1
  have filled : l.slot? c = some held.channel := by simp [Ledger.slot?, cached]
  have still {d id : Nat} (now : (l.put c ⟨none, generation⟩).slot? d = some id) :
      l.slot? d = some id ∧ d ≠ c := by
    by_cases same : d = c
    · rw [same, Ledger.slot_put_same l c _ known] at now
      cases now
    · exact ⟨Ledger.slot_put_other l _ same ▸ now, same⟩
  obtain ⟨_, maker, made, _⟩ := st.cached filled
  constructor
  case toShelved => exact st.toShelved.vacate cached
  case fresh =>
    intro a id now
    rcases update_cases Hand.fresh? now with ⟨_, closed⟩ | ⟨_, before⟩
    · cases closed
    · exact st.fresh before
  case ready =>
    intro a id now
    rcases update_cases (fun h => h) now with ⟨_, closed⟩ | ⟨_, before⟩
    · cases closed
    · exact st.ready before
  case closing =>
    intro a id sole now
    rcases update_cases (fun h => h) now with ⟨_, closed⟩ | ⟨_, before⟩
    · cases closed
      refine ⟨⟨_, made⟩, fun d again => ?_, fun shared => by cases shared⟩
      obtain ⟨before, apart⟩ := still again
      exact apart (st.slot_unique before filled)
    · obtain ⟨maker, uncached, reached⟩ := st.closing before
      exact ⟨maker, fun d again => uncached d (still again).1, reached⟩
  case sole =>
    -- Nobody else holds what was in the slot until now.
    have holder {a : Actor}
        (own : (Function.update hands (.call c k) (.closing held.channel true) a).own? =
          some held.channel) : a = .call c k := by
      rcases update_cases Hand.own? own with ⟨same, _⟩ | ⟨_, before⟩
      · exact same
      · exact absurd filled (st.owned_uncached before)
    intro a b id left right
    rcases update_cases Hand.own? left with ⟨same, mine⟩ | ⟨apart, before⟩
    · cases mine
      rw [same, holder right]
    · rcases update_cases Hand.own? right with ⟨_, mine⟩ | ⟨_, again⟩
      · cases mine
        exact absurd (holder left) apart
      · exact st.sole before again
  case accounted =>
    intro d j id made
    rcases st.accounted made with now | ⟨i, own, took⟩ | torn
    · by_cases same : d = c
      · subst same
        cases filled.symm.trans now
        exact .inr (.inl ⟨k, by rw [Function.update_self]; rfl, .inr told⟩)
      · exact .inl ((Ledger.slot_put_other l _ same).trans now)
    · refine .inr (.inl ⟨i, ?_, took⟩)
      rw [Function.update_of_ne, own]
      intro same
      rw [same, free] at own
      cases own
    · exact .inr (.inr torn)

end Standing

theorem move_standing {l after : Ledger} {hands : Actor → Hand} {actor : Actor} {hand left : Hand}
    (st : Standing l hands) (held : hands actor = hand)
    (move : Move actor (l, hand) (after, left)) :
    Standing after (Function.update hands actor left) := by
  have same : Function.update hands actor hand = hands := held ▸ Function.update_eq_self ..
  cases move with
  | meddle _ deed plain =>
      rw [same]
      exact st.add_plain _ plain fun c k id call => by cases call
  | supply => exact st.supply .outside .empty held (.inl ⟨rfl, rfl⟩)
  | found =>
      rw [same]
      exact st.found
  | create c k => exact st.supply _ _ held (.inr ⟨⟨c, k, rfl⟩, rfl⟩)
  | opened c k _ id =>
      have told := st.add_plain ⟨.call c k, .opened (.ofEndpoint id)⟩ rfl (by simp [Deed.attacks])
      refine told.change_hand (.call c k) (.ready id) ?_ ?_ ?_ ?_ ?_ <;>
        simp [held, Hand.fresh?, Hand.own?]
  | openFailed c k _ id e =>
      rw [same]
      exact st.add_plain _ rfl (by simp [Deed.attacks])
  | reject c k _ hand id fresh =>
      rw [← held] at fresh
      have own := Hand.fresh_own fresh
      have made := st.owned_made own
      have loose (c : Nat) : l.slot? c ≠ some id := st.owned_uncached own
      refine st.change_hand (.call c k) (.closing id true) ?_ ?_ ?_ ?_ ?_
      all_goals simp_all [Hand.fresh?, Hand.own?]
  | install c k _ id generation free => exact st.install free held
  | remove c k _ cached generation slot =>
      have told := st.add_plain ⟨.call c k, .removed c cached.channel⟩ rfl (by simp [Deed.attacks])
      exact told.vacate slot held ((Ledger.did_add ..).mpr (.inl rfl))
  | reach c k _ id actor installed absent =>
      obtain ⟨j, rfl, made⟩ := st.installed_own installed
      have loose (d : Nat) : l.slot? d ≠ some id := by
        intro cached
        obtain ⟨_, i, _, _, again⟩ := st.cached cached
        cases st.one_owner installed again
        exact absent cached
      refine st.change_hand (.call c k) (.closing id false) ?_ ?_ ?_ ?_ ?_
      · simp [Hand.fresh?]
      · simp
      · rintro _ _ ⟨⟩
        exact ⟨⟨_, made⟩, loose, fun _ => ⟨_, _, installed⟩⟩
      · simp [Hand.own?]
      · simp [held, Hand.own?]
  | shut c k _ id sole deed shuts =>
      rw [same]
      apply st.add_plain _ (Deed.shuts_plain shuts)
      intro d j other _ attacks
      cases Deed.shuts_only shuts attacks
      obtain ⟨⟨maker, made⟩, uncached, _⟩ := st.closing held
      exact ⟨st.created_le made, uncached d, fun b => st.closing_not_fresh held⟩
  | release c k _ id sole done =>
      refine st.change_hand (.call c k) .empty ?_ ?_ ?_ ?_ ?_
      · simp [Hand.fresh?]
      · simp
      · simp
      · simp [Hand.own?]
      · intro other own
        rw [held] at own
        cases sole with
        | true =>
            cases own
            exact .inr (done rfl)
        | false => cases own

/-- What every move of an actor keeps, all of its moves together keep. -/
theorem moves_keep {P : Ledger → (Actor → Hand) → Prop} {actor : Actor}
    (keeps : ∀ {l after : Ledger} {hands : Actor → Hand} {left : Hand}, P l hands →
      Move actor (l, hands actor) (after, left) → P after (Function.update hands actor left))
    {l after : Ledger} {hands : Actor → Hand} {left : Hand} (start : P l hands)
    (moves : Moves actor (l, hands actor) (after, left)) :
    P after (Function.update hands actor left) := by
  generalize stop : (after, left) = last at moves
  induction moves generalizing after left with
  | refl =>
      cases stop
      rwa [Function.update_eq_self]
  | @tail middle _ _ move ih =>
      cases stop
      have moved :
          Move actor (middle.1, Function.update hands actor middle.2 actor) (after, left) := by
        rwa [Function.update_self]
      have next := keeps (ih rfl) moved
      rwa [Function.update_idem] at next

theorem moves_standing {l after : Ledger} {hands : Actor → Hand} {actor : Actor} {left : Hand}
    (st : Standing l hands) (moves : Moves actor (l, hands actor) (after, left)) :
    Standing after (Function.update hands actor left) :=
  moves_keep (fun st move => move_standing st rfl move) st moves

end RemoteClient.Interleaving
