import RemoteClient.Proofs.Interleaving.Occupancy

/-!
Runs in which the calls on one controller come one after another, each seen through to its end.
There the slot holds what the last acquire or invocation has left in it, until somebody takes that
out.
-/

namespace RemoteClient.Interleaving

/-! ## What an event has to do with a controller -/

namespace System

structure Untouched (s after : System) (c : Nat) : Prop where
  slot : ∀ held, Stocked c held after.network ↔ Stocked c held s.network
  tasks : ∀ (k : Nat) (stage : Stage), after.tasks[k]? = some ⟨c, stage⟩ ↔
    s.tasks[k]? = some ⟨c, stage⟩

/-- The event begins a call on the controller, drops it, or lets one of its calls go on. -/
inductive Concerns (s : System) (c : Nat) : Event → Prop
  | begins (op : Operation) : Concerns s c (.begin c op)
  | drops : Concerns s c (.drop c)
  | goesOn {e : Event} {k : Nat} {stage : Stage} (own : e.call? = some k)
      (found : s.tasks[k]? = some ⟨c, stage⟩) (going : stage.isOver = false) : Concerns s c e

end System

section

variable {s after : System} {c : Nat}

theorem untouched_refl (s : System) (c : Nat) : s.Untouched s c :=
  ⟨fun _ => Iff.rfl, fun _ _ => Iff.rfl⟩

theorem perform_untouched {α : Type} {act : Act α} {actor : Actor} {tasks : List Task}
    {dropped : List Nat} {hand : Hand}
    (moves : Moves actor (s.ledger, s.hands actor) ((s.perform actor act).2.ledger, hand))
    (stranger : ∀ k, actor ≠ .call c k)
    (same : ∀ (k : Nat) (stage : Stage), tasks[k]? = some ⟨c, stage⟩ ↔
      s.tasks[k]? = some ⟨c, stage⟩) :
    s.Untouched { (s.perform actor act).2 with tasks, dropped } c where
  slot held := by
    rw [Stocked, Stocked, ← slot_network s c, ← moves_elsewhere moves stranger, slot_network]
  tasks := same

theorem begin_untouched (sound : Sound s) {d : Nat} (apart : d ≠ c) (op : Operation)
    (dropped : List Nat) :
    s.Untouched { s.begin d op with dropped } c := by
  by_cases admitted : s.hasController d && s.admits d op
  · obtain ⟨present, admits⟩ := Bool.and_eq_true_iff.mp admitted
    obtain ⟨known, alive, held⟩ := begin_ready present admits
    have knows : s.ledger.Knows (.call d s.tasks.length) := known
    obtain ⟨hand, -, moves⟩ := perform_upholds sound knows (start_upholds op) held
    have begun : s.begin d op = { (s.perform (.call d s.tasks.length) (op.start d)).2 with
        tasks := s.tasks ++ [⟨d, (s.perform (.call d s.tasks.length) (op.start d)).1⟩] } := by
      rw [System.begin, if_pos admitted]
      rfl
    rw [begun]
    refine perform_untouched moves (fun k same => apart (by cases same; rfl)) fun k stage => ?_
    by_cases last : k = s.tasks.length
    · subst last
      simp [apart]
    · rw [getElem?_concat_other _ _ last]
  · rw [System.begin, if_neg admitted]
    exact ⟨fun _ => Iff.rfl, fun _ _ => Iff.rfl⟩

theorem go_upholds {e : Event} {k : Nat} (own : e.call? = some k) (d : Nat) (stage : Stage) :
    Upholds (.call d k) (stands d stage) (e.go d stage) (stands d) := by
  cases e with
  | resume => exact resume_upholds stage
  | suspend => exact suspend_upholds stage
  | conclude _ outcome => exact conclude_upholds outcome stage
  | abandon => exact abandon_stage_upholds stage
  | newController | begin | drop | outside => cases own

theorem proceed_untouched (sound : Sound s) {e : Event} {k : Nat} (own : e.call? = some k)
    (idle : ∀ stage, s.tasks[k]? = some ⟨c, stage⟩ → stage.isOver) :
    s.Untouched (s.proceed k e.go) c := by
  cases found : s.tasks[k]? with
  | none =>
      rw [System.proceed, found]
      exact untouched_refl s c
  | some task =>
      obtain ⟨d, stage⟩ := task
      cases going : stage.isOver with
      | true =>
          rw [proceed_over found going]
          exact untouched_refl s c
      | false =>
          have apart : d ≠ c := by
            rintro rfl
            rw [idle stage found] at going
            cases going
          obtain ⟨known, backed⟩ := sound.placed found
          have knows : s.ledger.Knows (.call d k) := known
          obtain ⟨hand, -, moves⟩ := perform_upholds sound knows (go_upholds own d stage)
            ⟨hands_call found rfl, backed⟩
          have gone : s.proceed k e.go = { (s.perform (.call d k) (e.go d stage)).2 with
              tasks := s.tasks.set k ⟨d, (s.perform (.call d k) (e.go d stage)).1⟩ } := by
            simp only [System.proceed, found, going]
            rfl
          rw [gone]
          refine perform_untouched moves (fun k same => apart (by cases same; rfl)) fun j left => ?_
          by_cases here : k = j
          · subst here
            have inside : k < s.tasks.length := (List.getElem?_eq_some_iff.mp found).1
            rw [List.getElem?_set_self inside, found]
            simp [apart]
          · rw [List.getElem?_set_ne here]

theorem step_untouched (sound : Sound s) {e : Event} (strange : ¬ s.Concerns c e) :
    s.Untouched (s.step e) c := by
  cases own : e.call? with
  | some k =>
      rw [step_own own]
      refine proceed_untouched sound own fun stage found => ?_
      cases going : stage.isOver with
      | true => rfl
      | false => exact absurd (.goesOn own found going) strange
  | none =>
      have outside {α : Type} {act : Act α}
        (upholds : Upholds .outside (holds .empty) act fun _ => holds .empty) :
          s.Untouched (s.perform .outside act).2 c := by
        have knows : s.ledger.Knows .outside := trivial
        obtain ⟨hand, -, moves⟩ := perform_upholds sound knows upholds rfl
        exact perform_untouched moves (by simp) fun _ _ => Iff.rfl
      cases e with
      | newController => exact outside addController_upholds
      | outside o => exact outside (outside_upholds o)
      | begin d op =>
          have apart : d ≠ c := by
            rintro rfl
            exact strange (.begins op)
          exact begin_untouched sound apart op (s.begin d op).dropped
      | drop d =>
          have apart : d ≠ c := by
            rintro rfl
            exact strange .drops
          change s.Untouched (s.drop d) c
          unfold System.drop
          split
          · exact begin_untouched sound apart .dispose _
          · exact untouched_refl s c
      | resume | suspend | conclude | abandon => cases own

end

/-! ## One call after another -/

namespace Event

/-- The event does not begin an acquire, an invocation, a shutdown or a disposal on the controller,
nor an invalidation of the channel. -/
def spares (c id : Nat) : Event → Bool
  | .begin d (.invalidate other _) => d != c || other != id
  | .begin d _ | .drop d => d != c
  | .newController | .resume _ | .suspend _ | .conclude _ _ | .abandon _ | .outside _ => true

end Event

namespace System

/-- No call on the controller begins while another one is under way, and none is given up. -/
def Awaits (s : System) (c : Nat) : Event → Prop
  | .begin d _ | .drop d => d = c → s.isIdle c
  | .abandon k => ∀ stage, s.tasks[k]? = some ⟨c, stage⟩ → stage.isOver
  | .newController | .resume _ | .suspend _ | .conclude _ _ | .outside _ => True

/-- At the event an acquire on the controller ends with the channel, or an invocation that has run
its operation on it ends well, without ever being cancelled. -/
def Serves (s : System) (e : Event) (c id : Nat) : Prop :=
  ∃ (k : Nat) (ending : Ending), (∀ task, s.tasks[k]? = some task → task.stage.isOver = false) ∧
    (s.step e).tasks[k]? = some ⟨c, .ended ending⟩ ∧
    Stage.served? (s.tasks[k]?.map (·.stage)) ending = some id

/-- The slot holds what the calls on the controller have kept there, one after another. -/
structure InTurn (s : System) (c : Nat) (kept : Nat → Prop) : Prop where
  alone : ∀ {j k : Nat} {left right : Stage}, s.tasks[j]? = some ⟨c, left⟩ →
    s.tasks[k]? = some ⟨c, right⟩ →
    left.isOver = false → right.isOver = false → j = k
  busy : ∀ {k : Nat} {stage : Stage}, s.tasks[k]? = some ⟨c, stage⟩ → stage.isOver = false →
    stage.Fits c s.network ∧ ∀ id, ¬ kept id
  idle : s.isIdle c → ∀ id, Stocked c (some id) s.network ↔ kept id

end System

/-- The calls on the controller come one after another, and each is seen through to its end. -/
def Sequential (address : String) (c : Nat) (events : List Event) : Prop :=
  ∀ first e rest, events = first ++ e :: rest → (run address first).Awaits c e

/-- The last acquire or invocation on the controller has succeeded on the channel, with no
cancellation, and since then nobody has shut the controller down, disposed of it or invalidated the
channel. -/
def Retained (address : String) (c : Nat) (events : List Event) (id : Nat) : Prop :=
  ∃ first e rest, events = first ++ e :: rest ∧ (run address first).Serves e c id ∧
    ∀ later ∈ rest, later.spares c id

theorem awaits_abandon {s : System} {c k : Nat} : s.Awaits c (.abandon k) ↔
    s.tasks[k]?.all fun task => task.controller != c || task.stage.isOver := by
  simp only [System.Awaits]
  cases s.tasks[k]? with
  | none => simp
  | some task =>
      obtain ⟨d, stage⟩ := task
      by_cases here : d = c <;> simp [here]

instance (s : System) (c : Nat) : (e : Event) → Decidable (s.Awaits c e)
  | .begin d _ | .drop d => inferInstanceAs (Decidable (d = c → s.isIdle c))
  | .abandon _ => decidable_of_iff' _ awaits_abandon
  | .newController | .resume _ | .suspend _ | .conclude _ _ | .outside _ => isTrue trivial

theorem sequential_iff {address : String} {c : Nat} {events : List Event} :
    Sequential address c events ↔
    ∀ (k : Nat) (inside : k < events.length), (run address (events.take k)).Awaits c events[k] := by
  constructor
  · intro sequential k inside
    exact sequential _ _ (events.drop (k + 1))
      (by rw [List.cons_getElem_drop_succ, List.take_append_drop])
  · rintro each first e rest rfl
    have awaits := each first.length (by simp)
    simpa using awaits

instance (address : String) (c : Nat) (events : List Event) :
    Decidable (Sequential address c events) :=
  decidable_of_iff' _ sequential_iff

theorem Sequential.before {address : String} {c : Nat} {events later : List Event}
    (sequential : Sequential address c (events ++ later)) : Sequential address c events := by
  rintro first e rest rfl
  exact sequential first e (rest ++ later) (by simp)

theorem retained_snoc {address : String} {c id : Nat} {events : List Event} {e : Event} :
    Retained address c (events ++ [e]) id ↔
      (run address events).Serves e c id ∨ Retained address c events id ∧ e.spares c id := by
  constructor
  · rintro ⟨first, f, rest, split, serves, spared⟩
    rcases List.eq_nil_or_concat rest with rfl | ⟨rest, last, rfl⟩
    · obtain ⟨rfl, same⟩ := List.append_inj' split rfl
      cases same
      exact .inl serves
    · rw [List.concat_eq_append] at split spared
      rw [← List.cons_append, ← List.append_assoc] at split
      obtain ⟨rfl, same⟩ := List.append_inj' split rfl
      cases same
      exact .inr ⟨⟨first, f, rest, rfl, serves,
        fun g member => spared g (List.mem_append_left _ member)⟩,
        spared e (by simp)⟩
  · rintro (serves | ⟨⟨first, f, rest, rfl, serves, spared⟩, spares⟩)
    · exact ⟨events, e, [], rfl, serves, fun f member => nomatch member⟩
    · refine ⟨first, f, rest ++ [e], by simp, serves, fun g member => ?_⟩
      rcases List.mem_append.mp member with before | last
      · exact spared g before
      · cases List.mem_singleton.mp last
        exact spares

section

variable {s after : System} {c : Nat} {kept now : Nat → Prop} {e : Event}

theorem fits_slot {n m : Network} (slot : ∀ held, Stocked c held m ↔ Stocked c held n)
    {stage : Stage} (fits : stage.Fits c n) :
    stage.Fits c m := by
  cases stage with
  | acquiring a | entering token a =>
      cases a with
      | opening => exact (slot none).mpr fits
      | retiring | discarding => exact fits
  | operating i polled => exact ⟨fits.1, (slot _).mpr fits.2⟩
  | shutting | disposing => exact (slot none).mpr fits
  | ended => exact fits

namespace System.InTurn

theorem untouched (inTurn : s.InTurn c kept) (untouched : s.Untouched after c)
    (same : ∀ id, now id ↔ kept id) :
    after.InTurn c now where
  alone first second :=
    inTurn.alone ((untouched.tasks ..).mp first) ((untouched.tasks ..).mp second)
  busy found going := by
    obtain ⟨fits, nothing⟩ := inTurn.busy ((untouched.tasks ..).mp found) going
    exact ⟨fits_slot untouched.slot fits, fun id holds => nothing id ((same id).mp holds)⟩
  idle idle id := by
    rw [untouched.slot, same]
    refine inTurn.idle (idle_iff.mpr fun {k task} found owned => ?_) id
    obtain ⟨d, stage⟩ := task
    cases owned
    exact idle_iff.mp idle ((untouched.tasks ..).mpr found) rfl

theorem called {k : Nat} {stage : Stage} {last : Option Stage}
    (free : ∀ (j : Nat) (left : Stage), j ≠ k → s.tasks[j]? = some ⟨c, left⟩ → left.isOver)
    (new : after.tasks[k]? = some ⟨c, stage⟩) (old : ∀ j, j ≠ k → after.tasks[j]? = s.tasks[j]?)
    (comes : stage.Comes c last after.network)
    (keeps : ∀ id, now id ↔ ∃ ending, stage = .ended ending ∧ Stage.served? last ending = some id) :
    after.InTurn c now := by
  have others {j : Nat} {left : Stage} (found : after.tasks[j]? = some ⟨c, left⟩)
      (going : left.isOver = false) : j = k := by
    by_contra apart
    rw [free j left apart (old j apart ▸ found)] at going
    cases going
  constructor
  case alone =>
    intro i j left right first second going waiting
    rw [others first going, others second waiting]
  case busy =>
    intro j left found going
    cases others found going
    cases new.symm.trans found
    rcases comes with fits | ⟨ending, rfl, _⟩
    · refine ⟨fits, fun id holds => ?_⟩
      obtain ⟨ending, rfl, _⟩ := (keeps id).mp holds
      cases going
    · cases going
  case idle =>
    intro idle id
    have finished := idle_iff.mp idle new rfl
    rcases comes with fits | ⟨ending, rfl, stocked⟩
    · cases stage <;> first | exact fits.elim | cases finished
    · rw [keeps, Stocked, show _ = _ from stocked]
      constructor
      · exact fun same => ⟨ending, rfl, same⟩
      · rintro ⟨_, same, served⟩
        cases same
        exact served

end System.InTurn

theorem serves_called {k id : Nat} {stage : Stage} {last : Option Stage}
    (going : ∀ task, s.tasks[k]? = some task → task.stage.isOver = false)
    (stood : s.tasks[k]?.map (·.stage) = last) (new : (s.step e).tasks[k]? = some ⟨c, stage⟩)
    (old : ∀ j, j ≠ k → (s.step e).tasks[j]? = s.tasks[j]?) :
    s.Serves e c id ↔ ∃ ending, stage = .ended ending ∧ Stage.served? last ending = some id := by
  constructor
  · rintro ⟨j, ending, waiting, ended, served⟩
    by_cases same : j = k
    · subst same
      cases new.symm.trans ended
      exact ⟨ending, rfl, stood ▸ served⟩
    · have finished := waiting _ ((old j same).symm.trans ended)
      cases finished
  · rintro ⟨ending, rfl, served⟩
    exact ⟨k, ending, going, new, stood ▸ served⟩

theorem serves_none {id : Nat}
    (same : ∀ (k : Nat) (stage : Stage),
    (s.step e).tasks[k]? = some ⟨c, stage⟩ → s.tasks[k]? = some ⟨c, stage⟩) :
    ¬ s.Serves e c id := by
  rintro ⟨k, ending, going, ended, _⟩
  cases going _ (same k _ ended)

theorem goesOn_inTurn (sound : Sound s) (inTurn : s.InTurn c kept) {k : Nat} {stage : Stage}
    (own : e.call? = some k) (given : e ≠ .abandon k) (found : s.tasks[k]? = some ⟨c, stage⟩)
    (going : stage.isOver = false) :
    (s.step e).InTurn c fun id => s.Serves e c id ∨ kept id ∧ e.spares c id := by
  obtain ⟨⟨next, n⟩, ran⟩ : ∃ ran, (e.go c stage).run s.blank = ran := ⟨_, rfl⟩
  have stepped := (step_own own s).trans (proceed_eq found going ran)
  obtain ⟨fits, nothing⟩ := inTurn.busy found going
  have inside : k < s.tasks.length := (List.getElem?_eq_some_iff.mp found).1
  have new : (s.step e).tasks[k]? = some ⟨c, next⟩ := by rw [stepped, List.getElem?_set_self inside]
  have old (j : Nat) (apart : j ≠ k) : (s.step e).tasks[j]? = s.tasks[j]? := by
    rw [stepped, List.getElem?_set_ne (Ne.symm apart)]
  have comes : next.Comes c (some stage) (s.step e).network := by
    have known : c < s.blank.controllers.length := (sound.placed found).1
    have goes := go_comes own given stage s.blank ⟨known, fits⟩
    rw [ran] at goes
    rwa [stepped]
  refine .called (fun j left apart other => ?_) new old comes fun id => ?_
  · by_contra waiting
    exact apart (inTurn.alone other found (by simpa using waiting) going)
  · rw [or_iff_left fun kept => nothing id kept.1]
    refine serves_called (fun task same => ?_) (by rw [found]; rfl) new old
    cases found.symm.trans same
    exact going

theorem present_known (present : s.hasController c) : c < s.network.controllers.length := by
  simp only [System.hasController, Bool.and_eq_true, decide_eq_true_eq] at present
  exact present.1

theorem absent_vacant (sound : Sound s) (absent : ¬ s.hasController c) (id : Nat) :
    ¬ Stocked c (some id) s.network := by
  intro kept
  have known : c < s.network.controllers.length := keeps_inside kept
  have gone : c ∈ s.dropped := by simpa [System.hasController, known] using absent
  have empty := (slot_network s c).symm.trans (sound.retired gone).2
  cases empty.symm.trans kept

theorem begun_inTurn {op : Operation} {stage : Stage} {n : Network} (present : s.hasController c)
    (idle : s.isIdle c) (other : ∀ id alwaysAbort, op ≠ .invalidate id alwaysAbort)
    (ran : (op.start c).run s.blank = (stage, n))
    (tasks : (s.step e).tasks = s.tasks ++ [⟨c, stage⟩]) (network : (s.step e).network = n)
    (breaks : ∀ id, e.spares c id = false) :
    (s.step e).InTurn c fun id => s.Serves e c id ∨ kept id ∧ e.spares c id := by
  have absent : s.tasks[s.tasks.length]? = none := List.getElem?_eq_none (Nat.le_refl _)
  have new : (s.step e).tasks[s.tasks.length]? = some ⟨c, stage⟩ := by
    rw [tasks, List.getElem?_concat_length]
  have old (j : Nat) (apart : j ≠ s.tasks.length) : (s.step e).tasks[j]? = s.tasks[j]? := by
    rw [tasks, getElem?_concat_other _ _ apart]
  have comes : stage.Comes c none (s.step e).network := by
    have starts := start_comes other s.blank (present_known present)
    rw [ran] at starts
    rwa [network]
  refine .called (fun j left _ found => idle_iff.mp idle found rfl) new old comes fun id => ?_
  rw [breaks, or_iff_left (by simp)]
  exact serves_called (by simp) (by rw [absent]; rfl) new old

theorem invalidate_inTurn (inTurn : s.InTurn c kept) (idle : s.isIdle c) {other : Nat}
    {alwaysAbort : Bool} (present : s.hasController c)
    (admitted : s.admits c (.invalidate other alwaysAbort)) :
    (s.step (.begin c (.invalidate other alwaysAbort))).InTurn c fun id =>
      s.Serves (.begin c (.invalidate other alwaysAbort)) c id ∨
        kept id ∧ (Event.begin c (.invalidate other alwaysAbort)).spares c id := by
  obtain ⟨⟨result, n⟩, ran⟩ : ∃ ran, (Act.invalidate c other alwaysAbort).run s.blank = ran :=
    ⟨_, rfl⟩
  have started : ((Operation.invalidate other alwaysAbort).start c).run s.blank =
      (.ended (.settled result), n) := by
    rw [Operation.start, Act.run_bind, ran]
    rfl
  have stepped : s.step (.begin c (.invalidate other alwaysAbort)) = _ :=
    begin_eq present admitted started
  have absent : s.tasks[s.tasks.length]? = none := List.getElem?_eq_none (Nat.le_refl _)
  have new : (s.step (.begin c (.invalidate other alwaysAbort))).tasks[s.tasks.length]? =
      some ⟨c, .ended (.settled result)⟩ := by
    rw [stepped, List.getElem?_concat_length]
  have old (j : Nat) (apart : j ≠ s.tasks.length) :
      (s.step (.begin c (.invalidate other alwaysAbort))).tasks[j]? = s.tasks[j]? := by
    rw [stepped, getElem?_concat_other _ _ apart]
  have finished {k : Nat} {stage : Stage}
      (found : (s.step (.begin c (.invalidate other alwaysAbort))).tasks[k]? = some ⟨c, stage⟩) :
      stage.isOver := by
    by_cases last : k = s.tasks.length
    · subst last
      cases new.symm.trans found
      rfl
    · exact idle_iff.mp idle (old k last ▸ found) rfl
  have unserved (id : Nat) : ¬ s.Serves (.begin c (.invalidate other alwaysAbort)) c id := by
    intro serves
    have unbegun : s.tasks[s.tasks.length]?.map (·.stage) = none := congrArg (Option.map _) absent
    obtain ⟨ending, same, served⟩ := (serves_called (by simp) unbegun new old).mp serves
    cases same
    cases served
  constructor
  case alone =>
    intro j k left right first second going
    rw [finished first] at going
    cases going
  case busy =>
    intro k stage found going
    rw [finished found] at going
    cases going
  case idle =>
    intro _ id
    have emptied := invalidate_stocks other alwaysAbort (present_known present) (n := s.blank) rfl
    rw [ran] at emptied
    rw [or_iff_right (unserved id), ← inTurn.idle idle, stepped, Stocked, show _ = _ from emptied,
      Stocked]
    change ((if (s.network.controller c).slot.map (·.channel) = some other then none
      else (s.network.controller c).slot.map (·.channel)) = some id) ↔ _
    split
    next held => simp [held, Event.spares]
    next free =>
      have kept (same : (s.network.controller c).slot.map (·.channel) = some id) : other ≠ id := by
        rintro rfl
        exact free same
      simpa [Event.spares] using kept

theorem begin_inTurn (inTurn : s.InTurn c kept) (idle : s.isIdle c) {op : Operation}
    (present : s.hasController c) (admitted : s.admits c op) :
    (s.step (.begin c op)).InTurn c fun id =>
      s.Serves (.begin c op) c id ∨ kept id ∧ (Event.begin c op).spares c id := by
  by_cases other : ∃ id alwaysAbort, op = .invalidate id alwaysAbort
  · obtain ⟨id, alwaysAbort, rfl⟩ := other
    exact invalidate_inTurn inTurn idle present admitted
  · obtain ⟨⟨stage, n⟩, ran⟩ : ∃ ran, (op.start c).run s.blank = ran := ⟨_, rfl⟩
    have stepped : s.step (.begin c op) = _ := begin_eq present admitted ran
    have different (id : Nat) (alwaysAbort : Bool) : op ≠ .invalidate id alwaysAbort := fun same =>
      other ⟨id, alwaysAbort, same⟩
    refine begun_inTurn present idle different ran (by rw [stepped]) (by rw [stepped]) fun id => ?_
    cases op with
    | invalidate id alwaysAbort => exact absurd rfl (different id alwaysAbort)
    | _ => simp [Event.spares]

theorem drop_inTurn (idle : s.isIdle c) (present : s.hasController c) :
    (s.step (.drop c)).InTurn c fun id => s.Serves (.drop c) c id ∨
      kept id ∧ (Event.drop c).spares c id := by
  obtain ⟨⟨stage, n⟩, ran⟩ : ∃ ran, (Operation.dispose.start c).run s.blank = ran := ⟨_, rfl⟩
  have begun := begin_eq present rfl ran
  have stepped : s.step (.drop c) =
      { s.begin c .dispose with dropped := c :: (s.begin c .dispose).dropped } :=
    if_pos (Bool.and_eq_true_iff.mpr ⟨present, idle⟩)
  rw [begun] at stepped
  refine begun_inTurn present idle (by simp) ran (by rw [stepped]) (by rw [stepped]) fun id => ?_
  simp [Event.spares]

theorem still_inTurn (inTurn : s.InTurn c kept) (untouched : s.Untouched (s.step e) c)
    (spared : ∀ id, kept id → e.spares c id) :
    (s.step e).InTurn c fun id => s.Serves e c id ∨ kept id ∧ e.spares c id := by
  refine inTurn.untouched untouched fun id => ?_
  rw [or_iff_right (serves_none fun k stage => (untouched.tasks k stage).mp),
    and_iff_left_of_imp (spared id)]

theorem cached_handedOut (sound : Sound s) {id : Nat} (kept : Stocked c (some id) s.network) :
    s.handedOut c id := by
  obtain ⟨_, k, _, _, installed⟩ := sound.standing.cached ((slot_network s c).trans kept)
  exact List.any_eq_true.mpr ⟨_, installed, beq_self_eq_true _⟩

theorem step_inTurn (sound : Sound s) (inTurn : s.InTurn c kept) (awaits : s.Awaits c e) :
    (s.step e).InTurn c fun id => s.Serves e c id ∨ kept id ∧ e.spares c id := by
  by_cases concerns : s.Concerns c e
  · cases concerns with
    | goesOn own found going =>
        refine goesOn_inTurn sound inTurn own ?_ found going
        rintro rfl
        rw [awaits _ (by cases own; exact found)] at going
        cases going
    | begins op =>
        have idle : s.isIdle c := awaits rfl
        by_cases admitted : s.hasController c && s.admits c op
        · obtain ⟨present, admits⟩ := Bool.and_eq_true_iff.mp admitted
          exact begin_inTurn inTurn idle present admits
        · have same : s.step (.begin c op) = s := if_neg admitted
          refine still_inTurn inTurn (by rw [same]; exact untouched_refl s c) fun id holds => ?_
          have stocked := (inTurn.idle idle id).mpr holds
          by_cases present : s.hasController c
          · cases op with
            | invalidate other alwaysAbort =>
                have apart : other ≠ id := by
                  rintro rfl
                  exact admitted
                    (Bool.and_eq_true_iff.mpr ⟨present, cached_handedOut sound stocked⟩)
                simp [Event.spares, apart]
            | _ => exact absurd (Bool.and_eq_true_iff.mpr ⟨present, rfl⟩) admitted
          · exact absurd stocked (absent_vacant sound present id)
    | drops =>
        have idle : s.isIdle c := awaits rfl
        by_cases present : s.hasController c
        · exact drop_inTurn idle present
        · have same : s.step (.drop c) = s :=
            if_neg fun both => present (Bool.and_eq_true_iff.mp both).1
          refine still_inTurn inTurn (by rw [same]; exact untouched_refl s c) fun id holds => ?_
          exact absurd ((inTurn.idle idle id).mpr holds) (absent_vacant sound present id)
  · refine still_inTurn inTurn (step_untouched sound concerns) fun id _ => ?_
    cases e with
    | begin d op =>
        have apart : d ≠ c := by
          rintro rfl
          exact concerns (.begins op)
        cases op <;> simp [Event.spares, apart]
    | drop d =>
        have apart : d ≠ c := by
          rintro rfl
          exact concerns .drops
        simp [Event.spares, apart]
    | newController | resume | suspend | conclude | abandon | outside => rfl

end

theorem start_inTurn (address : String) (c : Nat) :
    (System.start address).InTurn c fun _ => False where
  alone found := by simp [System.start] at found
  busy found := by simp [System.start] at found
  idle _ id := by
    rw [Stocked, ← slot_network]
    simp [System.ledger, System.start, Network.start, Ledger.slot?]

theorem run_inTurn {address : String} {c : Nat} {events : List Event}
    (sequential : Sequential address c events) :
    (run address events).InTurn c (Retained address c events) := by
  induction events using List.reverseRecOn with
  | nil =>
      have nothing : Retained address c [] = fun _ => False := by
        funext id
        simp [Retained]
      rw [nothing]
      exact start_inTurn address c
  | append_singleton events e ih =>
      have next :=
        step_inTurn (run_sound address events) (ih sequential.before) (sequential events e [] rfl)
      have kept : Retained address c (events ++ [e]) = fun id =>
          (run address events).Serves e c id ∨ Retained address c events id ∧ e.spares c id :=
        funext fun id => propext retained_snoc
      rw [run_snoc, kept]
      exact next

end RemoteClient.Interleaving
