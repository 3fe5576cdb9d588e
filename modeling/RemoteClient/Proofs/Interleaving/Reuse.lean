import RemoteClient.Proofs.Interleaving.Sequences
import RemoteClient.Proofs.Interleaving.Tallies

/-!
What acquires give that come one after another. A channel that was kept and can still be used is
given once more, and nothing happens to it. Any other acquire that succeeds gives a channel it has
opened itself, and a channel that has left the slot is never given again.
-/

namespace RemoteClient.Interleaving

/-! ## A channel that has left the slot -/

namespace Ledger

def lodgings (l : Ledger) (c id : Nat) : Nat := (installs l.history).count (c, id)

end Ledger

/-- A channel gets into the slot only where it is put there. -/
structure Refills (c id : Nat) (l after : Ledger) : Prop where
  counted : l.lodgings c id ≤ after.lodgings c id
  slot : after.slot? c = some id → l.slot? c = some id ∨ l.lodgings c id < after.lodgings c id

section

variable {c id : Nat}

theorem Refills.trans {l middle after : Ledger} (first : Refills c id l middle)
    (second : Refills c id middle after) : Refills c id l after where
  counted := Nat.le_trans first.counted second.counted
  slot kept := by
    rcases second.slot kept with before | more
    · exact (first.slot before).imp_right fun less => Nat.lt_of_lt_of_le less second.counted
    · exact .inr (Nat.lt_of_le_of_lt first.counted more)

theorem move_refills {actor : Actor} {before after : Ledger × Hand}
    (move : Move actor before after) (c id : Nat) :
    Refills c id before.1 after.1 where
  counted := by
    obtain ⟨_, _, deeds, added, _⟩ := move_adds move
    rw [Ledger.lodgings, Ledger.lodgings, added, installs, installs, List.filterMap_append,
      List.count_append]
    exact Nat.le_add_left _ _
  slot kept := by
    cases move with
    | found l => exact .inl ((Ledger.slot_found l c).symm.trans kept)
    | install d k l fresh generation free =>
        have known : d < l.slots.length := (List.getElem?_eq_some_iff.mp free).1
        rw [Ledger.slot_add] at kept
        by_cases same : c = d
        · subst same
          rw [Ledger.slot_put_same _ _ _ known] at kept
          cases kept
          exact .inr (by simp [Ledger.lodgings, Ledger.put, installs_cons, Deed.installed?])
        · rw [Ledger.slot_put_other _ _ same] at kept
          exact .inl kept
    | remove d k l held generation cached =>
        have known : d < l.slots.length := (List.getElem?_eq_some_iff.mp cached).1
        rw [Ledger.slot_add] at kept
        by_cases same : c = d
        · subst same
          rw [Ledger.slot_put_same _ _ _ known] at kept
          cases kept
        · rw [Ledger.slot_put_other _ _ same] at kept
          exact .inl kept
    | _ => exact .inl kept

theorem run_refills (address : String) (events later : List Event) (c id : Nat) :
    Refills c id (run address events).ledger (run address (events ++ later)).ledger := by
  induction later using List.reverseRecOn with
  | nil =>
      rw [List.append_nil]
      exact ⟨Nat.le_refl _, .inl⟩
  | append_singleton later e ih =>
      rw [← List.append_assoc, run_snoc]
      obtain ⟨actor, hand, moves, _⟩ := (step_follows (run_sound address (events ++ later)) e).moves
      have refills {before after : Ledger × Hand} (moves : Moves actor before after) :
          Refills c id before.1 after.1 := by
        induction moves with
        | refl => exact ⟨Nat.le_refl _, .inl⟩
        | tail _ move ih => exact ih.trans (move_refills move c id)
      exact ih.trans (refills moves)

variable {address : String} {first second : List Event}

/-- Nobody puts a channel into a slot twice, so one that has left it does not come back. -/
theorem gone_stays (kept : Keeps (run address first).network c id)
    (gone : ¬ Keeps (run address (first ++ second)).network c id) (third : List Event) :
    ¬ Keeps (run address (first ++ second ++ third)).network c id := by
  intro back
  have sound := run_sound address (first ++ second ++ third)
  rcases (run_refills address (first ++ second) third c id).slot ((slot_network ..).trans back) with
    still | again
  · exact gone ((slot_network ..).symm.trans still)
  · obtain ⟨_, k, _, _, installed⟩ :=
      (run_sound address first).standing.cached ((slot_network ..).trans kept)
    have once : 0 < (run address first).ledger.lodgings c id :=
      List.count_pos_iff.mpr (mem_installs.mpr ⟨_, installed⟩)
    have most : (run address (first ++ second ++ third)).ledger.lodgings c id ≤ 1 :=
      Nat.le_trans (List.count_le_count_map (f := Prod.snd) ..)
        (List.nodup_iff_count_le_one.mp sound.standing.installed_once id)
    have since := (run_refills address first second c id).counted
    omega

end

/-! ## The channel that a call gives -/

section

variable {met : Meets} {c id : Nat} {deeds : List Deed}

theorem Obtains.given (obtains : Obtains met c (.ok id) deeds) : met.usable id ∨ met.rival id ∨
    deeds = [.installed c id, .opened (.ofEndpoint id), .created id] := by
  cases obtains with
  | reused seen => exact .inl seen
  | won => exact .inr (.inr rfl)
  | lost seen => exact .inr (.inl seen)

theorem Attains.given {stage : Stage} (attains : Attains met c stage deeds)
    (chosen : stage.chosen? = some id) :
    met.usable id ∨ met.rival id ∨ ∃ guard armed, Guards c id armed guard ∧
      deeds = guard ++ [.installed c id, .opened (.ofEndpoint id), .created id] := by
  cases attains with
  | acquiring seen | entering seen => exact .inr (.inl (seen id chosen))
  | @acquired result _ obtains =>
      cases result with
      | error => cases chosen
      | ok =>
          cases chosen
          exact obtains.given.imp_right (.imp_right fun same => ⟨[], true, .armed, same⟩)
  | operating _ guards obtains =>
      cases chosen
      exact obtains.given.imp_right (.imp_right fun same => ⟨_, _, guards, by rw [same]⟩)
  | refused | operated | interrupted | abandoned => cases chosen

end

def Ledger.Made (l : Ledger) (c id : Nat) : Prop := ∃ k, l.Did (.call c k) (.created id)

theorem kept_made {s : System} (sound : Sound s) {c id : Nat} (kept : Keeps s.network c id) :
    s.ledger.Made c id := by
  obtain ⟨_, k, made, _⟩ := sound.standing.cached ((slot_network s c).trans kept)
  exact ⟨k, made⟩

namespace Career

variable {t : Career} {events : List Event} {stage : Stage} {id : Nat}

/-- The call has made the channel, opened it and put it into the slot, once each. -/
def Puts (t : Career) (events : List Event) (id : Nat) : Prop :=
  ∃ guard armed stale, t.done events = guard ++
      [.installed t.controller id, .opened (.ofEndpoint id), .created id] ++ stale ∧
    Guards t.controller id armed guard ∧ Clears t.found.blank t.controller stale

theorem given (stands : t.At events stage) (chosen : stage.chosen? = some id) :
    Reuses t.found.blank t.controller id ∨ t.Beaten events id ∨ t.Puts events id := by
  by_cases acquires : t.op.acquires
  · obtain ⟨_, same, own, stale, done, clears, attains⟩ := acquire_account acquires events
    cases same.symm.trans stands
    refine (attains.given chosen).imp_right (.imp_right fun ⟨guard, armed, guards, own⟩ => ?_)
    exact ⟨guard, armed, stale, by rw [done, own], guards, clears⟩
  · rw [(brings_down stands acquires).2.2] at chosen
    cases chosen

theorem Puts.made (puts : t.Puts events id) : .created id ∈ t.done events := by
  obtain ⟨guard, armed, stale, done, _⟩ := puts
  rw [done]
  simp

theorem Puts.filled (puts : t.Puts events id) : (t.done events).countP Deed.fills = 1 := by
  obtain ⟨guard, armed, stale, done, guards, clears⟩ := puts
  rw [done, List.countP_append, List.countP_append, down_fills guards.down, down_fills clears.down]
  rfl

theorem Beaten.made (beaten : t.Beaten events id) :
    (t.after events).ledger.Made t.controller id := by
  obtain ⟨first, rest, _, _, _, rfl, _, _, kept⟩ := beaten
  obtain ⟨k, made⟩ := kept_made (run_sound ..) kept
  have past : t.past (first ++ .resume t.call :: rest) =
      t.past first ++ .resume t.call :: rest := by
    simp [Career.past]
  rw [after, past]
  exact ⟨k, run_records made _⟩

theorem chosen_made {address : String} {events : List Event} {c k : Nat}
    (found : (run address events).tasks[k]? = some ⟨c, stage⟩) (gives : stage.chosen? = some id) :
    (run address events).ledger.Made c id := by
  obtain ⟨t, later, rfl, rfl, rfl, stands, done, rfl | ⟨disposes, _⟩⟩ := traced found
  · rcases given stands gives with reuses | beaten | puts
    · obtain ⟨k, made⟩ := kept_made (run_sound ..) reuses.1
      exact ⟨k, recorded made later⟩
    · exact beaten.made
    · exact ⟨t.call, mem_doneBy.mp puts.made⟩
  · have other : ¬ t.op.acquires := by
      rw [disposes]
      exact fun acquires => nomatch acquires
    rw [(brings_down stands other).2.2] at gives
    cases gives

theorem opened_own {address : String} {events : List Event} {c k : Nat}
    (did : .opened (.ofEndpoint id) ∈ (run address events).doneBy c k) :
    .created id ∈ (run address events).doneBy c k := by
  have known : ∃ stage, (run address events).tasks[k]? = some ⟨c, stage⟩ := by
    by_contra absent
    rw [run_unborn address events c k fun stage found => absent ⟨stage, found⟩] at did
    cases did
  obtain ⟨stage, known⟩ := known
  obtain ⟨t, later, rfl, rfl, rfl, stands, done, -⟩ := traced known
  rw [← done] at did ⊢
  by_cases acquires : t.op.acquires
  · obtain ⟨_, _, own, stale, done, clears, attains⟩ := acquire_account acquires later
    rw [done] at did ⊢
    rcases List.mem_append.mp did with mine | others
    · exact List.mem_append_left _ (attains.works_own mine (by simp [Deed.works]))
    · cases clears.down _ others
  · cases (brings_down stands acquires).1 _ did

theorem never_gives_gone {first second rest : List Event}
    (earlier : t.earlier = first ++ second ++ rest)
    (kept : Keeps (run t.address first).network t.controller id)
    (gone : ¬ Keeps (run t.address (first ++ second)).network t.controller id)
    (stands : t.At events stage) :
    stage.chosen? ≠ some id := by
  intro chosen
  rcases given stands chosen with reuses | ⟨before, after, _, _, _, rfl, _, _, back⟩ | puts
  · refine gone_stays kept gone rest ?_
    rw [← earlier]
    exact reuses.1
  · refine gone_stays kept gone (rest ++ .begin t.controller t.op :: before) ?_
    rw [← List.append_assoc, ← earlier]
    exact back
  · obtain ⟨k, made⟩ := kept_made (run_sound ..) kept
    have early : ⟨.call t.controller k, .created id⟩ ∈ t.found.history := by
      rw [found, earlier, List.append_assoc]
      exact run_records made _
    exact unmade puts.made early

/-! ## One call after another -/

def IsLast (t : Career) (events : List Event) : Prop :=
  ∀ k left, (t.after events).tasks[k]? = some ⟨t.controller, left⟩ → k ≤ t.call

/-- An acquire gives the channel and changes nothing, whether it may wait or not. A call that is
nothing but an acquire is over at once. -/
structure Repeats (t : Career) (id : Nat) : Prop where
  acquire : (Act.acquire t.controller).run t.found.blank = (.ok id, t.found.blank)
  startAcquire : (Act.startAcquire t.controller).run t.found.blank = (.done (.ok id), t.found.blank)
  finished : t.op = .acquire ∨ t.op = .acquireAsync → t.after [] = { t.found with
    network := t.found.blank, tasks :=
      t.found.tasks ++ [⟨t.controller, .ended (.acquired (.ok id))⟩] }

/-- The channel is a new one, which the call has opened itself. -/
structure Replaces (t : Career) (events : List Event) (id : Nat) : Prop where
  puts : t.Puts events id
  opens : ∀ c k, .opened (.ofEndpoint id) ∈ (t.after events).doneBy c k →
    Actor.call c k = .call t.controller t.call
  unseen : ∀ first rest k, t.earlier = first ++ rest → (run t.address first).chosen? k ≠ some id
  counted : t.IsLast events → ((t.after events).network.controller t.controller).generation =
    (t.found.network.controller t.controller).generation + 1

theorem Repeats.of_reuses (reuses : Reuses t.found.blank t.controller id) : t.Repeats id where
  acquire := run_acquire_reuse reuses
  startAcquire := run_startAcquire_reuse reuses
  finished plain := by
    have ran : (t.op.start t.controller).run t.found.blank =
        (.ended (.acquired (.ok id)), t.found.blank) := by
      rcases plain with same | same <;> rw [same, Operation.start, Act.run_bind]
      · rw [run_acquire_reuse reuses]
        rfl
      · rw [run_startAcquire_reuse reuses]
        rfl
    exact t.after_begun.trans (begin_eq t.present t.admitted ran)

theorem doneBy_before (idle : t.found.isIdle t.controller) {k : Nat} (before : k < t.call)
    (events : List Event) :
    (t.after events).doneBy t.controller k = t.found.doneBy t.controller k := by
  obtain ⟨⟨d, stage⟩, known⟩ : ∃ task, t.found.tasks[k]? = some task :=
    ⟨_, List.getElem?_eq_getElem before⟩
  by_cases here : d = t.controller
  · subst here
    have finished := idle_iff.mp idle known rfl
    obtain ⟨ending, rfl⟩ : ∃ ending, stage = .ended ending := by
      cases stage <;> first | exact ⟨_, rfl⟩ | cases finished
    exact (run_ended known _).done t.controller
  · obtain ⟨left, still⟩ := run_keeps known (.begin t.controller t.op :: events)
    have nothing {s : System} {stage : Stage} (unborn : Unborn s)
      (found : s.tasks[k]? = some ⟨d, stage⟩) :
        s.doneBy t.controller k = [] := by
      refine unborn t.controller k fun other same => ?_
      cases found.symm.trans same
      exact here rfl
    exact (nothing (run_unborn _ _) still).trans (nothing (run_unborn _ _) known).symm

theorem generation_grows (idle : t.found.isIdle t.controller) (last : t.IsLast events) :
    ((t.after events).network.controller t.controller).generation =
      (t.found.network.controller t.controller).generation + (t.done events).countP Deed.fills := by
  have before (k : Nat) (stage : Stage) (known : t.found.tasks[k]? = some ⟨t.controller, stage⟩) :
      k < t.call :=
    (List.getElem?_eq_some_iff.mp known).1
  have upto (k : Nat) (stage : Stage)
    (known : (t.after events).tasks[k]? = some ⟨t.controller, stage⟩) :
      k < t.call + 1 := Nat.lt_succ_of_le (last k stage known)
  have born : Unborn t.found := run_unborn _ _
  have after : Unborn (t.after events) := run_unborn _ _
  rw [generation_filled (s := t.found) (run_sound ..), generation_filled (s := t.after events)
    (run_sound ..), count_deeds born before, count_deeds after upto, total]
  congr 1
  refine total_congr fun k inside => ?_
  rw [doneBy_before idle inside]

variable (sequential : Sequential t.address t.controller (t.past events))
include sequential

theorem found_idle : t.found.isIdle t.controller :=
  sequential t.earlier (.begin t.controller t.op) events rfl rfl

theorem unbeaten (id : Nat) : ¬ t.Beaten events id := by
  rintro ⟨first, rest, stage, fresh, h, rfl, stands, opening, kept⟩
  have split : t.past (first ++ .resume t.call :: rest) =
      t.past first ++ .resume t.call :: rest := by
    simp [Career.past]
  have inTurn := run_inTurn (split ▸ sequential).before
  cases opening with
  | acquiring | entering =>
      obtain ⟨empty, _⟩ := inTurn.busy stands rfl
      exact absurd kept (vacant_unkept (Stocked.vacant empty) id)

theorem seen_through : ¬ t.GivenUp events := by
  rintro ⟨first, rest, stage, rfl, stands, going⟩
  have split : t.past (first ++ .abandon t.call :: rest) =
      t.past first ++ .abandon t.call :: rest := by
    simp [Career.past]
  have finished : stage.isOver :=
    sequential (t.past first) (.abandon t.call) rest split stage stands
  rw [finished] at going
  cases going

/-- A channel that was kept, and has not failed since, can be used. -/
theorem repeats (retained : Retained t.address t.controller t.earlier id)
    (unfaulted : (t.found.network.channel (.ofEndpoint id)).state ≠ .faulted)
    (unclosed : (t.found.network.channel (.ofEndpoint id)).state ≠ .closed) : t.Repeats id := by
  refine .of_reuses
    ⟨((run_inTurn sequential.before).idle (found_idle sequential) id).mpr retained, ?_⟩
  by_contra useless
  exact (stale_cases useless).elim unfaulted unclosed

theorem replaces (useless : ∀ id, Retained t.address t.controller t.earlier id →
      (t.found.network.channel (.ofEndpoint id)).state = .faulted ∨
        (t.found.network.channel (.ofEndpoint id)).state = .closed)
    (stands : t.At events stage) (chosen : stage.chosen? = some id) : t.Replaces events id := by
  have puts : t.Puts events id := by
    rcases given stands chosen with ⟨kept, usable⟩ | beaten | puts
    · have retained := ((run_inTurn sequential.before).idle (found_idle sequential) id).mp kept
      change (t.found.network.channel (.ofEndpoint id)).state.isUsable at usable
      rcases useless id retained with faulted | closed
      · rw [faulted] at usable
        cases usable
      · rw [closed] at usable
        cases usable
    · exact absurd beaten (unbeaten sequential id)
    · exact puts
  refine ⟨puts, fun c k opened => ?_, fun first rest k split => ?_, fun last => ?_⟩
  · have sound : Sound (t.after events) := run_sound ..
    exact sound.standing.created_once (mem_doneBy.mp (opened_own opened)) (mem_doneBy.mp puts.made)
  · intro before
    obtain ⟨⟨c, stage⟩, known, gives⟩ := Option.bind_eq_some_iff.mp before
    obtain ⟨j, made⟩ := chosen_made known gives
    have early : ⟨.call c j, .created id⟩ ∈ t.found.history := by
      rw [found, split]
      exact run_records made rest
    exact unmade puts.made early
  · rw [generation_grows (found_idle sequential) last, puts.filled]

end Career

/-- Every channel that was made on the controller was put into its slot, or could not be opened. -/
theorem created_tallied {address : String} {c : Nat} {events : List Event}
    (sequential : Sequential address c events) (idle : (run address events).isIdle c) :
    ((run address events).deedsOn c).countP Deed.creates =
      ((run address events).network.controller c).generation + (run address events).failures c := by
  have inside (k : Nat) (stage : Stage) (known : (run address events).tasks[k]? = some ⟨c, stage⟩) :
      k < (run address events).tasks.length := (List.getElem?_eq_some_iff.mp known).1
  rw [generation_filled (run_sound ..), System.failures, count_tasks,
    count_deeds (run_unborn _ _) inside, count_deeds (run_unborn _ _) inside, ← total_add]
  refine total_congr fun k member => ?_
  obtain ⟨⟨d, stage⟩, known⟩ : ∃ task, (run address events).tasks[k]? = some task :=
    ⟨_, List.getElem?_eq_getElem member⟩
  rw [known]
  by_cases here : d = c
  · subst here
    have finished := idle_iff.mp idle known rfl
    have balances :
        Balances ((run address events).doneBy d k) (if stage.acquireError?.isSome then 1
          else 0) := by
      obtain ⟨t, later, rfl, rfl, rfl, stands, done, rfl | ⟨disposes, _⟩⟩ := Career.traced known
      · exact Career.balances stands finished (Career.unbeaten sequential)
          (Career.seen_through sequential)
      · have other : ¬ t.op.acquires := by
          rw [disposes]
          exact fun acquires => nomatch acquires
        obtain ⟨down, errs, _⟩ := Career.brings_down stands other
        rw [← done, errs]
        exact balances_down down
    simpa [Balances] using balances
  · rw [run_unborn address events c k fun other same => here (by cases known.symm.trans same; rfl)]
    simp [here]

/-- Of calls on a controller that come one after another, an acquire gives the channel that the last
one has kept, and nothing happens, if that has not failed since. Any other one that succeeds gives a
new channel. -/
theorem acquires_reuse_or_replace {address : String} {c : Nat} {events : List Event}
    (sequential : Sequential address c events) :
    (∀ (t : Career) (later : List Event), t.address = address → t.controller = c →
      t.past later = events →
      t.op.acquires →
      (∀ id, Retained address c t.earlier id →
        (t.found.network.channel (.ofEndpoint id)).state ≠ .faulted →
        (t.found.network.channel (.ofEndpoint id)).state ≠ .closed → t.Repeats id) ∧
      ((∀ id, Retained address c t.earlier id →
          (t.found.network.channel (.ofEndpoint id)).state = .faulted ∨
            (t.found.network.channel (.ofEndpoint id)).state = .closed) →
        ∀ stage id, t.At later stage → stage.chosen? = some id → t.Replaces later id) ∧
      ∀ first second rest stage id, t.earlier = first ++ second ++ rest →
        Keeps (run address first).network c id →
          ¬ Keeps (run address (first ++ second)).network c id →
        t.At later stage → stage.chosen? ≠ some id) ∧
    ((run address events).isIdle c → ((run address events).deedsOn c).countP Deed.creates =
      ((run address events).network.controller c).generation +
        (run address events).failures c) := by
  refine ⟨?_, created_tallied sequential⟩
  rintro t later rfl rfl rfl -
  refine ⟨fun id => Career.repeats sequential,
    fun useless stage id => Career.replaces sequential useless, ?_⟩
  exact fun first second rest stage id => Career.never_gives_gone

namespace Career

/-- The channel of the first acquire faults, the second one cannot open its own, and the third one
waits. -/
def renewal : Career where
  address := "mem://a"
  earlier := [.newController, .begin 0 .acquire, .outside (.force (.ofEndpoint 1) .faulted),
    .outside (.failNextOpen (.timeout "slow")), .begin 0 .acquire]
  controller := 0
  op := .acquireAsync
  present := by decide
  admitted := rfl

def again : Career where
  address := "mem://a"
  earlier := renewal.past [.resume 2]
  controller := 0
  op := .acquire
  present := by decide
  admitted := rfl

theorem again_retained : Retained "mem://a" 0 again.earlier 3 := by
  refine ⟨renewal.past [], .resume 2, [], rfl,
    ⟨2, .acquired (.ok 3), fun task waits => ?_, rfl, rfl⟩, by simp⟩
  cases waits
  rfl

theorem renewal_replaces_again_repeats : Sequential "mem://a" 0 (again.past []) ∧
    renewal.Replaces [.resume 2] 3 ∧ again.Repeats 3 ∧
    ((run "mem://a" (again.past [])).deedsOn 0).countP Deed.creates =
      ((run "mem://a" (again.past [])).network.controller 0).generation +
        (run "mem://a" (again.past [])).failures 0 := by
  have sequential : Sequential "mem://a" 0 (again.past []) := by decide
  obtain ⟨acquires, tally⟩ := acquires_reuse_or_replace sequential
  obtain ⟨sooner, _⟩ := acquires_reuse_or_replace sequential.before
  refine ⟨sequential, ?_, ?_, tally (by decide)⟩
  · refine (sooner renewal [.resume 2] rfl rfl rfl rfl).2.1 (fun id retained => ?_) _ 3 rfl rfl
    have before : Sequential "mem://a" 0 renewal.earlier := by decide
    cases ((run_inTurn before).idle (by decide) id).mpr retained
  · exact (acquires again [] rfl rfl rfl rfl).1 3 again_retained (by decide) (by decide)

end Career

end RemoteClient.Interleaving
