import RemoteClient.Proofs.Agreement.Twins
import RemoteClient.Proofs.Interleaving.Firing

namespace RemoteClient

namespace Invocation

theorem finish_token (c id : Nat) (token : Option String) (succeeded : Bool) :
    (start c id token).finish succeeded = (start c id none).finish succeeded := by
  cases succeeded <;> rfl

end Invocation

namespace Scenario

namespace Step

mutual

/-- Whether the step never waits, cancels nothing and begins no task. -/
def blocks : Step → Bool
  | .channelWait _ _ | .controllerWait _ _ | .sleep _ | .cancel _ | .spawn _ _ | .dropTask _
  | .within _ _ => false
  | .invoke _ form body _ => form = .blocking && allBlock body
  | .failNextOpen _ | .failCloses _ | .delayHandshakes _ | .create | .address | .channel _ _
  | .controller _ _ | .newController => true

def allBlock : List Step → Bool
  | [] => true
  | step :: rest => step.blocks && allBlock rest

end

end Step

namespace Play

def prepare (c : Nat) : Play (Except Channel.Error Nat) := do
  hold c
  let acquired ← Act.acquire c
  let _ ← Act.stamp
  return acquired

end Play

namespace Step

mutual

/-- Whether the step, run from this world, forces no state on a channel that was aborted. -/
def sparesAborted (here : Option Nat) : Step → World → Bool
  | .channel target (.force _), w =>
    match ((Play.resolve here target).run w).1 with
    | some ref => !(w.network.channel ref).aborted
    | none => true
  | .invoke c _ body _, w =>
    if ((Play.hasController c).run w).1 then
      match (Play.prepare c).run w with
      | (.ok id, w) => allSpareAborted id body w
      | (.error _, _) => true
    else true
  | _, _ => true

def allSpareAborted (id : Nat) : List Step → World → Bool
  | [], _ => true
  | step :: rest, w =>
    step.sparesAborted (some id) w &&
      match (step.start (some id)).run w with
      | (.done outcome, w) =>
        isUnwinding outcome ||
          allSpareAborted id rest ((Play.report (.step step.name outcome)).run w).2
      | (.pending _, _) => true

end

end Step

/-- On these two worlds both computations are over at once, with the same outcome. -/
def Settles {S : Type} (p q : Play (Progress S Outcome)) (w v : World) : Prop :=
  ∃ outcome u t, p.run w = (.done outcome, u) ∧ q.run v = (.done outcome, t) ∧ Twins u t

section

variable {α S : Type} {w v u t : World}

theorem settles_done (twins : Twins w v) (outcome : Outcome) :
    Settles (pure (.done outcome) : Play (Progress S Outcome)) (pure (.done outcome)) w v :=
  ⟨outcome, w, v, rfl, rfl, twins⟩

theorem settles_run {p q : Play α} {f g : α → Play (Progress S Outcome)} {a : α}
    (left : p.run w = (a, u)) (right : q.run v = (a, t)) (rest : Settles (f a) (g a) u t) :
    Settles (p >>= f) (q >>= g) w v := by
  obtain ⟨outcome, u', t', ran, ran', twins⟩ := rest
  refine ⟨outcome, u', t', ?_, ?_, twins⟩
  · rw [Play.run_bind, left, ran]
  · rw [Play.run_bind, right, ran']

theorem settles_after {p : Play α} {f g : α → Play (Progress S Outcome)} (steady : p.Steady)
    (twins : Twins w v) (rest : Twins (p.run w).2 (p.run v).2 →
      Settles (f (p.run w).1) (g (p.run w).1) (p.run w).2 (p.run v).2) :
    Settles (p >>= f) (p >>= g) w v := by
  obtain ⟨same, after⟩ := steady w v twins
  have left : p.run w = ((p.run w).1, (p.run w).2) := rfl
  have right : p.run v = ((p.run w).1, (p.run v).2) := Prod.ext same.symm rfl
  exact settles_run left right (rest after)

theorem settles_bind {p : Play α} {f g : α → Play (Progress S Outcome)} (steady : p.Steady)
    (twins : Twins w v) (rest : ∀ a u t, Twins u t → Settles (f a) (g a) u t) :
    Settles (p >>= f) (p >>= g) w v :=
  settles_after steady twins (rest _ _ _)

theorem settles_finished {p : Play Outcome} (steady : p.Steady) (twins : Twins w v) :
    Settles (do Play.finished (← p)) (do Play.finished (← p)) w v :=
  settles_bind steady twins fun outcome _ _ after => settles_done after outcome

theorem settles_endUse (twins : Twins w v) (c : Nat) (outcome : Outcome) :
    Settles (Play.endUse c outcome) (Play.endUse c outcome) w v :=
  settles_bind (Play.steady_release c) twins fun _ _ _ after => settles_done after outcome

theorem settles_conclude (twins : Twins w v) (c id : Nat) (token : Option String) (ending : Ending)
    (last : Outcome) : Settles (Play.conclude (.start c id none) ending last)
      (Play.conclude (.start c id token) ending last) w v := by
  have finishes (succeeded : Bool) :
      Play.Steady (Play.onNetwork ((Invocation.start c id none).finish succeeded)) :=
    Play.steady_onNetwork (Invocation.timeless_finish _ _) (Network.tidy_calling.within_finish _ _)
  unfold Play.conclude
  dsimp only
  rw [Invocation.finish_token c id token]
  exact settles_bind (finishes _) twins fun _ _ _ after => settles_endUse after c _

def stamped (w : World) : World := { w with network.waits := w.network.waits + 1 }

theorem stamped_twins (twins : Twins w v) : Twins (stamped w) (stamped v) := by
  have alike : (stamped w).network.Alike (stamped v).network :=
    ⟨twins.network.endpoint, twins.network.standalone, twins.network.controllers,
      twins.network.cancelled⟩
  exact twins.networks alike
    (Network.tidy_lasting.stamp _ twins.tidy) w.main v.main w.mainReady v.mainReady

theorem run_heed (tidy : w.network.Tidy) (c id : Nat) (token : Option String) :
    (Play.onNetwork (Invocation.start c id token).heed).run w = (.start c id token, w) := by
  have calm : (Invocation.start c id token).heed.run w.network = (.start c id token, w.network) :=
    Interleaving.heed_calm _ _ fun token _ => by simp [tidy.uncancelled]
  rw [Play.run_onNetwork, calm]

theorem run_enter (tidy : w.network.Tidy) (c id : Nat) (token : Option String) (body : List Step)
    (ending : Ending) {run : Nat → Play (Progress Halt Outcome)} {last : Outcome}
    (ran : (run id).run (stamped w) = (.done last, u)) :
    (Play.enter c token body ending run (.done (.ok id))).run w =
      (Play.conclude (.start c id token) ending last).run u := by
  change (do
    let i ← Play.onNetwork (Invocation.start c id token).heed
    Play.settleBody i w.network.waits ending (← run id)).run (stamped w) = _
  rw [Play.run_bind, run_heed (Network.tidy_lasting.stamp _ tidy)]
  dsimp only
  rw [Play.run_bind, ran]
  rfl

theorem settles_enter (twins : Twins w v) (c : Nat) (token : Option String) (body : List Step)
    (ending : Ending) {run : Nat → Play (Progress Halt Outcome)}
    (acquired : Except Channel.Error Nat)
    (runs : ∀ id, acquired = .ok id → ∀ t, Twins (stamped w) t →
      Settles (run id) (run id) (stamped w) t) :
    Settles (Play.enter c none body ending run (.done acquired))
      (Play.enter c token body ending run (.done acquired)) w v := by
  cases acquired with
  | error e => exact settles_endUse twins c _
  | ok id =>
      obtain ⟨last, u, t, ran, ran', after⟩ := runs id rfl _ (stamped_twins twins)
      obtain ⟨outcome, u', t', ended, ended', last⟩ := settles_conclude after c id token ending last
      refine ⟨outcome, u', t', ?_, ?_, last⟩
      · rw [run_enter twins.tidy c id none body ending ran, ended]
      · rw [run_enter twins.symm.tidy c id token body ending ran', ended']

theorem settles_contain {p q : Play (Progress Suspended Outcome)} (settles : Settles p q w v) :
    Settles (do return CallForm.blocking.settle (← p))
      (do return CallForm.blocking.settle (← q)) w v := by
  obtain ⟨outcome, u, t, ran, ran', twins⟩ := settles
  exact settles_run ran ran' (settles_done twins (contain outcome))

theorem settles_force (twins : Twins w v) (ref : ChannelRef) (state : Channel.State)
    (unaborted : (w.network.channel ref).aborted = false) :
    Settles (do Play.finished (← Play.actOnChannel ref (.force state)))
      (do Play.finished (← Play.actOnChannel ref (.force state))) w v := by
  obtain ⟨_, alike⟩ := Act.timeless_force ref state w.network v.network twins.network
  have tidy : ((Act.force ref state).run w.network).2.Tidy := by
    have noted := Network.tidy_lasting.note w.network (.trace "MEM" ("channel " ++
      toString (w.network.channel ref).id ++ " forced to " ++ state.name)) twins.tidy
    have named : ((w.network.channel ref).force state).id = ref.id := w.network.channel_id ref
    apply noted.putChannel named
    intro aborted
    exact absurd aborted (by simp [Channel.force, unaborted])
  have after := twins.networks alike tidy w.main v.main w.mainReady v.mainReady
  exact settles_run rfl rfl (settles_done after (.ok .nothing))

theorem spares_body {here : Option Nat} {c id : Nat} {form : CallForm} {body : List Step}
    {ending : Ending} (kept : ((Play.hasController c).run w).1 = true)
    (reached : ((Play.prepare c).run w).1 = .ok id)
    (spares : (Step.invoke c form body ending).sparesAborted here w) :
    Step.allSpareAborted id body ((Play.prepare c).run w).2 := by
  have prepared : (Play.prepare c).run w = (.ok id, ((Play.prepare c).run w).2) :=
    Prod.ext reached rfl
  rw [Step.sparesAborted, if_pos kept, prepared] at spares
  exact spares

mutual

theorem start_settles (here : Option Nat) (step : Step) (blocks : step.blocks) (w v : World)
    (twins : Twins w v) (spares : step.sparesAborted here w) :
    Settles (step.start here) (step.start here) w v := by
  cases step with
  | failNextOpen e =>
      have sets : Play.Steady (Play.onNetwork (Act.failNextOpen e)) :=
        Play.steady_pending (fun faults => { faults with openError := some e }) fun _ => rfl
      exact settles_bind sets twins fun _ _ _ after => settles_done after _
  | failCloses e =>
      have sets : Play.Steady (Play.onNetwork (Act.failCloses e)) :=
        Play.steady_pending (fun faults => { faults with closeError := some e }) fun _ => rfl
      exact settles_bind sets twins fun _ _ _ after => settles_done after _
  | delayHandshakes latency =>
      have sets : Play.Steady (Play.onNetwork (Act.delayHandshakes latency)) :=
        Play.steady_pending (fun faults => { faults with latency := latency }) fun _ => rfl
      exact settles_bind sets twins fun _ _ _ after => settles_done after _
  | create => exact settles_bind Play.steady_create twins fun _ _ _ after => settles_done after _
  | address =>
      refine ⟨.ok (.text w.network.endpoint.address), w, v, rfl, ?_, twins⟩
      rw [twins.network.endpoint]
      rfl
  | channel target action =>
      rw [Step.start]
      by_cases forces : ∃ state, action = .force state
      · obtain ⟨state, rfl⟩ := forces
        apply settles_after (Play.steady_resolve here target) twins
        intro after
        cases found : ((Play.resolve here target).run w).1 with
        | none => exact settles_done after _
        | some ref =>
            have unaborted : (w.network.channel ref).aborted = false := by
              simpa [Step.sparesAborted, found] using spares
            rw [← Play.resolve_channel here target w ref] at unaborted
            exact settles_force after ref state unaborted
      · apply settles_bind (Play.steady_resolve here target) twins
        intro found u t after
        cases found with
        | none => exact settles_done after _
        | some ref =>
            exact settles_finished
              (Play.steady_actOnChannel ref fun state is => forces ⟨state, is⟩) after
  | channelWait => cases blocks
  | controller c action => 
      have acts (action : ControllerAction) {u t : World} (after : Twins u t) :=
        settles_finished (Play.steady_actOnController here c action) after
      cases action with
      | drop =>
          rw [Step.start]
          apply settles_bind (Play.steady_hadController c) twins
          intro had u t after
          split
          · exact acts .drop after
          · exact settles_done after _
      | acquire | isCached | cached | shutdown | dispose | describe | invalidate =>
          rw [Step.start]
          apply settles_bind (Play.steady_hasController c) twins
          intro had u t after
          split
          · exact acts _ after
          · exact settles_done after _
          intro x
          cases x
  | controllerWait => cases blocks
  | newController =>
      exact settles_bind Play.steady_addController twins fun _ _ _ after => settles_done after _
  | invoke c form body ending => 
      obtain ⟨rfl, all⟩ : form = .blocking ∧ Step.allBlock body := by
        simpa [Step.blocks] using blocks
      rw [Step.start]
      apply settles_after (Play.steady_hasController c) twins
      intro asked
      by_cases kept : ((Play.hasController c).run w).1 = true
      · rw [if_pos kept]
        apply settles_after (Play.steady_modifyHolder c _) asked
        intro held
        apply settles_after (Play.steady_beginCall c) held
        intro acquired
        apply settles_contain
        apply settles_enter acquired c none body ending
        intro id reached t both
        exact startAll_settles id (.ok .nothing) body all _ t both (spares_body kept reached spares)
      · rw [if_neg kept]
        exact settles_done asked _
  | sleep | cancel | spawn | dropTask | within => cases blocks

theorem startAll_settles (id : Nat) (last : Outcome) (body : List Step)
    (blocks : Step.allBlock body) (w v : World) (twins : Twins w v)
    (spares : Step.allSpareAborted id body w) :
    Settles (Step.startAll id last body) (Step.startAll id last body) w v := by
  cases body with
  | nil => exact settles_done twins last
  | cons step rest =>
      obtain ⟨first, others⟩ : step.blocks ∧ Step.allBlock rest := by
        simpa [Step.allBlock] using blocks
      obtain ⟨spares_first, spares_rest⟩ := Bool.and_eq_true_iff.mp spares
      obtain ⟨outcome, u, t, ran, ran', after⟩ :=
        start_settles (some id) step first w v twins spares_first
      rw [ran] at spares_rest
      rw [Step.startAll]
      apply settles_run ran ran'
      dsimp only
      by_cases unwinds : isUnwinding outcome = true
      · rw [if_pos unwinds]
        exact settles_done after outcome
      · rw [if_neg unwinds]
        obtain ⟨_, told⟩ := Play.steady_report (.step step.name outcome) u t after
        apply settles_run rfl rfl
        have later := (Bool.or_eq_true_iff.mp spares_rest).resolve_left unwinds
        exact startAll_settles id outcome rest others _ _ told later

end

end

end Scenario

end RemoteClient
