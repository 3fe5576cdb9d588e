import RemoteClient.Proofs.Agreement.Forms

/-!
Scripts of operations that follow one another. Whichever of the operations are awaited rather than
blocking, each step has the same outcome and leaves the same slots, generations and channels behind.
-/

namespace RemoteClient.Scenario

/-- Two answers that differ at most in the time and in the log. -/
structure StepAnswer.Agrees (a b : StepAnswer) : Prop where
  outcome : a.outcome = b.outcome
  controllers : a.snapshot.controllers = b.snapshot.controllers
  channels : a.snapshot.channels = b.snapshot.channels
  standalone : a.snapshot.standalone = b.snapshot.standalone
  reports : a.reports = b.reports

/-- Whether no step of the script forces a state on a channel that was aborted. -/
def scriptSparesAborted (fuel : Nat) : List Step → World → Bool
  | [], _ => true
  | step :: rest, w =>
    step.sparesAborted none w && scriptSparesAborted fuel rest ((step.answer fuel).run w).2

section

variable {w v u t : World}

theorem Twins.flush (twins : Twins w v) : Twins w.flush v.flush := by
  have told := twins.lists id id fun _ => []
  have alike : ({ w.network with log := [] } : Network).Alike { v.network with log := [] } :=
    ⟨twins.network.endpoint, twins.network.standalone, twins.network.controllers,
      twins.network.cancelled⟩
  have tidy : ({ w.network with log := [] } : Network).Tidy :=
    Network.Tidy.alike (n := w.network) ⟨rfl, rfl, rfl, rfl⟩ twins.tidy
  exact told.networks alike tidy w.main v.main w.mainReady v.mainReady

theorem run_play (step : Step) (fuel : Nat) (w : World) : (step.play fuel).run w =
    (((do Play.drive fuel (← Play.settleMain (← step.start none))).run w).1.getD (.error .elapsed),
      ((do Play.drive fuel (← Play.settleMain (← step.start none))).run w).2) := rfl

theorem run_answer {step : Step} {fuel : Nat} {outcome : Outcome}
    (ran : (step.play fuel).run w = (outcome, u)) :
    (step.answer fuel).run w =
      (⟨outcome, u.snapshot, u.reports.reverse, u.network.log.reverse⟩, u.flush) := by
  rw [Step.answer, Play.run_bind, ran]
  rfl

theorem play_agrees {step other : Step} (agree : Agree (step.start none) (other.start none) w v)
    (fuel more : Nat) :
    ∃ outcome u t, (step.play (fuel + 3)).run w = (outcome, u) ∧
      (other.play (more + 3)).run v = (outcome, t) ∧
      Twins u t := by
  obtain ⟨outcome, u, t, ran, driven, twins⟩ := agree more
  refine ⟨contain outcome, u.free, t.free, ?_, ?_, twins.free⟩
  · have drives : (do Play.drive (fuel + 3) (← Play.settleMain (← step.start none))).run w =
        (some (contain outcome), u.free) := by
      rw [Play.run_bind, ran]
      exact Play.drive_done twins.left (contain outcome) (fuel + 2)
    rw [run_play, drives]
    rfl
  · rw [run_play, driven]
    rfl

theorem Twins.answers (twins : Twins u t) (outcome : Outcome) (log log' : List Log.Event) :
    StepAnswer.Agrees ⟨outcome, u.snapshot, u.reports.reverse, log⟩
      ⟨outcome, t.snapshot, t.reports.reverse, log'⟩ where
  outcome := rfl
  controllers := by simp only [World.snapshot, twins.holders, twins.network.controller]
  channels := by simp only [World.snapshot, twins.network.endpoint]
  standalone := by simp only [World.snapshot, twins.network.standalone]
  reports := by rw [twins.reports]

theorem playAll_agrees {script other : List Step}
    (variants : List.Forall₂ Step.Variant script other) (fuel more : Nat)
    (blocks : Step.allBlock script) (twins : Twins w v)
    (spares : scriptSparesAborted (fuel + 3) script w) :
    List.Forall₂ StepAnswer.Agrees (playAll (fuel + 3) w script) (playAll (more + 3) v other) := by
  induction variants generalizing w v with
  | nil => exact .nil
  | @cons step changed rest others variant _ ih =>
      obtain ⟨first, later⟩ : step.blocks ∧ Step.allBlock rest := by
        simpa [Step.allBlock] using blocks
      obtain ⟨spares_first, spares_rest⟩ := Bool.and_eq_true_iff.mp spares
      obtain ⟨outcome, u, t, ran, ran', after⟩ :=
        play_agrees (Step.variant_agrees variant first twins spares_first) fuel more
      rw [run_answer ran] at spares_rest
      rw [playAll, playAll, run_answer ran, run_answer ran']
      exact .cons (after.answers outcome _ _) (ih later after.flush spares_rest)

theorem start_twins (address : String) : Twins (.start address) (.start address) where
  network := .refl _
  tidy := {
    retired := fun ref aborted => by cases ref <;> cases aborted
    numbered := rfl
    uncancelled := rfl }
  holders := rfl
  issued := rfl
  reports := rfl
  left := ⟨rfl, rfl, rfl⟩
  right := ⟨rfl, rfl, rfl⟩

end

/-- In a script of steps that follow one another, any acquire, call, shutdown or dispose can be
replaced by the form that waits: as long as no state is forced on a channel that was aborted,
nothing but the time changes. -/
theorem waiting_forms_agree (address : String) (script other : List Step)
    (blocks : Step.allBlock script) (variants : List.Forall₂ Step.Variant script other)
    (spares : scriptSparesAborted (Step.turns (Step.sizeAll script)) script (.start address)) :
    List.Forall₂ StepAnswer.Agrees (play address script) (play address other) :=
  playAll_agrees variants (20 * Step.sizeAll script + 17) (20 * Step.sizeAll other + 17) blocks
    (start_twins address) spares

/-- An open that fails, a slow one, a call, a fault, a replacement and the end. -/
theorem faulty_script_agrees : List.Forall₂ StepAnswer.Agrees
    (play "mem://service"
      [.failNextOpen (.timeout "slow"), .controller 0 .acquire, .delayHandshakes 5,
        .controller 0 .acquire,
        .invoke 0 .blocking [.channel .current (.call "ping")] .asLastStep,
        .channel (.endpoint 2) (.force .faulted), .invoke 0 .blocking [] .panic,
        .controller 0 .acquire, .controller 0 (.shutdown false), .controller 0 .dispose])
    (play "mem://service"
      [.failNextOpen (.timeout "slow"), .controllerWait 0 .acquire, .delayHandshakes 5,
        .controllerWait 0 .acquire,
        .invoke 0 (.cancellable "stop") [.channel .current (.call "ping")] .asLastStep,
        .channel (.endpoint 2) (.force .faulted), .invoke 0 .awaited [] .panic,
        .controller 0 .acquire, .controllerWait 0 (.shutdown false), .controllerWait 0 .dispose]) :=
  waiting_forms_agree "mem://service" _ _ (by decide)
    (.cons (.same _) <| .cons (.acquire 0) <| .cons (.same _) <| .cons (.acquire 0) <|
      .cons (.invoke 0 (.cancellable "stop") _ _) <| .cons (.same _) <|
        .cons (.invoke 0 .awaited _ _) <|
      .cons (.same _) <| .cons (.shutdown 0 false) <| .cons (.dispose 0) .nil)
    (by decide +kernel)

end RemoteClient.Scenario
