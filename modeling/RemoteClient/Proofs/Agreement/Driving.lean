import RemoteClient.Proofs.Agreement.Passing
import RemoteClient.Scenario.Schedule

namespace RemoteClient.Scenario

namespace World

structure Solo (w : World) : Prop where
  tasks : w.tasks = []
  ready : w.ready = []
  deferred : w.deferred = []

def free (w : World) : World := { w with main := none, mainReady := false }

def halted (w : World) (run : Suspended) : World := { w with main := some run, mainReady := false }

def jumped (w : World) (deadline : Nat) : World :=
  { w with network.clock := max w.network.clock deadline, mainReady := false }

theorem Solo.woken {w : World} (solo : w.Solo) : w.woken = [] := by
  simp [World.woken, solo.tasks]

theorem Solo.nextDeadline {w : World} (solo : w.Solo) {run : Suspended} (main : w.main = some run) :
    w.nextDeadline? = run.deadline? := by
  cases waits : run.deadline? <;> simp [nextDeadline?, suspended, solo.tasks, main, waits, earlier]

end World

namespace Play

variable {w : World}

theorem run_bind {α β : Type} (p : Play α) (f : α → Play β) (w : World) :
    (p >>= f).run w = (f (p.run w).1).run (p.run w).2 := rfl

theorem run_onNetwork {α : Type} (act : Act α) (w : World) :
    (onNetwork act).run w = ((act.run w.network).1, { w with network := (act.run w.network).2 }) :=
  rfl

theorem run_get {α : Type} (f : World → Play α) (w : World) : (get >>= f).run w = (f w).run w := rfl

theorem run_wake (solo : w.Solo) :
    wake.run w = ((), { w with mainReady := w.mainReady || w.mainWoken }) := by
  change ((), { w with ready := w.ready ++ w.woken, mainReady := w.mainReady || w.mainWoken }) = _
  rw [solo.woken, List.append_nil]

theorem run_drive (solo : w.Solo) (fuel : Nat) (result : Option Outcome) :
    (drive (fuel + 1) result).run w = (do
      let now : World ← get
      if now.isIdle then
        if result.isSome then return result
        jump
      let outcome ← beginRound
      drive fuel (result.or outcome)).run { w with mainReady := w.mainReady || w.mainWoken } := by
  rw [drive, run_bind, run_wake solo]
  dsimp only
  rw [run_get, solo.ready]
  rfl

theorem drive_done (solo : w.Solo) (outcome : Outcome) (fuel : Nat) :
    (drive (fuel + 1) (some outcome)).run w.free = (some outcome, w.free) := by
  have idle : w.free.isIdle := by simp [World.free, World.isIdle, solo.ready, solo.deferred]
  rw [run_drive (w := w.free) ⟨solo.tasks, solo.ready, solo.deferred⟩]
  change ((if w.free.isIdle then _ else _ : Play (Option Outcome)).run w.free) = _
  rw [if_pos idle]
  rfl

theorem run_beginRound (solo : w.Solo) {run : Suspended} (main : w.main = some run) :
    beginRound.run { w with mainReady := true } =
      (do settleMain (← run.resume)).run { w with mainReady := false } := by
  have round :
    ({ w with ready := w.ready ++ w.deferred, deferred := [], mainReady := false } : World) =
      { w with mainReady := false } := by simp [solo.ready, solo.deferred]
  change (runMain.run
    { w with ready := w.ready ++ w.deferred, deferred := [], mainReady := false }) = _
  rw [round, runMain, run_get]
  dsimp only
  rw [main]

theorem drive_able (solo : w.Solo) {run : Suspended} (main : w.main = some run)
    (able : (w.mainReady || w.mainWoken) = true) (fuel : Nat) : (drive (fuel + 1) none).run w =
      (do drive fuel (← settleMain (← run.resume))).run { w with mainReady := false } := by
  have busy : ¬ ({ w with mainReady := true } : World).isIdle := by simp [World.isIdle]
  rw [run_drive solo, run_get, able, if_neg busy, run_bind, run_beginRound solo main]
  rfl

theorem drive_waiting (solo : w.Solo) {run : Suspended} {deadline : Nat} (main : w.main = some run)
    (unable : (w.mainReady || w.mainWoken) = false) (waits : run.deadline? = some deadline)
    (wakes : (w.jumped deadline).mainWoken = true) (fuel : Nat) :
    (drive (fuel + 1) none).run w =
      (do drive fuel (← settleMain (← run.resume))).run (w.jumped deadline) := by
  have alone : (w.jumped deadline).Solo := ⟨solo.tasks, solo.ready, solo.deferred⟩
  have idle : ({ w with mainReady := false } : World).isIdle := by
    simp [World.isIdle, solo.ready, solo.deferred]
  have jumps : jump.run { w with mainReady := false } =
      ((), { w.jumped deadline with mainReady := true }) := by
    have next : ({ w with mainReady := false } : World).nextDeadline? = some deadline :=
      (World.Solo.nextDeadline ⟨solo.tasks, solo.ready, solo.deferred⟩ main).trans waits
    change wake.run
      (w.jumped (({ w with mainReady := false } : World).nextDeadline?.getD 0)) = _
    rw [next, Option.getD_some, run_wake alone, wakes, Bool.or_true]
  rw [run_drive solo, run_get, unable, if_pos idle]
  change ((do
    jump
    let outcome ← beginRound
    drive fuel (none.or outcome)).run { w with mainReady := false }) = _
  rw [run_bind, jumps, run_bind, run_beginRound alone main]
  rfl

end Play

/-- A step that waits for an operation and settles what comes of it. -/
structure Carrier {S R : Type} (form : Act.Form S R) where
  step : S → Suspended
  settle : Progress S R → Play (Progress Suspended Outcome)
  yields : ∀ id h, (step (form.wait id h)).yields = decide (h = .turn)
  deadline : ∀ id h, (step (form.wait id h)).deadline? = h.deadline?
  woken : ∀ id h n, (step (form.wait id h)).woken? n = h.woken? n (.ofEndpoint id)
  resumes : ∀ s, (step s).resume = (do settle (← Play.onNetwork (form.resume s)))
  settles : ∀ s, settle (.pending s) = pure (.pending (step s))

namespace Carrier

def acquiring (c : Nat) : Carrier (Act.acquiring c) where
  step := .acquiring c
  settle := Play.settleAcquire c
  yields _ _ := rfl
  deadline _ _ := rfl
  woken _ _ _ := rfl
  resumes _ := rfl
  settles _ := rfl

def entering (c : Nat) (token : Option String) (body : List Step) (ending : Ending) :
    Carrier (Act.acquiring c) where
  step := .entering c token body ending
  settle := Play.enter c token body ending fun id => Step.startAll id (.ok .nothing) body
  yields _ _ := rfl
  deadline _ _ := rfl
  woken _ _ _ := rfl
  resumes _ := rfl
  settles _ := rfl

def shuttingDown (c : Nat) : Carrier Act.closing where
  step := .shuttingDown c
  settle := Play.settleShutdown c
  yields _ _ := rfl
  deadline _ _ := rfl
  woken _ _ _ := rfl
  resumes _ := rfl
  settles _ := rfl

def disposing (c : Nat) : Carrier Act.closing where
  step := .disposing c
  settle := Play.settleDispose c
  yields _ _ := rfl
  deadline _ _ := rfl
  woken _ _ _ := rfl
  resumes _ := rfl
  settles _ := rfl

variable {S R : Type} {form : Act.Form S R} {w : World} {n : Network} {id : Nat} {h : Handshake}

theorem run_resume_waits (carrier : Carrier form) {later : Handshake}
    (waiting : (h.resume (.ofEndpoint id)).run w.network = (.pending later, n)) :
    (carrier.step (form.wait id h)).resume.run w =
      (.pending (carrier.step (form.wait id later)), { w with network := n }) := by
  rw [carrier.resumes, Play.run_bind, Play.run_onNetwork, form.waits waiting, carrier.settles]
  rfl

theorem run_resume_passes (carrier : Carrier form)
    (passing : (h.resume (.ofEndpoint id)).run w.network = (.done (.ok ()), n)) :
    (carrier.step (form.wait id h)).resume.run w =
      (do carrier.settle (← Play.onNetwork (form.passed id))).run { w with network := n } := by
  rw [carrier.resumes, Play.run_bind, Play.run_onNetwork, form.passes passing]
  rfl

theorem halted_solo (solo : w.Solo) (run : Suspended) : (w.halted run).Solo :=
  ⟨solo.tasks, solo.ready, solo.deferred⟩

theorem drive_turn (carrier : Carrier form) (solo : w.Solo) (fuel : Nat) :
    (do Play.drive (fuel + 1) (← Play.settleMain
      (.pending (carrier.step (form.wait id .turn))))).run w =
      (do Play.drive fuel (← Play.settleMain (← (carrier.step (form.wait id .turn)).resume))).run
        (w.halted (carrier.step (form.wait id .turn))) := by
  have settled : (Play.settleMain (.pending (carrier.step (form.wait id .turn)))).run w =
      (none, { w with main := some (carrier.step (form.wait id .turn)), mainReady := true }) := by
    change (none, { w with main := _, mainReady := (carrier.step (form.wait id .turn)).yields }) = _
    rw [carrier.yields]
    rfl
  rw [Play.run_bind, settled]
  exact Play.drive_able (w := { w with main := _, mainReady := true })
    ⟨solo.tasks, solo.ready, solo.deferred⟩ rfl rfl fuel

theorem drive_wait (carrier : Carrier form) (solo : w.Solo)
    (free : (w.network.channel (.ofEndpoint id)).aborted = false) {deadline : Nat}
    (early : w.network.clock < deadline) {since : Nat} {run : Suspended}
    (waits : carrier.step (form.wait id (.waiting deadline since)) = run) (fuel : Nat) :
    (do Play.drive (fuel + 1) (← Play.settleMain (.pending run))).run w =
      (do Play.drive fuel (← Play.settleMain (← run.resume))).run
        ((w.halted run).jumped deadline) := by
  have settled : (Play.settleMain (.pending run)).run w = (none, w.halted run) := by
    change (none, { w with main := _, mainReady := run.yields }) = _
    rw [← waits, carrier.yields]
    rfl
  have looks (n : Network) :
      run.woken? n = (Handshake.waiting deadline since).woken? n (.ofEndpoint id) :=
    waits ▸ carrier.woken id _ n
  have asleep : ((w.halted run).mainReady || (w.halted run).mainWoken) = false := by
    change (run.woken? w.network).isSome = false
    rw [looks]
    simp [Handshake.woken?, free, early]
  have wakes : ((w.halted run).jumped deadline).mainWoken = true := by
    change (run.woken? ((w.halted run).jumped deadline).network).isSome = true
    have elapsed : deadline ≤ ((w.halted run).jumped deadline).network.clock := Nat.le_max_right _ _
    rw [looks]
    simp [Handshake.woken?, elapsed]
  rw [Play.run_bind, settled]
  have until_then : run.deadline? = some deadline := waits ▸ carrier.deadline id _
  exact Play.drive_waiting (halted_solo solo run) rfl asleep until_then wakes fuel

/-- Nobody else can abort the channel meanwhile: the step goes on after at most one jump of the
clock. -/
theorem drive_passes (carrier : Carrier form) (solo : w.Solo)
    (free : (w.network.channel (.ofEndpoint id)).aborted = false) (fuel : Nat) : ∃ n run rest,
    w.network.Alike n ∧
      (do Play.drive (fuel + 3) (← Play.settleMain
        (.pending (carrier.step (form.wait id .turn))))).run w =
        (do Play.drive (rest + 1) (← Play.settleMain (← carrier.settle
          (← Play.onNetwork (form.passed id))))).run ({ w with network := n }.halted run) := by
  let first := carrier.step (form.wait id .turn)
  let paused := w.halted first
  have begun := Act.run_turn (n := paused.network) free
  rw [carrier.drive_turn solo]
  by_cases quick : (paused.network.channel (.ofEndpoint id)).faults.latency = 0
  · rw [if_pos quick] at begun
    refine ⟨w.network, first, fuel + 1, .refl _, ?_⟩
    rw [Play.run_bind, Play.run_bind, carrier.run_resume_passes begun]
    rfl
  · rw [if_neg quick] at begun
    let deadline := paused.network.clock + (paused.network.channel (.ofEndpoint id)).faults.latency
    let second := carrier.step (form.wait id (.waiting deadline paused.network.waits))
    let waiting : World := { paused with network.waits := paused.network.waits + 1 }
    let awake := (waiting.halted second).jumped deadline
    have early : waiting.network.clock < deadline :=
      Nat.lt_add_of_pos_right (Nat.pos_of_ne_zero quick)
    have passing : ((Handshake.waiting deadline paused.network.waits).resume (.ofEndpoint id)).run
        awake.network = (.done (.ok ()), awake.network) := by
      have still : (awake.network.channel (.ofEndpoint id)).aborted = false := free
      have elapsed : deadline ≤ awake.network.clock := Nat.le_max_right _ _
      rw [Handshake.resume, Act.run_check still, if_pos elapsed]
    have alone : waiting.Solo := ⟨solo.tasks, solo.ready, solo.deferred⟩
    have waited := carrier.drive_wait alone free early (Eq.refl second) (fuel + 1)
    rw [Play.run_bind, Play.run_bind second.resume, carrier.run_resume_passes passing] at waited
    refine ⟨awake.network, second, fuel, ⟨rfl, rfl, rfl, rfl⟩, ?_⟩
    rw [Play.run_bind, Play.run_bind, carrier.run_resume_waits begun]
    exact waited

/-- Whether the waiting form is done at once or waits for its handshake, in the end it settles what
the blocking form gives. -/
theorem drive_form (carrier : Carrier form) {blocking : Act R} {start : Act (Progress S R)}
    (begins : Act.Begins form blocking w.network (start.run w.network)) (solo : w.Solo)
    (fuel : Nat) :
    ∃ n main able rest, (blocking.run w.network).2.Alike n ∧
      (do Play.drive (fuel + 3) (← Play.settleMain
        (← carrier.settle (← Play.onNetwork start)))).run w =
        (do Play.drive (rest + 1) (← Play.settleMain
          (← carrier.settle (.done (blocking.run w.network).1)))).run
          { w with network := n, main := main, mainReady := able } := by
  generalize started : start.run w.network = first at begins
  have starts : (Play.onNetwork start).run w = (first.1, { w with network := first.2 }) := by
    rw [Play.run_onNetwork, started]
  cases begins with
  | @done result m ran =>
      refine ⟨m, w.main, w.mainReady, fuel + 2, ?_, ?_⟩
      · rw [ran]
        exact .refl m
      · rw [Play.run_bind, starts, ran]
  | @waits id m free passes =>
      have alone : ({ w with network := m } : World).Solo := ⟨solo.tasks, solo.ready, solo.deferred⟩
      obtain ⟨n, run, rest, waited, drives⟩ := carrier.drive_passes alone free fuel
      obtain ⟨k, passed, last⟩ := passes n waited
      have goes_on :
        (Play.onNetwork (form.passed id)).run (({ w with network := n } : World).halted run) =
          (.done (blocking.run w.network).1, ({ w with network := k } : World).halted run) := by
        change (((form.passed id).run n).1,
          { ({ w with network := n } : World).halted run with network :=
            ((form.passed id).run n).2 }) = _
        rw [passed]
        rfl
      refine ⟨k, some run, false, rest, last, ?_⟩
      rw [Play.run_bind, starts, carrier.settles]
      refine drives.trans ?_
      rw [Play.run_bind, goes_on]
      rfl

end Carrier

end RemoteClient.Scenario
