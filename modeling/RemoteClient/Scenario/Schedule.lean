import RemoteClient.Scenario.Run

/-!
Running a scenario on one processor in virtual time. Tasks that are ready run in turn; when none is,
the main step goes on if it can, and only when it cannot, the clock jumps to the next deadline.
-/

namespace RemoteClient.Scenario

namespace TaskState

def suspended? : TaskState → Option Suspended
  | .suspended run => some run
  | .fresh _ | .running | .ended => none

end TaskState

namespace World

def start (address : String) : World :=
  { network := { Network.start address with controllers := [.empty] }
    holders := [⟨true, 0⟩]
    issued := []
    tasks := []
    main := none
    mainReady := false
    ready := []
    deferred := []
    reports := [] }

def woken (w : World) : List Nat :=
  let woken := w.tasks.zipIdx.filterMap fun (task, k) =>
    if w.ready.contains k || w.deferred.contains k then none
    else (task.state.suspended?.bind (·.woken? w.network)).map fun since => (since, k)
  (woken.mergeSort fun a b => a.1 ≤ b.1).map (·.2)

def mainWoken (w : World) : Bool := w.main.any fun run => (run.woken? w.network).isSome

def suspended (w : World) : List Suspended :=
  w.main.toList ++ w.tasks.filterMap (·.state.suspended?)

def nextDeadline? (w : World) : Option Nat :=
  w.suspended.foldl (fun soonest run => earlier soonest run.deadline?) none

def setTask (w : World) (k : Nat) (state : TaskState) : World :=
  { w with tasks := w.tasks.modify k fun task => { task with state } }

def isIdle (w : World) : Bool := w.ready.isEmpty && w.deferred.isEmpty && !w.mainReady

end World

namespace Play

def wake : Play Unit :=
  modify fun w =>
    { w with ready := w.ready ++ w.woken, mainReady := w.mainReady || w.mainWoken }

def settleMain : Progress Suspended Outcome → Play (Option Outcome)
  | .pending run => do
    modify fun w => { w with main := some run, mainReady := run.yields }
    return none
  | .done outcome => do
    modify fun w => { w with main := none, mainReady := false }
    return some (contain outcome)

def runMain : Play (Option Outcome) := do
  match (← get).main with
  | some run => settleMain (← run.resume)
  | none => return none

def settleTask (k : Nat) (name : String) : Progress Suspended Outcome → Play Unit
  | .pending run => do
    modify (·.setTask k (.suspended run))
    if run.yields then modify fun w => { w with deferred := k :: w.deferred }
  | .done outcome => do
    modify (·.setTask k .ended)
    report (.task name (contain outcome))

def runTask (k : Nat) : Play Unit := do
  match (← get).tasks[k]? with
  | some ⟨name, .fresh step⟩ =>
    modify (·.setTask k .running)
    settleTask k name (← step.start none)
  | some ⟨name, .suspended run⟩ =>
    modify (·.setTask k .running)
    settleTask k name (← run.resume)
  | _ => return ()

/-- Lets time pass until the next deadline, if there is one. -/
def jump : Play Unit := do
  modify fun w => { w with network.clock := max w.network.clock (w.nextDeadline?.getD 0) }
  wake

/-- When no task is ready, the deferred ones become so, the last first; but if the main step can go
on, it does so before them. -/
def beginRound : Play (Option Outcome) := do
  let w ← get
  set { w with ready := w.ready ++ w.deferred, deferred := [], mainReady := false }
  if w.mainReady then runMain else return none

/-- Runs what can run without time passing; while the main step is not done, time passes too. -/
def drive (fuel : Nat) (result : Option Outcome) : Play (Option Outcome) := do
  match fuel with
  | 0 => return result
  | fuel + 1 =>
    wake
    let w ← get
    match w.ready with
    | k :: rest =>
      set { w with ready := rest }
      runTask k
      drive fuel result
    | [] =>
      if w.isIdle then
        if result.isSome then return result
        jump
      let outcome ← beginRound
      drive fuel (result.or outcome)

end Play

structure ChannelView where
  id : Nat
  state : Channel.State
  opens : Nat
  closes : Nat
  aborts : Nat
  calls : Nat
  aborted : Bool
  deriving DecidableEq, Repr

structure ControllerView where
  cached : Option Nat
  generation : Nat
  deriving DecidableEq, Repr

/-- A controller whose handle was dropped is not shown. -/
structure Snapshot where
  time : Nat
  controllers : List (Option ControllerView)
  channels : List ChannelView
  standalone : List ChannelView
  deriving DecidableEq, Repr

structure StepAnswer where
  outcome : Outcome
  snapshot : Snapshot
  reports : List Report
  log : List Log.Event

namespace ChannelView

def ofChannel (ch : Channel) : ChannelView :=
  ⟨ch.id, ch.state, ch.opens, ch.closes, ch.aborts, ch.calls, ch.aborted⟩

end ChannelView

namespace World

def snapshot (w : World) : Snapshot :=
  { time := w.network.clock
    controllers := w.holders.zipIdx.map fun (holder, c) =>
      if holder.kept then
        let ctl := w.network.controller c
        some ⟨ctl.slot.map (·.channel), ctl.generation⟩
      else none
    channels := w.network.endpoint.channels.map .ofChannel
    standalone := (w.network.standalone.mergeSort fun a b => a.id ≤ b.id).map .ofChannel }

def flush (w : World) : World :=
  { w with reports := [], network.log := [] }

end World

namespace Step

/-- Each step waits a few times at most, and a scenario of `n` steps never takes more turns. -/
def turns (n : Nat) : Nat := 20 * n + 20

def play (fuel : Nat) (step : Step) : Play Outcome := do
  let first ← Play.settleMain (← step.start none)
  return (← Play.drive fuel first).getD (.error .elapsed)

def answer (fuel : Nat) (step : Step) : Play StepAnswer := do
  let outcome ← step.play fuel
  let w ← get
  set w.flush
  return ⟨outcome, w.snapshot, w.reports.reverse, w.network.log.reverse⟩

end Step

def playAll (fuel : Nat) (w : World) : List Step → List StepAnswer
  | [] => []
  | step :: rest =>
    let (answer, w) := (step.answer fuel).run w
    answer :: playAll fuel w rest

def play (address : String) (steps : List Step) : List StepAnswer :=
  playAll (Step.turns (Step.sizeAll steps)) (.start address) steps

end RemoteClient.Scenario
