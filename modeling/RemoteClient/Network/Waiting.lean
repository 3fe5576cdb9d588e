import RemoteClient.Network.Channel

/-!
Channel operations that take time. Each is a first-order value that says what it waits for, with
functions that begin it, resume it, and give it up.
-/

namespace RemoteClient

inductive Progress (Suspended Result : Type) where
  | pending (rest : Suspended)
  | done (result : Result)
  deriving DecidableEq, Repr

namespace Progress

def map {S T R : Type} (f : S → T) : Progress S R → Progress T R
  | .pending s => .pending (f s)
  | .done r => .done r

end Progress

/-- A handshake lets others go first before it looks at the channel's latency. `since` numbers the
wait that began then. -/
inductive Handshake where
  | turn
  | waiting (deadline : Nat) (since : Nat)
  deriving DecidableEq, Repr

structure Call where
  method : String
  deadline : Nat
  since : Nat
  deriving DecidableEq, Repr

inductive Wake where
  | abort
  | time
  deriving DecidableEq, Repr

namespace Act

def wake? (ref : ChannelRef) (deadline : Nat) : Act (Option Wake) := do
  let n ← get
  let aborted := (n.channel ref).aborted
  let elapsed := decide (deadline ≤ n.clock)
  return if aborted && elapsed then some (if n.timerWins then .time else .abort)
    else if aborted then some .abort
    else if elapsed then some .time
    else none

end Act

namespace Handshake

def check (ref : ChannelRef) (deadline since : Nat) :
    Act (Progress Handshake (Except Channel.Error Unit)) := do
  match ← Act.wake? ref deadline with
  | some .abort => return .done (.error .aborted)
  | some .time => return .done (.ok ())
  | none => return .pending (.waiting deadline since)

/-- Without latency there is nothing to wait for, not even an abort. -/
def resume (ref : ChannelRef) : Handshake → Act (Progress Handshake (Except Channel.Error Unit))
  | .turn => do
    let latency := (← Act.channel ref).faults.latency
    if latency = 0 then return .done (.ok ())
    else check ref ((← Act.now) + latency) (← Act.stamp)
  | .waiting deadline since => check ref deadline since

end Handshake

namespace Call

def check (ref : ChannelRef) (call : Call) : Act (Progress Call (Except Channel.Error String)) := do
  match ← Act.wake? ref call.deadline with
  | some .abort => return .done (.error .aborted)
  | some .time => return .done (← Act.call ref call.method)
  | none => return .pending call

/-- A call that the channel refuses at once does not reach it and is not counted. -/
def start (ref : ChannelRef) (method : String) (latency : Nat) :
    Act (Progress Call (Except Channel.Error String)) := do
  match (← Act.channel ref).refusal? with
  | some e => return .done (.error e)
  | none => check ref ⟨method, (← Act.now) + latency, ← Act.stamp⟩

end Call

namespace Act

def resumeOpen (ref : ChannelRef) (h : Handshake) :
    Act (Progress Handshake (Except Channel.Error Unit)) := do
  match ← h.resume ref with
  | .pending h => return .pending h
  | .done (.error e) => return .done (.error e)
  | .done (.ok ()) => return .done (← openNow ref)

def resumeClose (ref : ChannelRef) (h : Handshake) :
    Act (Progress Handshake (Except Channel.Error Unit)) := do
  match ← h.resume ref with
  | .pending h => return .pending h
  | .done (.error e) => return .done (.error e)
  | .done (.ok ()) => return .done (← closeNow ref)

/-- Only a graceful close takes time. -/
def startShutdownChannel (ref : ChannelRef) (alwaysAbort : Bool) :
    Act (Progress Handshake (Except Channel.Error Unit)) := do
  match Channel.ShutdownAction.choose (← channel ref).state alwaysAbort with
  | .abort => abort ref; return .done (.ok ())
  | .nothing => record (.spared ref); return .done (.ok ())
  | .close => return .pending .turn

def resumeShutdownChannel (ref : ChannelRef) (h : Handshake) :
    Act (Progress Handshake (Except Channel.Error Unit)) := do
  match ← resumeClose ref h with
  | .pending h => return .pending h
  | .done result => return .done (← afterClose ref result)

def abandonHandshake (ref : ChannelRef) : Act Unit := do
  note ⟨.debug, "abandoned channel handshake, aborting",
    [("state", .shown (← channel ref).state.name)]⟩
  abort ref

end Act

end RemoteClient
