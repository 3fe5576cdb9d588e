import RemoteClient.Controller.Invocation
import RemoteClient.Json.Basic
import RemoteClient.Text.Visible

/-!
A demonstration run: calls through one controller, with faults on a schedule and, if wanted, a slow
last call that is cancelled on its way.
-/

namespace RemoteClient.Demo

/-- Every `faultEvery`-th call fails; with zero none does. -/
structure Options where
  calls : Nat
  faultEvery : Nat
  cancel : Bool
  deriving DecidableEq, Repr

/-- `calls` does not count the cancelled one. -/
structure Report where
  calls : Nat
  succeeded : Nat
  failed : Nat
  cancelled : Bool
  channelsCreated : Nat
  generation : Nat
  deriving DecidableEq, Repr

structure Tally where
  succeeded : Nat
  failed : Nat
  deriving DecidableEq, Repr

def address : String := "mem://demo"

def network : Network := { Network.start address with controllers := [.empty] }

def passUntil (h : Handshake) : Act Unit :=
  match h with
  | .turn => return ()
  | .waiting deadline _ => modify fun n => { n with clock := max n.clock deadline }

/-- The only acquire under way gets its channel after a few turns. -/
def finishAcquire : Nat → Progress Acquiring (Except Channel.Error Nat) →
    Act (Except Channel.Error Nat)
  | _, .done result => return result
  | 0, .pending _ => return .error .aborted
  | turns + 1, .pending a => do
    passUntil a.handshake
    finishAcquire turns (← Act.resumeAcquire 0 a)

def acquire : Act (Except Channel.Error Nat) := do finishAcquire 4 (← Act.startAcquire 0)

def finishShutdown : Nat → Progress Closing (Except Channel.Error Unit) →
    Act (Except Channel.Error Unit)
  | _, .done result => return result
  | 0, .pending _ => return .error .aborted
  | turns + 1, .pending s => do
    passUntil s.handshake
    finishShutdown turns (← Act.resumeShutdown s)

def shutdown : Act (Except Channel.Error Unit) := do finishShutdown 4 (← Act.startShutdown 0 false)

def ping : Act (Except Channel.Error String) := do
  match ← acquire with
  | .error e => return .error e
  | .ok id =>
    let i := Invocation.start 0 id none
    match ← Call.start (.ofEndpoint id) "Ping" 0 with
    | .pending _ =>
      i.abandon
      return .error .aborted
    | .done result =>
      i.finish result.isOk
      return result

def faultMessage (call : Nat) : String := "injected fault on call " ++ toString call

def isFaulty (options : Options) (call : Nat) : Bool :=
  0 < options.faultEvery && call % options.faultEvery == 0

def arrangeFault (call : Nat) : Act (Except Channel.Error Unit) := do
  match ← acquire with
  | .error e => return .error e
  | .ok id =>
    Act.modifyChannel (.ofEndpoint id) (·.failCall (.communication (faultMessage call)))
    return .ok ()

def prepare (options : Options) (call : Nat) : Act (Except Channel.Error Unit) :=
  if isFaulty options call then arrangeFault call else return .ok ()

def noteReply (call : Nat) : Except Channel.Error String → Act Unit
  | .ok reply =>
    Act.note ⟨.info, "call succeeded", [("call", .ofNat call), ("reply", .shown reply)]⟩
  | .error e =>
    Act.note ⟨.warn, "call failed", [("call", .ofNat call), ("error", .shown e.message)]⟩

namespace Tally

def count (t : Tally) : Except Channel.Error String → Tally
  | .ok _ => { t with succeeded := t.succeeded + 1 }
  | .error _ => { t with failed := t.failed + 1 }

end Tally

def makeCalls (options : Options) (t : Tally) (call : Nat) : Nat → Act (Except Channel.Error Tally)
  | 0 => return .ok t
  | left + 1 => do
    match ← prepare options call with
    | .error e => return .error e
    | .ok () =>
      let reply ← ping
      noteReply call reply
      makeCalls options (t.count reply) (call + 1) left

def token : String := "demo"

def slowLatency : Nat := 30000

def cancelAfter : Nat := 10

/-- The call is cancelled while it waits for its reply, and reports what the abort made of it. -/
def cancelledCall (id : Nat) : Act (Except Channel.Error String) := do
  let i ← (Invocation.start 0 id (some token)).heed
  let started ← Call.start (.ofEndpoint id) "Slow" slowLatency
  modify fun n => { n with clock := n.clock + cancelAfter }
  Act.cancel token
  match started with
  | .done result =>
    i.finish result.isOk
    return result
  | .pending call =>
    let i ← i.heed
    match ← call.check (.ofEndpoint id) with
    | .done result =>
      i.finish result.isOk
      return result
    | .pending _ =>
      i.abandon
      return .error .aborted

def describeError : Channel.Error → String
  | .communication detail => "Communication(" ++ Text.quote detail ++ ")"
  | .timeout detail => "Timeout(" ++ Text.quote detail ++ ")"
  | .aborted => "Aborted"
  | .faulted => "Faulted"
  | .other detail => "Other(" ++ Text.quote detail ++ ")"

def describeResult : Except Channel.Error String → String
  | .ok reply => "Ok(" ++ Text.quote reply ++ ")"
  | .error e => "Err(" ++ describeError e ++ ")"

def isAborted : Except Channel.Error String → Bool
  | .error .aborted => true
  | _ => false

def cancelLast (options : Options) : Act Bool := do
  if options.cancel then
    let result ← match ← acquire with
      | .error e => pure (.error e)
      | .ok id => cancelledCall id
    Act.note ⟨.info, "cancellable call finished", [("outcome", .shown (describeResult result))]⟩
    return isAborted result
  else return false

def makeReport (options : Options) (t : Tally) (cancelled : Bool) : Act Report := do
  let n ← get
  return ⟨options.calls, t.succeeded, t.failed, cancelled, n.endpoint.channels.length,
    (n.controller 0).generation⟩

def run (options : Options) : Act (Except Channel.Error Report) := do
  match ← makeCalls options ⟨0, 0⟩ 1 options.calls with
  | .error e => return .error e
  | .ok t =>
    let cancelled ← cancelLast options
    let report ← makeReport options t cancelled
    return (← shutdown).map fun () => report

def runLogged (options : Options) : Except Channel.Error Report × List Log.Event :=
  let (result, n) := (run options).run network
  (result, n.log.reverse)

namespace Report

def toJson (r : Report) : Json :=
  .object [("calls", .number r.calls), ("succeeded", .number r.succeeded),
    ("failed", .number r.failed), ("cancelled", .bool r.cancelled),
    ("channels_created", .number r.channelsCreated), ("generation", .number r.generation)]

end Report

end RemoteClient.Demo
