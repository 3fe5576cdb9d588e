import RemoteClient.Controller.Waiting

/-!
The part of a call that looks after its channel while the caller's operation runs on it: the
channel is torn down unless the operation succeeds, and at once if its token is cancelled.
-/

namespace RemoteClient

/-- `armed` while the channel is still to be torn down on failure; `token` while a cancellation
still matters. -/
structure Invocation where
  controller : Nat
  channel : Nat
  armed : Bool
  token : Option String
  deriving DecidableEq, Repr

namespace Invocation

def start (controller channel : Nat) (token : Option String) : Invocation :=
  ⟨controller, channel, true, token⟩

/-- Aborts the channel, which never fails, and takes it out of the slot if it is there. -/
def fire (i : Invocation) : Act Invocation := do
  if i.armed then
    discard (Act.invalidate i.controller i.channel true)
  return { i with armed := false }

/-- To be done before each step of the operation. A cancellation is acted upon once; after that the
operation runs on to report what the abort made of it. -/
def heed (i : Invocation) : Act Invocation := do
  match i.token with
  | none => return i
  | some token =>
    if ← Act.isCancelled token then
      Act.note ⟨.debug, "call cancelled, aborting its channel", []⟩
      let i ← i.fire
      return { i with token := none }
    else return i

def finish (i : Invocation) (succeeded : Bool) : Act Unit := do
  if succeeded then return ()
  else discard i.fire

def abandon (i : Invocation) : Act Unit := discard i.fire

end Invocation

end RemoteClient
