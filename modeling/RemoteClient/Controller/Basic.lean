import RemoteClient.Network.Waiting

/-!
A controller keeps one channel to a remote endpoint in its slot and hands it out for reuse. This
module has the slot and the operations that finish at once.
-/

namespace RemoteClient.Controller

def isCached (ctl : Controller) : Bool := ctl.slot.isSome

def summary (ctl : Controller) (state : Option Channel.State) : String :=
  let shown (value : Option String) : String :=
    match value with
    | some text => "Some(" ++ text ++ ")"
    | none => "None"
  "ChannelController \x7b cached_generation: " ++
    shown (ctl.slot.map fun s => toString s.generation)
    ++ ", cached_state: " ++ shown (state.map (·.title))
    ++ ", generation: " ++ toString ctl.generation ++ " \x7d"

end RemoteClient.Controller

namespace RemoteClient.Act

def cached (c : Nat) : Act (Option Nat) := return (← controller c).slot.map (·.channel)

def cachedState (c : Nat) : Act (Option Channel.State) := do
  match ← cached c with
  | some id => return some (← channel (.ofEndpoint id)).state
  | none => return none

def describeController (c : Nat) : Act String := return (← controller c).summary (← cachedState c)

def take (c : Nat) : Act (Option Nat) := do
  let ctl ← controller c
  match ctl.slot with
  | none => return none
  | some held =>
    putController c { ctl with slot := none }
    record (.removed c held.channel)
    return some held.channel

def takeStale (c : Nat) : Act (Option Nat) := do
  let ctl ← controller c
  match ctl.slot with
  | none => return none
  | some held =>
    let state := (← channel (.ofEndpoint held.channel)).state
    if state.isUsable then return none
    else
      putController c { ctl with slot := none }
      record (.removed c held.channel)
      note ⟨.debug, "discarding stale channel",
        [("generation", .ofNat held.generation), ("state", .shown state.name)]⟩
      return some held.channel

/-- What became of a channel that was to be cached: it is in the slot now, or another caller's
channel is. -/
inductive Installed where
  | won
  | lostTo (winner : Nat)
  deriving DecidableEq, Repr

/-- Never replaces a channel that is in the slot already. -/
def install (c : Nat) (id : Nat) : Act Installed := do
  let ctl ← controller c
  match ctl.slot with
  | some held => return .lostTo held.channel
  | none =>
    let generation := ctl.generation + 1
    note ⟨.debug, "opened and cached channel", [("generation", .ofNat generation)]⟩
    putController c ⟨some ⟨id, generation⟩, generation⟩
    record (.installed c id)
    return .won

def detach (c : Nat) (id : Nat) : Act Unit := do
  let ctl ← controller c
  match ctl.slot with
  | some held =>
    if held.channel = id then
      note ⟨.debug, "detached channel from slot", [("generation", .ofNat held.generation)]⟩
      putController c { ctl with slot := none }
      record (.removed c id)
  | none => return ()

def invalidate (c : Nat) (id : Nat) (alwaysAbort : Bool) : Act (Except Channel.Error Unit) := do
  detach c id
  shutdownChannel (.ofEndpoint id) alwaysAbort

def shutdown (c : Nat) (alwaysAbort : Bool) : Act (Except Channel.Error Unit) := do
  match ← take c with
  | some id => shutdownChannel (.ofEndpoint id) alwaysAbort
  | none => return .ok ()

def noteIgnored : Except Channel.Error Unit → Act Unit
  | .ok () => return ()
  | .error e =>
    note ⟨.debug, "ignoring shutdown failure during dispose", [("error", .shown e.message)]⟩

def dispose (c : Nat) : Act Unit := do noteIgnored (← shutdown c false)

def noteLoserKept : Except Channel.Error Unit → Act Unit
  | .ok () => return ()
  | .error e =>
    note ⟨.warn, "failed to discard channel that lost the install race",
      [("error", .shown e.message)]⟩

def noteOpenFailed (e : Channel.Error) : Act Unit :=
  note ⟨.debug, "channel open failed", [("error", .shown e.message)]⟩

def discardStale (c : Nat) : Act (Except Channel.Error Unit) := do
  match ← takeStale c with
  | some id => shutdownChannel (.ofEndpoint id) false
  | none => return .ok ()

def openFresh (c : Nat) : Act (Except Channel.Error Nat) := do
  let id ← create
  match ← openNow (.ofEndpoint id) with
  | .error e =>
    noteOpenFailed e
    abort (.ofEndpoint id)
    return .error e
  | .ok () =>
    match ← install c id with
    | .won => return .ok id
    | .lostTo winner =>
      noteLoserKept (← shutdownChannel (.ofEndpoint id) false)
      return .ok winner

def reuseOrOpen (c : Nat) : Act (Except Channel.Error Nat) := do
  match ← cached c with
  | some id => return .ok id
  | none => openFresh c

/-- The cached channel if it can be used, else a fresh one that is open. -/
def acquire (c : Nat) : Act (Except Channel.Error Nat) := do
  match ← discardStale c with
  | .error e => return .error e
  | .ok () => reuseOrOpen c

end RemoteClient.Act
