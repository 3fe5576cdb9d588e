import RemoteClient.Channel.Shutdown
import RemoteClient.Network.Basic

namespace RemoteClient.Act

def openNow (ref : ChannelRef) : Act (Except Channel.Error Unit) := do
  let ch ← channel ref
  trace ("→ open channel " ++ toString ch.id ++ " to " ++ ch.endpoint)
  let (result, ch) := ch.openNow
  putChannel ref ch
  record (.ofOpen ref result)
  return result

def closeNow (ref : ChannelRef) : Act (Except Channel.Error Unit) := do
  let ch ← channel ref
  trace ("→ close channel " ++ toString ch.id)
  let (result, ch) := ch.closeNow
  putChannel ref ch
  record (.ofClose ref result)
  return result

def abort (ref : ChannelRef) : Act Unit := do
  let ch ← channel ref
  trace ("→ abort channel " ++ toString ch.id)
  putChannel ref ch.abort
  record (.aborted ref)

def call (ref : ChannelRef) (method : String) : Act (Except Channel.Error String) := do
  let ch ← channel ref
  if ch.meetsCallError then
    trace ("channel " ++ toString ch.id ++ " failing call " ++ method)
  let (result, ch) := ch.call method
  putChannel ref ch
  return result

def force (ref : ChannelRef) (state : Channel.State) : Act Unit := do
  let ch ← channel ref
  trace ("channel " ++ toString ch.id ++ " forced to " ++ state.name)
  putChannel ref (ch.force state)

/-- After a close that failed the channel is aborted. Only an unrecognised error is passed on. -/
def abortAfterFailedClose (ref : ChannelRef)
    (e : Channel.Error) : Act (Except Channel.Error Unit) := do
  abort ref
  let fields := [("kind", .shown e.kind.title), ("error", .shown e.message)]
  if e.kind.isTransient then
    note ⟨.warn, "graceful close failed, channel aborted", fields⟩
    return .ok ()
  else
    note ⟨.error, "graceful close failed with an unrecognized error", fields⟩
    return .error e

def afterClose (ref : ChannelRef) : Except Channel.Error Unit → Act (Except Channel.Error Unit)
  | .ok () => return .ok ()
  | .error e => abortAfterFailedClose ref e

def shutdownChannel (ref : ChannelRef) (alwaysAbort : Bool) : Act (Except Channel.Error Unit) := do
  match Channel.ShutdownAction.choose (← channel ref).state alwaysAbort with
  | .abort => abort ref; return .ok ()
  | .nothing => record (.spared ref); return .ok ()
  | .close => afterClose ref (← closeNow ref)

end RemoteClient.Act
