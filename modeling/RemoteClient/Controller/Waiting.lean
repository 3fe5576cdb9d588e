import RemoteClient.Controller.Basic

/-!
The controller operations that take time, as values that can be resumed or given up at every point
where they wait.
-/

namespace RemoteClient

/-- An acquire that is closing the channel `stale` it found in the slot, opening the channel
`fresh`, or closing the channel `loser` after another caller installed `winner` first. -/
inductive Acquiring where
  | retiring (stale : Nat) (h : Handshake)
  | opening (fresh : Nat) (h : Handshake)
  | discarding (winner loser : Nat) (h : Handshake)
  deriving DecidableEq, Repr

structure Closing where
  channel : Nat
  handshake : Handshake
  deriving DecidableEq, Repr

namespace Acquiring

def channel : Acquiring → Nat
  | .retiring stale _ => stale
  | .opening fresh _ => fresh
  | .discarding _ loser _ => loser

def handshake : Acquiring → Handshake
  | .retiring _ h => h
  | .opening _ h => h
  | .discarding _ _ h => h

end Acquiring

namespace Act

def reuseOrCreate (c : Nat) : Act (Progress Acquiring (Except Channel.Error Nat)) := do
  match ← cached c with
  | some id => return .done (.ok id)
  | none => return .pending (.opening (← create) .turn)

def settleStale (c stale : Nat) :
    Progress Handshake (Except Channel.Error Unit) →
      Act (Progress Acquiring (Except Channel.Error Nat))
  | .pending h => return .pending (.retiring stale h)
  | .done (.error e) => return .done (.error e)
  | .done (.ok ()) => reuseOrCreate c

def startAcquire (c : Nat) : Act (Progress Acquiring (Except Channel.Error Nat)) := do
  match ← takeStale c with
  | some stale => settleStale c stale (← startShutdownChannel (.ofEndpoint stale) false)
  | none => reuseOrCreate c

def settleLoser (winner loser : Nat) :
    Progress Handshake (Except Channel.Error Unit) →
      Act (Progress Acquiring (Except Channel.Error Nat))
  | .pending h => return .pending (.discarding winner loser h)
  | .done result => do
    noteLoserKept result
    return .done (.ok winner)

def settleOpened (c fresh : Nat) : Act (Progress Acquiring (Except Channel.Error Nat)) := do
  match ← install c fresh with
  | .won => return .done (.ok fresh)
  | .lostTo winner =>
    settleLoser winner fresh (← startShutdownChannel (.ofEndpoint fresh) false)

def resumeAcquire (c : Nat) : Acquiring → Act (Progress Acquiring (Except Channel.Error Nat))
  | .retiring stale h => do
    settleStale c stale (← resumeShutdownChannel (.ofEndpoint stale) h)
  | .opening fresh h => do
    match ← resumeOpen (.ofEndpoint fresh) h with
    | .pending h => return .pending (.opening fresh h)
    | .done (.error e) =>
      noteOpenFailed e
      abandonHandshake (.ofEndpoint fresh)
      return .done (.error e)
    | .done (.ok ()) => settleOpened c fresh
  | .discarding winner loser h => do
    settleLoser winner loser (← resumeShutdownChannel (.ofEndpoint loser) h)

def abandonAcquire (a : Acquiring) : Act Unit := abandonHandshake (.ofEndpoint a.channel)

def startShutdown (c : Nat) (alwaysAbort : Bool) :
    Act (Progress Closing (Except Channel.Error Unit)) := do
  match ← take c with
  | some id => return (← startShutdownChannel (.ofEndpoint id) alwaysAbort).map (⟨id, ·⟩)
  | none => return .done (.ok ())

def resumeShutdown (s : Closing) : Act (Progress Closing (Except Channel.Error Unit)) := do
  return (← resumeShutdownChannel (.ofEndpoint s.channel) s.handshake).map (⟨s.channel, ·⟩)

def abandonShutdown (s : Closing) : Act Unit := abandonHandshake (.ofEndpoint s.channel)

end Act

end RemoteClient
