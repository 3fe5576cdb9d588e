import RemoteClient.Channel.Error
import RemoteClient.Channel.Shutdown
import RemoteClient.Text.Visible

/-!
An in-memory channel: its state, the failures it is told to raise, and a count of everything that
was done to it. Each operation gives the channel afterwards and what the caller sees.
-/

namespace RemoteClient

namespace Channel

/-- `openError` is raised once, `closeError` by every close. Handshakes take `latency`. -/
structure Faults where
  openError : Option Error
  closeError : Option Error
  latency : Nat
  deriving DecidableEq, Repr

def Faults.quiet : Faults := ⟨none, none, 0⟩

end Channel

structure Channel where
  id : Nat
  endpoint : String
  state : Channel.State
  faults : Channel.Faults
  callError : Option Channel.Error
  aborted : Bool
  opens : Nat
  closes : Nat
  aborts : Nat
  calls : Nat
  deriving DecidableEq, Repr

namespace Channel

def fresh (id : Nat) (endpoint : String) (faults : Faults) : Channel :=
  { id, endpoint, state := .created, faults, callError := none, aborted := false,
    opens := 0, closes := 0, aborts := 0, calls := 0 }

def force (ch : Channel) (state : State) : Channel := { ch with state }

def openNow (ch : Channel) : Except Error Unit × Channel :=
  let ch := { ch with opens := ch.opens + 1 }
  match ch.faults.openError with
  | some e =>
    (.error e, { ch with faults := { ch.faults with openError := none }, state := .faulted })
  | none =>
    if ch.state = .created then (.ok (), { ch with state := .opened })
    else (.error (.other ("cannot open a channel that is " ++ ch.state.name)), ch)

def closeNow (ch : Channel) : Except Error Unit × Channel :=
  let ch := { ch with closes := ch.closes + 1 }
  match ch.faults.closeError with
  | some e => (.error e, { ch with state := .faulted })
  | none =>
    if ch.state = .faulted then (.error .faulted, ch)
    else (.ok (), { ch with state := .closed })

def abort (ch : Channel) : Channel :=
  { ch with aborts := ch.aborts + 1, state := .closed, aborted := true }

/-- An abort outlasts whatever state the channel is forced into later. -/
def refusal? (ch : Channel) : Option Error :=
  if ch.aborted then some .aborted
  else match ch.state with
    | .opened => none
    | .faulted => some .faulted
    | state => some (.communication
        ("channel " ++ toString ch.id ++ " is " ++ state.name ++ " on " ++ ch.endpoint))

def meetsCallError (ch : Channel) : Bool := ch.refusal?.isNone && ch.callError.isSome

def reply (ch : Channel) (method : String) : String := method ++ "@" ++ toString ch.id

def call (ch : Channel) (method : String) : Except Error String × Channel :=
  let ch := { ch with calls := ch.calls + 1 }
  match ch.refusal? with
  | some e => (.error e, ch)
  | none =>
    match ch.callError with
    | some e => (.error e, { ch with callError := none, state := .faulted })
    | none => (.ok (ch.reply method), ch)

def failOpen (ch : Channel) (e : Error) : Channel :=
  { ch with faults := { ch.faults with openError := some e } }

def failClose (ch : Channel) (e : Error) : Channel :=
  { ch with faults := { ch.faults with closeError := some e } }

def failCall (ch : Channel) (e : Error) : Channel := { ch with callError := some e }

def delay (ch : Channel) (latency : Nat) : Channel :=
  { ch with faults := { ch.faults with latency } }

def summary (ch : Channel) : String :=
  "MemChannel \x7b id: " ++ toString ch.id ++ ", endpoint: " ++ Text.quote ch.endpoint
    ++ ", state: " ++ ch.state.title ++ " \x7d"

end Channel

end RemoteClient
