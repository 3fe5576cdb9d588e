import RemoteClient.Channel.Basic
import RemoteClient.Log.Event

/-!
Everything the operations of this library act on: one endpoint with the channels it created,
standalone channels, the slots of the controllers, a clock and the log.
-/

namespace RemoteClient

/-- The channels an endpoint created, oldest first; the k-th has id k. `pending` holds the failures
for channels still to be created. -/
structure Endpoint where
  address : String
  pending : Channel.Faults
  channels : List Channel
  deriving DecidableEq, Repr

inductive ChannelRef where
  | ofEndpoint (id : Nat)
  | standalone (id : Nat)
  deriving DecidableEq, Repr

/-- Something done to a channel or to the slot of a controller. A channel that was to be shut down
and turned out to be closed already is `spared`. -/
inductive Deed where
  | created (id : Nat)
  | opened (ref : ChannelRef)
  | openFailed (ref : ChannelRef) (error : Channel.Error)
  | closed (ref : ChannelRef)
  | closeFailed (ref : ChannelRef) (error : Channel.Error)
  | aborted (ref : ChannelRef)
  | spared (ref : ChannelRef)
  | installed (c id : Nat)
  | removed (c id : Nat)
  deriving DecidableEq, Repr

structure Cached where
  channel : Nat
  generation : Nat
  deriving DecidableEq, Repr

structure Controller where
  slot : Option Cached
  generation : Nat
  deriving DecidableEq, Repr

/-- `waits` numbers the waits in the order they began. `timerWins` settles what a wait sees when its
channel was aborted at the very moment its time ran out. The log and the history are newest first;
the history is kept for what can be said about runs, and no operation looks at it. -/
structure Network where
  clock : Nat
  endpoint : Endpoint
  standalone : List Channel
  controllers : List Controller
  cancelled : List String
  waits : Nat
  timerWins : Bool
  log : List Log.Event
  history : List Deed
  deriving DecidableEq, Repr

namespace Controller

def empty : Controller := ⟨none, 0⟩

end Controller

namespace Deed

def ofOpen (ref : ChannelRef) : Except Channel.Error Unit → Deed
  | .ok () => .opened ref
  | .error e => .openFailed ref e

def ofClose (ref : ChannelRef) : Except Channel.Error Unit → Deed
  | .ok () => .closed ref
  | .error e => .closeFailed ref e

end Deed

namespace Endpoint

def find? (e : Endpoint) (id : Nat) : Option Channel := e.channels.find? (·.id == id)

/-- Only the next channel gets the open error; the close error and the latency stay. -/
def create (e : Endpoint) : Channel × Endpoint :=
  let ch := Channel.fresh (e.channels.length + 1) e.address e.pending
  (ch, { e with pending := { e.pending with openError := none }, channels := e.channels ++ [ch] })

def replace (e : Endpoint) (ch : Channel) : Endpoint :=
  { e with channels := e.channels.map fun old => if old.id = ch.id then ch else old }

end Endpoint

namespace Network

def standaloneAddress : String := "mem://detached"

def startup (address : String) : Log.Event :=
  Log.Event.trace "MEM" ("→ initializing in-memory endpoint " ++ address)

def start (address : String) : Network :=
  { clock := 0
    endpoint := ⟨address, Channel.Faults.quiet, []⟩
    standalone := []
    controllers := []
    cancelled := []
    waits := 0
    timerWins := false
    log := [startup address]
    history := [] }

/-- A standalone channel comes into being when it is first looked at. -/
def channel (n : Network) : ChannelRef → Channel
  | .ofEndpoint id => (n.endpoint.find? id).getD (.fresh id n.endpoint.address .quiet)
  | .standalone id => (n.standalone.find? (·.id == id)).getD (.fresh id standaloneAddress .quiet)

def putStandalone (channels : List Channel) (ch : Channel) : List Channel :=
  if channels.any (·.id == ch.id) then
    channels.map fun old => if old.id = ch.id then ch else old
  else channels ++ [ch]

def putChannel (n : Network) (ref : ChannelRef) (ch : Channel) : Network :=
  match ref with
  | .ofEndpoint _ => { n with endpoint := n.endpoint.replace ch }
  | .standalone _ => { n with standalone := putStandalone n.standalone ch }

def controller (n : Network) (c : Nat) : Controller := n.controllers.getD c .empty

def putController (n : Network) (c : Nat) (ctl : Controller) : Network :=
  { n with controllers := n.controllers.set c ctl }

end Network

abbrev Act := StateM Network

namespace Act

def note (event : Log.Event) : Act Unit := modify fun n => { n with log := event :: n.log }

def trace (message : String) : Act Unit := note (.trace "MEM" message)

def record (deed : Deed) : Act Unit := modify fun n => { n with history := deed :: n.history }

def channel (ref : ChannelRef) : Act Channel := return (← get).channel ref

def putChannel (ref : ChannelRef) (ch : Channel) : Act Unit := modify (·.putChannel ref ch)

def modifyChannel (ref : ChannelRef) (f : Channel → Channel) : Act Unit := do
  putChannel ref (f (← channel ref))

def controller (c : Nat) : Act Controller := return (← get).controller c

def putController (c : Nat) (ctl : Controller) : Act Unit := modify (·.putController c ctl)

def now : Act Nat := return (← get).clock

def stamp : Act Nat :=
  modifyGet fun n => (n.waits, { n with waits := n.waits + 1 })

def isCancelled (token : String) : Act Bool := return (← get).cancelled.contains token

def cancel (token : String) : Act Unit :=
  modify fun n => if n.cancelled.contains token then n
    else { n with cancelled := token :: n.cancelled }

def addController : Act Nat :=
  modifyGet fun n => (n.controllers.length, { n with controllers := n.controllers ++ [.empty] })

def create : Act Nat := do
  let id ← modifyGet fun n => let (ch, e) := n.endpoint.create; (ch.id, { n with endpoint := e })
  record (.created id)
  return id

def failNextOpen (e : Channel.Error) : Act Unit :=
  modify fun n => { n with endpoint.pending.openError := some e }

def failCloses (e : Channel.Error) : Act Unit :=
  modify fun n => { n with endpoint.pending.closeError := some e }

def delayHandshakes (latency : Nat) : Act Unit :=
  modify fun n => { n with endpoint.pending.latency := latency }

end Act

end RemoteClient
