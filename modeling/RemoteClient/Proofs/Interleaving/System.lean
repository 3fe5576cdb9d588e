import RemoteClient.Controller.Invocation
import RemoteClient.Scenario.World

/-!
Calls on the controllers of one endpoint, interleaved in every order.

A system is a network with the calls that were begun on its controllers. An event lets one call
begin, go on or be given up at a point where it waits, or lets something happen outside of the
calls; any list of events is a run. The operation that runs inside a call is not spelled out: what
it does to channels happens outside, and how it ends is chosen freely.
-/

namespace RemoteClient.Interleaving

/-- Who did something: the `k`-th call of the system, which is one on the controller `c`, or nobody
the controllers know of. -/
inductive Actor where
  | outside
  | call (c k : Nat)
  deriving DecidableEq, Repr

structure Record where
  actor : Actor
  deed : Deed
  deriving DecidableEq, Repr

/-- How a call came to its end. An invocation is `refused` when its acquire failed. -/
inductive Ending where
  | acquired (result : Except Channel.Error Nat)
  | refused (error : Channel.Error)
  | operated (outcome : Scenario.Outcome)
  | settled (result : Except Channel.Error Unit)
  | disposed
  | abandoned

/-- Where a call stands. An operation is `polled` from the moment its call goes on until it
waits. -/
inductive Stage where
  | acquiring (a : Acquiring)
  | entering (token : Option String) (a : Acquiring)
  | operating (i : Invocation) (polled : Bool)
  | shutting (s : Closing)
  | disposing (s : Closing)
  | ended (ending : Ending)

structure Task where
  controller : Nat
  stage : Stage

structure System where
  network : Network
  tasks : List Task
  dropped : List Nat
  history : List Record

inductive Operation where
  | acquire
  | acquireAsync
  | invoke
  | invokeAsync (token : Option String)
  | invalidate (id : Nat) (alwaysAbort : Bool)
  | shutdown (alwaysAbort : Bool)
  | shutdownAsync (alwaysAbort : Bool)
  | dispose
  | disposeAsync

/-- What can happen outside of the calls: faults, time, cancellations, and whatever somebody does
who has got hold of a channel. -/
inductive Outside where
  | force (ref : ChannelRef) (state : Channel.State)
  | open (ref : ChannelRef)
  | close (ref : ChannelRef)
  | abort (ref : ChannelRef)
  | call (ref : ChannelRef) (method : String)
  | shutdown (ref : ChannelRef) (alwaysAbort : Bool)
  | failOpen (ref : ChannelRef) (error : Channel.Error)
  | failClose (ref : ChannelRef) (error : Channel.Error)
  | failCall (ref : ChannelRef) (error : Channel.Error)
  | delay (ref : ChannelRef) (latency : Nat)
  | create
  | failNextOpen (error : Channel.Error)
  | failCloses (error : Channel.Error)
  | delayHandshakes (latency : Nat)
  | cancel (token : String)
  | stamp
  | elapse (time : Nat)
  | settleTies (timerWins : Bool)

/-- `resume` polls a call, `suspend` ends the poll of an operation that waits, and `conclude` ends
an operation that is polled. -/
inductive Event where
  | newController
  | begin (c : Nat) (op : Operation)
  | drop (c : Nat)
  | resume (k : Nat)
  | suspend (k : Nat)
  | conclude (k : Nat) (outcome : Scenario.Outcome)
  | abandon (k : Nat)
  | outside (o : Outside)

namespace Outside

def act : Outside → Act Unit
  | .force ref state => Act.force ref state
  | .open ref => discard (Act.openNow ref)
  | .close ref => discard (Act.closeNow ref)
  | .abort ref => Act.abort ref
  | .call ref method => discard (Act.call ref method)
  | .shutdown ref alwaysAbort => discard (Act.shutdownChannel ref alwaysAbort)
  | .failOpen ref e => Act.modifyChannel ref (·.failOpen e)
  | .failClose ref e => Act.modifyChannel ref (·.failClose e)
  | .failCall ref e => Act.modifyChannel ref (·.failCall e)
  | .delay ref latency => Act.modifyChannel ref (·.delay latency)
  | .create => discard Act.create
  | .failNextOpen e => Act.failNextOpen e
  | .failCloses e => Act.failCloses e
  | .delayHandshakes latency => Act.delayHandshakes latency
  | .cancel token => Act.cancel token
  | .stamp => discard Act.stamp
  | .elapse time => modify fun n => { n with clock := n.clock + time }
  | .settleTies timerWins => modify fun n => { n with timerWins }

end Outside

namespace Stage

def isOver : Stage → Bool
  | .ended _ => true
  | .acquiring _ | .entering _ _ | .operating _ _ | .shutting _ | .disposing _ => false

def ofAcquire : Progress Acquiring (Except Channel.Error Nat) → Stage
  | .pending a => .acquiring a
  | .done result => .ended (.acquired result)

def ofShutdown : Progress Closing (Except Channel.Error Unit) → Stage
  | .pending s => .shutting s
  | .done result => .ended (.settled result)

def ofDispose : Progress Closing (Except Channel.Error Unit) → Act Stage
  | .pending s => return .disposing s
  | .done result => do
    Act.noteIgnored result
    return .ended .disposed

def enter (c : Nat) (token : Option String) :
    Progress Acquiring (Except Channel.Error Nat) → Act Stage
  | .pending a => return .entering token a
  | .done (.error e) => return .ended (.refused e)
  | .done (.ok id) => do return .operating (← (Invocation.start c id token).heed) true

def resume (c : Nat) : Stage → Act Stage
  | .acquiring a => do return ofAcquire (← Act.resumeAcquire c a)
  | .entering token a => do enter c token (← Act.resumeAcquire c a)
  | .operating i false => do return .operating (← i.heed) true
  | .operating i true => return .operating i true
  | .shutting s => do return ofShutdown (← Act.resumeShutdown s)
  | .disposing s => do ofDispose (← Act.resumeShutdown s)
  | .ended ending => return .ended ending

def suspend : Stage → Act Stage
  | .operating i _ => return .operating i false
  | stage => return stage

def conclude (outcome : Scenario.Outcome) : Stage → Act Stage
  | .operating i true => do
    i.finish outcome.isOk
    return .ended (.operated outcome)
  | stage => return stage

def abandon : Stage → Act Stage
  | .acquiring a | .entering _ a => do
    Act.abandonAcquire a
    return .ended .abandoned
  | .operating i _ => do
    i.abandon
    return .ended .abandoned
  | .shutting s | .disposing s => do
    Act.abandonShutdown s
    return .ended .abandoned
  | .ended ending => return .ended ending

end Stage

namespace Operation

def start (c : Nat) : Operation → Act Stage
  | .acquire => do return .ended (.acquired (← Act.acquire c))
  | .acquireAsync => do return .ofAcquire (← Act.startAcquire c)
  | .invoke => do Stage.enter c none (.done (← Act.acquire c))
  | .invokeAsync token => do Stage.enter c token (← Act.startAcquire c)
  | .invalidate id alwaysAbort => do return .ended (.settled (← Act.invalidate c id alwaysAbort))
  | .shutdown alwaysAbort => do return .ended (.settled (← Act.shutdown c alwaysAbort))
  | .shutdownAsync alwaysAbort => do return .ofShutdown (← Act.startShutdown c alwaysAbort)
  | .dispose => do
    Act.dispose c
    return .ended .disposed
  | .disposeAsync => do Stage.ofDispose (← Act.startShutdown c false)

end Operation

def sign (actor : Actor) (deeds : List Deed) : List Record := deeds.map (Record.mk actor)

namespace System

def start (address : String) : System := ⟨.start address, [], [], []⟩

def perform {α : Type} (s : System) (actor : Actor) (act : Act α) : α × System :=
  let (a, n) := act.run { s.network with history := [] }
  (a, { s with network := n, history := sign actor n.history ++ s.history })

def hasController (s : System) (c : Nat) : Bool :=
  c < s.network.controllers.length && !s.dropped.contains c

/-- A channel whose handle the controller may have given out was in its slot once. -/
def handedOut (s : System) (c id : Nat) : Bool := s.history.any (·.deed == .installed c id)

/-- Only handles that came from the controller can be invalidated. With a handle from elsewhere that
is no more than a shutdown of its channel, and `Outside` has it. -/
def admits (s : System) (c : Nat) : Operation → Bool
  | .invalidate id _ => s.handedOut c id
  | _ => true

def isIdle (s : System) (c : Nat) : Bool :=
  s.tasks.all fun task => task.controller != c || task.stage.isOver

def begin (s : System) (c : Nat) (op : Operation) : System :=
  if s.hasController c && s.admits c op then
    let (stage, s) := s.perform (.call c s.tasks.length) (op.start c)
    { s with tasks := s.tasks ++ [⟨c, stage⟩] }
  else s

def proceed (s : System) (k : Nat) (go : Nat → Stage → Act Stage) : System :=
  match s.tasks[k]? with
  | none => s
  | some task =>
    if task.stage.isOver then s
    else
      let (stage, s) := s.perform (.call task.controller k) (go task.controller task.stage)
      { s with tasks := s.tasks.set k { task with stage } }

/-- A controller is dropped when no call uses it any more, and disposes of its channel then. -/
def drop (s : System) (c : Nat) : System :=
  if s.hasController c && s.isIdle c then
    let s := s.begin c .dispose
    { s with dropped := c :: s.dropped }
  else s

def step (s : System) : Event → System
  | .newController => (s.perform .outside Act.addController).2
  | .begin c op => s.begin c op
  | .drop c => s.drop c
  | .resume k => s.proceed k Stage.resume
  | .suspend k => s.proceed k fun _ => Stage.suspend
  | .conclude k outcome => s.proceed k fun _ => Stage.conclude outcome
  | .abandon k => s.proceed k fun _ => Stage.abandon
  | .outside o => (s.perform .outside o.act).2

end System

def run (address : String) (events : List Event) : System :=
  events.foldl System.step (.start address)

end RemoteClient.Interleaving
