import RemoteClient.Scenario.Suspended

namespace RemoteClient.Scenario

def ofUnit : Except Channel.Error Unit → Outcome
  | .ok () => .ok .nothing
  | .error e => .error (.channel e)

def ofReply : Except Channel.Error String → Outcome
  | .ok reply => .ok (.text reply)
  | .error e => .error (.channel e)

namespace Ending

def apply (last : Outcome) : Ending → Outcome
  | .asLastStep => last
  | .succeed value => .ok (.given value)
  | .failApp message => .error (.app message)
  | .failChannel e => .error (.channel e)
  | .panic => .error .unwinding

end Ending

namespace Play

def channelExists (id : Nat) : Play Bool := return ((← get).network.endpoint.find? id).isSome

def resolve (here : Option Nat) : Target → Play (Option ChannelRef)
  | .endpoint id => do
    if ← channelExists id then return some (.ofEndpoint id) else return none
  | .standalone id => do
    Act.modifyChannel (.standalone id) fun ch => ch
    return some (.standalone id)
  | .current => return here.map .ofEndpoint

def finished (outcome : Outcome) : Play (Progress Suspended Outcome) := return .done outcome

def succeed (value : Value) : Play Outcome := return .ok value

def fail (failure : Failure) : Play (Progress Suspended Outcome) := finished (.error failure)

def actOnChannel (ref : ChannelRef) : ChannelAction → Play Outcome
  | .state => do succeed (.text (← Act.channel ref).state.name)
  | .open => return ofUnit (← Act.openNow ref)
  | .close => return ofUnit (← Act.closeNow ref)
  | .abort => do
    Act.abort ref
    succeed .nothing
  | .call method => return ofReply (← Act.call ref method)
  | .force state => do
    Act.force ref state
    succeed .nothing
  | .failOpen e => do
    Act.modifyChannel ref (·.failOpen e)
    succeed .nothing
  | .failClose e => do
    Act.modifyChannel ref (·.failClose e)
    succeed .nothing
  | .failCall e => do
    Act.modifyChannel ref (·.failCall e)
    succeed .nothing
  | .delay latency => do
    Act.modifyChannel ref (·.delay latency)
    succeed .nothing
  | .shutdown alwaysAbort => return ofUnit (← Act.shutdownChannel ref alwaysAbort)
  | .describe => do succeed (.text (← Act.channel ref).summary)
  | .sameAs other => do
    if ← channelExists other then succeed (.flag (decide (ref = .ofEndpoint other)))
    else return .error .noChannel

def startChannelWait (ref : ChannelRef) : ChannelWait → Play (Progress Suspended Outcome)
  | .open => return .pending (.opening ref .turn)
  | .close => return .pending (.closing ref .turn)
  | .call method latency => do
    match ← Call.start ref method latency with
    | .pending call => return .pending (.calling ref call)
    | .done result => finished (ofReply result)
  | .shutdown alwaysAbort => do
    match ← Act.startShutdownChannel ref alwaysAbort with
    | .pending h => return .pending (.shuttingChannel ref h)
    | .done result => finished (ofUnit result)

def given (id : Nat) : Play Outcome := do
  issue id
  succeed (.channel id)

def afterAcquire : Except Channel.Error Nat → Play Outcome
  | .ok id => given id
  | .error e => return .error (.channel e)

def invalidate (c : Nat) (ref : ChannelRef) (alwaysAbort foreign : Bool) : Play Outcome := do
  match ref with
  | .ofEndpoint id =>
    if !foreign && (← isIssued id) then return ofUnit (← Act.invalidate c id alwaysAbort)
    else return ofUnit (← Act.shutdownChannel ref alwaysAbort)
  | .standalone _ => return ofUnit (← Act.shutdownChannel ref alwaysAbort)

def actOnController (here : Option Nat) (c : Nat) : ControllerAction → Play Outcome
  | .acquire => do afterAcquire (← Act.acquire c)
  | .isCached => do succeed (.flag (← Act.controller c).isCached)
  | .cached => do
    match ← Act.cached c with
    | some id => given id
    | none => succeed .nothing
  | .shutdown alwaysAbort => return ofUnit (← Act.shutdown c alwaysAbort)
  | .dispose => do
    Act.dispose c
    succeed .nothing
  | .describe => do succeed (.text (← Act.describeController c))
  | .drop => do
    dropHandle c
    succeed .nothing
  | .invalidate target alwaysAbort foreign => do
    match ← resolve here target with
    | some ref => invalidate c ref alwaysAbort foreign
    | none => return .error .noChannel

def endUse (c : Nat) (outcome : Outcome) : Play (Progress Suspended Outcome) := do
  release c
  finished outcome

def settleAcquire (c : Nat) :
    Progress Acquiring (Except Channel.Error Nat) → Play (Progress Suspended Outcome)
  | .pending a => return .pending (.acquiring c a)
  | .done result => do endUse c (← afterAcquire result)

def settleShutdown (c : Nat) :
    Progress Closing (Except Channel.Error Unit) → Play (Progress Suspended Outcome)
  | .pending s => return .pending (.shuttingDown c s)
  | .done result => endUse c (ofUnit result)

def settleDispose (c : Nat) :
    Progress Closing (Except Channel.Error Unit) → Play (Progress Suspended Outcome)
  | .pending s => return .pending (.disposing c s)
  | .done result => do
    Act.noteIgnored result
    endUse c (.ok .nothing)

def startControllerWait (c : Nat) : ControllerWait → Play (Progress Suspended Outcome)
  | .acquire => do
    hold c
    settleAcquire c (← Act.startAcquire c)
  | .shutdown alwaysAbort => do
    hold c
    settleShutdown c (← Act.startShutdown c alwaysAbort)
  | .dispose => do
    hold c
    settleDispose c (← Act.startShutdown c false)

def conclude (i : Invocation) (ending : Ending) (last : Outcome) :
    Play (Progress Suspended Outcome) := do
  let outcome := if isUnwinding last then last else ending.apply last
  i.finish outcome.isOk
  endUse i.controller outcome

def expire (deadline since : Nat) (inner : Suspended) : Play (Progress Suspended Outcome) := do
  if deadline ≤ (← Act.now) then
    inner.abandon
    fail .elapsed
  else return .pending (.within deadline since inner)

def sleepUntil (deadline since : Nat) : Play (Progress Suspended Outcome) := do
  if deadline ≤ (← Act.now) then finished (.ok .nothing)
  else return .pending (.sleeping deadline since)

def dropTask (name : String) : Play Outcome := do
  let w ← get
  match (List.range w.tasks.length).reverse.find? fun k =>
    (w.tasks[k]?.map (·.name)) == some name with
  | none => return .error .noTask
  | some k =>
    set { w with tasks := w.tasks.modify k fun task => { task with state := .ended } }
    match w.tasks[k]? with
    | some ⟨_, .suspended run⟩ => run.abandon
    | _ => pure ()
    succeed .nothing

def spawn (name : String) (step : Step) : Play Outcome := do
  modify fun w =>
    { w with tasks := w.tasks ++ [⟨name, .fresh step⟩], ready := w.ready ++ [w.tasks.length] }
  succeed .nothing

end Play

namespace CallForm

/-- A blocking call contains the panic of its operation. -/
def settle : CallForm → Progress Suspended Outcome → Progress Suspended Outcome
  | .blocking, .done outcome => .done (contain outcome)
  | _, progress => progress

end CallForm

namespace Play

def beginCall (c : Nat) : CallForm → Act (Progress Acquiring (Except Channel.Error Nat))
  | .blocking => return .done (← Act.acquire c)
  | .awaited | .cancellable _ => Act.startAcquire c

end Play

/-- How far an operation body got: it waits in the step `name`, with `rest` still to come. -/
structure Halt where
  name : String
  inner : Suspended
  rest : List Step

namespace Play

def settleBody (i : Invocation) (since : Nat) (ending : Ending) :
    Progress Halt Outcome → Play (Progress Suspended Outcome)
  | .pending halt => return .pending (.operating i since halt.name halt.inner halt.rest ending)
  | .done last => conclude i ending last

def enter (c : Nat) (token : Option String) (body : List Step) (ending : Ending)
    (run : Nat → Play (Progress Halt Outcome)) :
    Progress Acquiring (Except Channel.Error Nat) → Play (Progress Suspended Outcome)
  | .pending a => return .pending (.entering c token body ending a)
  | .done (.error e) => endUse c (.error (.channel e))
  | .done (.ok id) => do
    let since ← Act.stamp
    let i ← (Invocation.start c id token).heed
    settleBody i since ending (← run id)

end Play

namespace Step

mutual

/-- Runs a step until it is done or has to wait. `here` is the channel of the operation body. -/
def start (here : Option Nat) : Step → Play (Progress Suspended Outcome)
  | .failNextOpen e => do
    Act.failNextOpen e
    Play.finished (.ok .nothing)
  | .failCloses e => do
    Act.failCloses e
    Play.finished (.ok .nothing)
  | .delayHandshakes latency => do
    Act.delayHandshakes latency
    Play.finished (.ok .nothing)
  | .create => do Play.finished (.ok (.channel (← Act.create)))
  | .address => do Play.finished (.ok (.text (← get).network.endpoint.address))
  | .channel target action => do
    match ← Play.resolve here target with
    | some ref => Play.finished (← Play.actOnChannel ref action)
    | none => Play.fail .noChannel
  | .channelWait target wait => do
    match ← Play.resolve here target with
    | some ref => Play.startChannelWait ref wait
    | none => Play.fail .noChannel
  | .controller c .drop => do
    if ← Play.hadController c then Play.finished (← Play.actOnController here c .drop)
    else Play.fail .noController
  | .controller c action => do
    if ← Play.hasController c then Play.finished (← Play.actOnController here c action)
    else Play.fail .noController
  | .controllerWait c wait => do
    if ← Play.hasController c then Play.startControllerWait c wait
    else Play.fail .noController
  | .newController => do Play.finished (.ok (.count (← Play.addController)))
  | .invoke c form body ending => do
    if ← Play.hasController c then
      Play.hold c
      let acquired ← Play.beginCall c form
      return form.settle (← Play.enter c form.token? body ending
        (fun id => startAll id (.ok .nothing) body) acquired)
    else Play.fail .noController
  | .sleep time => do
    let now ← Act.now
    Play.sleepUntil (now + time) (← Act.stamp)
  | .cancel token => do
    Act.cancel token
    Play.finished (.ok .nothing)
  | .spawn name run => do Play.finished (← Play.spawn name run)
  | .dropTask name => do Play.finished (← Play.dropTask name)
  | .within limit step => do
    let now ← Act.now
    match ← step.start here with
    | .done outcome => Play.finished outcome
    | .pending inner => Play.expire (now + limit) (← Act.stamp) inner

/-- Runs the steps of an operation body; a step that fails does not stop it. -/
def startAll (channel : Nat) (last : Outcome) : List Step → Play (Progress Halt Outcome)
  | [] => return .done last
  | step :: rest => do
    match ← step.start (some channel) with
    | .pending inner => return .pending ⟨step.name, inner, rest⟩
    | .done outcome =>
      if isUnwinding outcome then return .done outcome
      Play.report (.step step.name outcome)
      startAll channel outcome rest

end

end Step

namespace Suspended

def resume : Suspended → Play (Progress Suspended Outcome)
  | .opening ref h => do
    match ← Act.resumeOpen ref h with
    | .pending h => return .pending (.opening ref h)
    | .done result => Play.finished (ofUnit result)
  | .closing ref h => do
    match ← Act.resumeClose ref h with
    | .pending h => return .pending (.closing ref h)
    | .done result => Play.finished (ofUnit result)
  | .calling ref call => do
    match ← call.check ref with
    | .pending call => return .pending (.calling ref call)
    | .done result => Play.finished (ofReply result)
  | .shuttingChannel ref h => do
    match ← Act.resumeShutdownChannel ref h with
    | .pending h => return .pending (.shuttingChannel ref h)
    | .done result => Play.finished (ofUnit result)
  | .acquiring c a => do Play.settleAcquire c (← Act.resumeAcquire c a)
  | .shuttingDown c s => do Play.settleShutdown c (← Act.resumeShutdown s)
  | .disposing c s => do Play.settleDispose c (← Act.resumeShutdown s)
  | .sleeping deadline since => Play.sleepUntil deadline since
  | .entering c token body ending a => do
    Play.enter c token body ending (fun id => Step.startAll id (.ok .nothing) body)
      (← Act.resumeAcquire c a)
  | .operating i since name inner rest ending => do
    let i ← i.heed
    match ← inner.resume with
    | .pending inner => return .pending (.operating i since name inner rest ending)
    | .done outcome =>
      if isUnwinding outcome then Play.conclude i ending outcome
      else
        Play.report (.step name outcome)
        Play.settleBody i since ending (← Step.startAll i.channel outcome rest)
  | .within deadline since inner => do
    match ← inner.resume with
    | .done outcome => Play.finished outcome
    | .pending inner => Play.expire deadline since inner

end Suspended

end RemoteClient.Scenario
