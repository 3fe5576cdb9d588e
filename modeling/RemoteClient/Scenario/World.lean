import RemoteClient.Controller.Invocation
import RemoteClient.Scenario.Step

namespace RemoteClient.Scenario

/-- A panic unwinds through the operations around it until something contains it; from then on it
is a failure like any other. -/
inductive Failure where
  | channel (error : Channel.Error)
  | app (message : String)
  | elapsed
  | unwinding
  | panicked
  | noController
  | noChannel
  | noTask
  deriving DecidableEq, Repr

inductive Value where
  | nothing
  | flag (value : Bool)
  | count (value : Nat)
  | text (value : String)
  | channel (id : Nat)
  | given (value : Json)
  deriving Repr

abbrev Outcome := Except Failure Value

def isUnwinding : Outcome → Bool
  | .error .unwinding => true
  | _ => false

def contain : Outcome → Outcome
  | .error .unwinding => .error .panicked
  | outcome => outcome

inductive Report where
  | step (name : String) (outcome : Outcome)
  | task (name : String) (outcome : Outcome)

inductive Suspended where
  | opening (ref : ChannelRef) (h : Handshake)
  | closing (ref : ChannelRef) (h : Handshake)
  | calling (ref : ChannelRef) (call : Call)
  | shuttingChannel (ref : ChannelRef) (h : Handshake)
  | acquiring (c : Nat) (a : Acquiring)
  | shuttingDown (c : Nat) (s : Closing)
  | disposing (c : Nat) (s : Closing)
  | sleeping (deadline since : Nat)
  | entering (c : Nat) (token : Option String) (body : List Step) (ending : Ending) (a : Acquiring)
  | operating (i : Invocation) (since : Nat) (name : String) (inner : Suspended)
      (rest : List Step) (ending : Ending)
  | within (deadline since : Nat) (inner : Suspended)

inductive TaskState where
  | fresh (step : Step)
  | suspended (run : Suspended)
  | running
  | ended

structure Task where
  name : String
  state : TaskState

/-- A controller lives while its handle is kept or some step uses it. -/
structure Holder where
  kept : Bool
  uses : Nat
  deriving DecidableEq, Repr

/-- `issued` lists the channels whose handles were given out. Tasks are known by their position;
those that let others go first are `deferred` until none is ready. `mainReady` tells whether the
main step can go on. The reports are newest first. -/
structure World where
  network : Network
  holders : List Holder
  issued : List Nat
  tasks : List Task
  main : Option Suspended
  mainReady : Bool
  ready : List Nat
  deferred : List Nat
  reports : List Report

abbrev Play := StateM World

namespace Play

def onNetwork {α : Type} (act : Act α) : Play α :=
  modifyGet fun w => let (a, network) := act.run w.network; (a, { w with network })

instance : MonadLift Act Play := ⟨onNetwork⟩

def report (r : Report) : Play Unit := modify fun w => { w with reports := r :: w.reports }

def issue (id : Nat) : Play Unit := modify fun w => { w with issued := id :: w.issued }

def isIssued (id : Nat) : Play Bool := return (← get).issued.contains id

def hasController (c : Nat) : Play Bool := return ((← get).holders[c]?.map (·.kept)).getD false

def hadController (c : Nat) : Play Bool := return c < (← get).holders.length

def modifyHolder (c : Nat) (f : Holder → Holder) : Play Unit :=
  modify fun w => { w with holders := w.holders.modify c f }

def disposeUnused (c : Nat) : Play Unit := do
  match (← get).holders[c]? with
  | some h => if !h.kept && h.uses == 0 then Act.dispose c
  | none => return ()

def hold (c : Nat) : Play Unit := modifyHolder c fun h => { h with uses := h.uses + 1 }

def release (c : Nat) : Play Unit := do
  modifyHolder c fun h => { h with uses := h.uses - 1 }
  disposeUnused c

def dropHandle (c : Nat) : Play Unit := do
  if ← hasController c then
    modifyHolder c fun h => { h with kept := false }
    disposeUnused c

def addController : Play Nat := do
  modify fun w => { w with holders := w.holders ++ [⟨true, 0⟩] }
  Act.addController

end Play

end RemoteClient.Scenario
