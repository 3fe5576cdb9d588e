import RemoteClient.Json.Basic
import RemoteClient.Network.Basic

namespace RemoteClient.Scenario

/-- The channel a step acts on; `current` is the one of the operation body the step stands in. -/
inductive Target where
  | endpoint (id : Nat)
  | standalone (id : Nat)
  | current
  deriving DecidableEq, Repr

inductive ChannelAction where
  | state
  | open
  | close
  | abort
  | call (method : String)
  | force (state : Channel.State)
  | failOpen (error : Channel.Error)
  | failClose (error : Channel.Error)
  | failCall (error : Channel.Error)
  | delay (latency : Nat)
  | shutdown (alwaysAbort : Bool)
  | describe
  | sameAs (other : Nat)
  deriving DecidableEq, Repr

inductive ChannelWait where
  | open
  | close
  | call (method : String) (latency : Nat)
  | shutdown (alwaysAbort : Bool)
  deriving DecidableEq, Repr

inductive ControllerAction where
  | acquire
  | isCached
  | cached
  | shutdown (alwaysAbort : Bool)
  | dispose
  | describe
  | drop
  /-- A foreign handle leads to the same channel but is not the one the controller gave out. -/
  | invalidate (target : Target) (alwaysAbort foreign : Bool)
  deriving DecidableEq, Repr

inductive ControllerWait where
  | acquire
  | shutdown (alwaysAbort : Bool)
  | dispose
  deriving DecidableEq, Repr

inductive CallForm where
  | blocking
  | awaited
  | cancellable (token : String)
  deriving DecidableEq, Repr

inductive Ending where
  | asLastStep
  | succeed (value : Json)
  | failApp (message : String)
  | failChannel (error : Channel.Error)
  | panic
  deriving Repr

inductive Step where
  | failNextOpen (error : Channel.Error)
  | failCloses (error : Channel.Error)
  | delayHandshakes (latency : Nat)
  | create
  | address
  | channel (target : Target) (action : ChannelAction)
  | channelWait (target : Target) (wait : ChannelWait)
  | controller (c : Nat) (action : ControllerAction)
  | controllerWait (c : Nat) (wait : ControllerWait)
  | newController
  | invoke (c : Nat) (form : CallForm) (body : List Step) (ending : Ending)
  | sleep (time : Nat)
  | cancel (token : String)
  | spawn (task : String) (run : Step)
  | dropTask (task : String)
  | within (limit : Nat) (step : Step)
  deriving Repr

namespace ChannelAction

def name : ChannelAction → String
  | .state => "ch_state"
  | .open => "ch_open"
  | .close => "ch_close"
  | .abort => "ch_abort"
  | .call _ => "ch_call"
  | .force _ => "ch_set_state"
  | .failOpen _ => "ch_fail_open"
  | .failClose _ => "ch_fail_close"
  | .failCall _ => "ch_fail_call"
  | .delay _ => "ch_delay"
  | .shutdown _ => "ch_shutdown"
  | .describe => "ch_debug"
  | .sameAs _ => "ch_same"

end ChannelAction

namespace ChannelWait

def name : ChannelWait → String
  | .open => "ch_open_async"
  | .close => "ch_close_async"
  | .call _ _ => "ch_call_async"
  | .shutdown _ => "ch_shutdown_async"

end ChannelWait

namespace ControllerAction

def name : ControllerAction → String
  | .acquire => "acquire"
  | .isCached => "is_cached"
  | .cached => "cached"
  | .shutdown _ => "shutdown"
  | .dispose => "dispose"
  | .describe => "debug"
  | .drop => "drop"
  | .invalidate _ _ _ => "invalidate"

end ControllerAction

namespace ControllerWait

def name : ControllerWait → String
  | .acquire => "acquire_async"
  | .shutdown _ => "shutdown_async"
  | .dispose => "dispose_async"

end ControllerWait

namespace CallForm

def name : CallForm → String
  | .blocking => "invoke"
  | .awaited => "invoke_async"
  | .cancellable _ => "invoke_cancellable"

def token? : CallForm → Option String
  | .cancellable token => some token
  | .blocking | .awaited => none

end CallForm

namespace Step

def name : Step → String
  | .failNextOpen _ => "fail_next_open"
  | .failCloses _ => "fail_closes"
  | .delayHandshakes _ => "delay"
  | .create => "create"
  | .address => "address"
  | .channel _ action => action.name
  | .channelWait _ wait => wait.name
  | .controller _ action => action.name
  | .controllerWait _ wait => wait.name
  | .newController => "new_controller"
  | .invoke _ form _ _ => form.name
  | .sleep _ => "sleep"
  | .cancel _ => "cancel"
  | .spawn _ _ => "spawn"
  | .dropTask _ => "drop_task"
  | .within _ step => step.name

mutual

def size : Step → Nat
  | .invoke _ _ body _ => 1 + sizeAll body
  | .spawn _ run => 1 + run.size
  | .within _ step => 1 + step.size
  | _ => 1

def sizeAll : List Step → Nat
  | [] => 0
  | step :: rest => step.size + sizeAll rest

end

end Step

end RemoteClient.Scenario
