import RemoteClient.Proofs.Interleaving.Ledger
import RemoteClient.Proofs.Network.Running
import RemoteClient.Proofs.Network.Work
import Mathlib.Data.List.Infix

namespace RemoteClient.Interleaving

def Within {α : Type} (R : Network → Network → Prop) (act : Act α) : Prop := ∀ n, R n (act.run n).2

/-- A relation that holds of any two networks of which one comes from the other by work on
channels. -/
structure Tolerant (R : Network → Network → Prop) : Prop where
  refl : ∀ n, R n n
  trans : ∀ {a b c : Network}, R a b → R b c → R a c
  note : ∀ n event, R n { n with log := event :: n.log }
  stamp : ∀ n, R n { n with waits := n.waits + 1 }
  record : ∀ n deed, deed.isPlain → R n { n with history := deed :: n.history }
  work : ∀ n ref ch, (n.channel ref).Worked ch → R n (n.putChannel ref ch)

/-- A relation that nothing breaks that a call does to a channel, to open it or to shut it down. -/
structure Working (R : Network → Network → Prop) : Prop where
  refl : ∀ n, R n n
  trans : ∀ {a b c : Network}, R a b → R b c → R a c
  note : ∀ n event, R n { n with log := event :: n.log }
  stamp : ∀ n, R n { n with waits := n.waits + 1 }
  spare : ∀ n ref, (n.channel ref).state = .closed →
    R n { n with history := .spared ref :: n.history }
  within_openNow : ∀ ref, Within R (Act.openNow ref)
  within_closeNow : ∀ ref, Within R (Act.closeNow ref)
  within_abort : ∀ ref, Within R (Act.abort ref)

def sameSlots (n m : Network) : Prop := m.controllers = n.controllers

def remembers (n m : Network) : Prop := n.history <:+ m.history

theorem sameSlots_tolerant : Tolerant sameSlots where
  refl _ := rfl
  trans first second := Eq.trans second first
  note _ _ := rfl
  stamp _ := rfl
  record _ _ _ := rfl
  work _ ref _ _ := by cases ref <;> rfl

theorem remembers_tolerant : Tolerant remembers where
  refl _ := List.suffix_rfl
  trans := List.IsSuffix.trans
  note _ _ := List.suffix_rfl
  stamp _ := List.suffix_rfl
  record _ deed _ := List.suffix_cons deed _
  work _ ref _ _ := by cases ref <;> exact List.suffix_rfl

namespace Tolerant

variable {R : Network → Network → Prop} {α β : Type}

theorem within_work (tolerant : Tolerant R) {ref : ChannelRef} {message : Channel → String}
    {work : Channel → α × Channel} {deed : α → Deed} (worked : ∀ ch, Channel.Worked ch (work ch).2)
    (plain : ∀ a, (deed a).isPlain) :
    Within R (do
      let ch ← Act.channel ref
      Act.trace (message ch)
      let (a, ch) := work ch
      Act.putChannel ref ch
      Act.record (deed a)
      return a) := by
  intro n
  let noted : Network := { n with log := .trace "MEM" (message (n.channel ref)) :: n.log }
  have traced : R n noted := tolerant.note n _
  have put := tolerant.work noted ref _ (worked (noted.channel ref))
  exact tolerant.trans (tolerant.trans traced put) (tolerant.record _ _ (plain _))

theorem within_openNow (tolerant : Tolerant R) (ref : ChannelRef) : Within R (Act.openNow ref) :=
  tolerant.within_work (fun _ => .opened) (Deed.ofOpen_plain ref)

theorem within_closeNow (tolerant : Tolerant R) (ref : ChannelRef) : Within R (Act.closeNow ref) :=
  tolerant.within_work (fun _ => .closed) (Deed.ofClose_plain ref)

theorem within_abort (tolerant : Tolerant R) (ref : ChannelRef) : Within R (Act.abort ref) := by
  intro n
  let noted : Network :=
    { n with log := .trace "MEM" ("→ abort channel " ++ toString (n.channel ref).id) :: n.log }
  have traced : R n noted := tolerant.note n _
  have put : R noted (noted.putChannel ref (noted.channel ref).abort) :=
    tolerant.work noted ref _ .aborted
  exact tolerant.trans (tolerant.trans traced put) (tolerant.record _ (.aborted ref) rfl)

theorem working (tolerant : Tolerant R) : Working R where
  refl := tolerant.refl
  trans := tolerant.trans
  note := tolerant.note
  stamp := tolerant.stamp
  spare n ref _ := tolerant.record n (.spared ref) rfl
  within_openNow := tolerant.within_openNow
  within_closeNow := tolerant.within_closeNow
  within_abort := tolerant.within_abort

end Tolerant

theorem sameSlots_working : Working sameSlots := sameSlots_tolerant.working

theorem remembers_working : Working remembers := remembers_tolerant.working

namespace Working

variable {R : Network → Network → Prop} {α β : Type}

theorem within_pure (working : Working R) (a : α) : Within R (pure a : Act α) := working.refl

theorem within_bind (working : Working R) {act : Act α} {f : α → Act β} (first : Within R act)
    (second : ∀ a, Within R (f a)) : Within R (act >>= f) :=
  fun n => working.trans (first n) (second _ _)

theorem within_channel (working : Working R) (ref : ChannelRef) : Within R (Act.channel ref) :=
  working.refl

theorem within_note (working : Working R) (event : Log.Event) : Within R (Act.note event) :=
  fun n => working.note n event

theorem within_controller (working : Working R) (c : Nat) : Within R (Act.controller c) :=
  working.refl

theorem within_nothing (working : Working R) {n : Network} {ref : ChannelRef} {alwaysAbort : Bool}
    (action : Channel.ShutdownAction.choose (n.channel ref).state alwaysAbort = .nothing) :
    R n { n with history := .spared ref :: n.history } :=
  working.spare n ref (Channel.ShutdownAction.choose_nothing action).1

theorem within_afterClose (working : Working R) (ref : ChannelRef)
    (result : Except Channel.Error Unit) :
    Within R (Act.afterClose ref result) := by
  cases result with
  | ok => exact working.within_pure _
  | error e =>
      refine working.within_bind (working.within_abort ref) fun _ => ?_
      dsimp only
      split <;> exact working.within_bind (fun n => working.note n _) fun _ => working.within_pure _

theorem within_shutdownChannel (working : Working R) (ref : ChannelRef) (alwaysAbort : Bool) :
    Within R (Act.shutdownChannel ref alwaysAbort) := by
  intro n
  rw [Act.shutdownChannel, Act.run_channel]
  cases action : Channel.ShutdownAction.choose (n.channel ref).state alwaysAbort with
  | abort => exact working.within_bind (working.within_abort ref) (fun _ => working.within_pure _) n
  | nothing => exact working.within_nothing action
  | close =>
      exact working.within_bind (working.within_closeNow ref) (working.within_afterClose ref) n

theorem within_startShutdownChannel (working : Working R) (ref : ChannelRef) (alwaysAbort : Bool) :
    Within R (Act.startShutdownChannel ref alwaysAbort) := by
  intro n
  rw [Act.startShutdownChannel, Act.run_channel]
  cases action : Channel.ShutdownAction.choose (n.channel ref).state alwaysAbort with
  | abort => exact working.within_bind (working.within_abort ref) (fun _ => working.within_pure _) n
  | nothing => exact working.within_nothing action
  | close => exact working.within_pure _ n

theorem within_check (working : Working R) (ref : ChannelRef) (deadline since : Nat) :
    Within R (Handshake.check ref deadline since) := by
  refine working.within_bind (fun n => working.refl n) fun wake => ?_
  rcases wake with _ | _ | _ <;> exact working.within_pure _

theorem within_resume (working : Working R) (ref : ChannelRef) (h : Handshake) :
    Within R (h.resume ref) := by
  cases h with
  | turn =>
      refine working.within_bind (working.within_channel ref) fun ch => ?_
      dsimp only
      split
      · exact working.within_pure _
      · refine working.within_bind (fun n => working.refl n) fun now => ?_
        exact working.within_bind (fun n => working.stamp n) fun since =>
          working.within_check ref _ since
  | waiting deadline since => exact working.within_check ref deadline since

end Working

end RemoteClient.Interleaving
