import RemoteClient.Proofs.Interleaving.Custody
import RemoteClient.Proofs.Network.Running

namespace RemoteClient

namespace Acquiring

open Interleaving

def hand : Acquiring → Hand
  | .retiring stale _ => .closing stale true
  | .opening fresh _ => .opening fresh
  | .discarding _ loser _ => .closing loser true

def retires : Acquiring → Bool
  | .retiring _ _ => true
  | .opening _ _ | .discarding _ _ _ => false

/-- The winner of a lost race was in the slot. No acquire has to wait for a stale channel. -/
def Backed (c : Nat) (l : Ledger) : Acquiring → Prop
  | .retiring _ _ => False
  | .opening _ _ => True
  | .discarding winner _ _ => l.Lodged c winner

theorem Backed.prompt {c : Nat} {l : Ledger} {a : Acquiring} (backed : a.Backed c l) :
    a.retires = false := by
  cases a with
  | retiring => exact backed.elim
  | opening | discarding => rfl

end Acquiring

namespace Interleaving

theorem quiet_noteIgnored (result : Except Channel.Error Unit) :
    Quiet (Act.noteIgnored result) := by
  cases result with
  | ok => exact quiet_pure ()
  | error e => exact quiet_note _

theorem quiet_noteLoserKept (result : Except Channel.Error Unit) :
    Quiet (Act.noteLoserKept result) := by
  cases result with
  | ok => exact quiet_pure ()
  | error e => exact quiet_note _

theorem quiet_noteOpenFailed (e : Channel.Error) : Quiet (Act.noteOpenFailed e) := quiet_note _

theorem quiet_wake (ref : ChannelRef) (deadline : Nat) : Quiet (Act.wake? ref deadline) :=
  quiet_bind quiet_get fun _ => quiet_pure _

theorem quiet_check (ref : ChannelRef) (deadline since : Nat) :
    Quiet (Handshake.check ref deadline since) := by
  apply quiet_bind (quiet_wake ref deadline)
  intro wake
  rcases wake with _ | _ | _ <;> exact quiet_pure _

theorem quiet_resume (ref : ChannelRef) (h : Handshake) : Quiet (h.resume ref) := by
  cases h with
  | turn =>
      apply quiet_bind (quiet_channel ref)
      intro ch
      dsimp only
      split
      · exact quiet_pure _
      · apply quiet_bind quiet_now
        intro now
        exact quiet_bind quiet_stamp fun since => quiet_check ref _ since
  | waiting deadline since => exact quiet_check ref deadline since

section

variable {c k id : Nat} {sole : Bool}

def shutting (id : Nat) (sole : Bool) :
    Progress Handshake (Except Channel.Error Unit) → Ledger → Hand → Prop
  | .pending _ => holds (.closing id sole)
  | .done _ => holds .empty

theorem abortAfterFailedClose_upholds (e : Channel.Error) :
    Upholds (.call c k) (holds (.closing id sole)) (Act.abortAfterFailedClose (.ofEndpoint id) e)
      fun _ => holds .empty := by
  apply upholds_bind abort_upholds
  intro _
  dsimp only
  split <;> exact upholds_after (quiet_note _) fun _ => upholds_pure _ _

theorem afterClose_upholds (result : Except Channel.Error Unit) :
    Upholds (.call c k) (closed id sole result) (Act.afterClose (.ofEndpoint id) result)
      fun _ => holds .empty := by
  cases result with
  | ok => exact upholds_release _
  | error e =>
      exact upholds_from (abortAfterFailedClose_upholds e) fun _ _ held => held.1

theorem shutdownChannel_upholds (alwaysAbort : Bool) :
    Upholds (.call c k) (holds (.closing id sole))
      (Act.shutdownChannel (.ofEndpoint id) alwaysAbort)
      fun _ => holds .empty := by
  apply upholds_after (quiet_channel _)
  intro ch
  split
  · exact upholds_bind abort_upholds fun _ => upholds_pure (fun _ => holds .empty) _
  · exact upholds_bind (record_tears (by simp [Deed.shuts]) (by simp [Deed.tearsDown])) fun _ =>
      upholds_pure (fun _ => holds .empty) _
  · exact upholds_bind closeNow_upholds afterClose_upholds

theorem startShutdownChannel_upholds (alwaysAbort : Bool) :
    Upholds (.call c k) (holds (.closing id sole))
      (Act.startShutdownChannel (.ofEndpoint id) alwaysAbort) (shutting id sole) := by
  apply upholds_after (quiet_channel _)
  intro ch
  split
  · exact upholds_bind abort_upholds fun _ => upholds_pure (shutting id sole) (.done _)
  · exact upholds_bind (record_tears (by simp [Deed.shuts]) (by simp [Deed.tearsDown])) fun _ =>
      upholds_pure (shutting id sole) (.done _)
  · exact upholds_pure (shutting id sole) (.pending _)

def awaitingOpen (id : Nat) : Progress Handshake (Except Channel.Error Unit) → Ledger → Hand → Prop
  | .pending _ => holds (.opening id)
  | .done result => opened id result

theorem resumeOpen_upholds (h : Handshake) :
    Upholds (.call c k) (holds (.opening id)) (Act.resumeOpen (.ofEndpoint id) h)
      (awaitingOpen id) := by
  apply upholds_after (quiet_resume _ h)
  intro progress
  rcases progress with rest | e | _
  · exact upholds_pure (awaitingOpen id) (.pending rest)
  · exact upholds_pure (awaitingOpen id) (.done (.error e))
  · exact upholds_bind (openNow_upholds id) fun result =>
      upholds_pure (awaitingOpen id) (.done result)

def awaitingClose (id : Nat) (sole : Bool) :
    Progress Handshake (Except Channel.Error Unit) → Ledger → Hand → Prop
  | .pending _ => holds (.closing id sole)
  | .done result => closed id sole result

theorem resumeClose_upholds (h : Handshake) :
    Upholds (.call c k) (holds (.closing id sole)) (Act.resumeClose (.ofEndpoint id) h)
      (awaitingClose id sole) := by
  apply upholds_after (quiet_resume _ h)
  intro progress
  rcases progress with rest | e | _
  · exact upholds_pure (awaitingClose id sole) (.pending rest)
  · exact upholds_return (awaitingClose id sole) (.done (.error e)) fun _ _ held =>
      ⟨held, fun done => by cases done⟩
  · exact upholds_bind closeNow_upholds fun result =>
      upholds_pure (awaitingClose id sole) (.done result)

theorem resumeShutdownChannel_upholds (h : Handshake) :
    Upholds (.call c k) (holds (.closing id sole)) (Act.resumeShutdownChannel (.ofEndpoint id) h)
      (shutting id sole) := by
  apply upholds_bind (resumeClose_upholds h)
  intro progress
  cases progress with
  | pending rest => exact upholds_pure (shutting id sole) (.pending rest)
  | done result =>
      exact upholds_bind (afterClose_upholds result) fun last =>
        upholds_pure (shutting id sole) (.done last)

theorem abandonHandshake_upholds :
    Upholds (.call c k) (holds (.closing id sole)) (Act.abandonHandshake (.ofEndpoint id))
      fun _ => holds .empty := by
  apply upholds_after (quiet_channel _)
  intro ch
  exact upholds_after (quiet_note _) fun _ => abort_upholds

end

section

variable {c k : Nat}

def acquired (c : Nat) (result : Except Channel.Error Nat) : Ledger → Hand → Prop :=
  fun l hand => hand = .empty ∧ ∀ id, result = .ok id → l.Lodged c id

def acquiring (c : Nat) : Progress Acquiring (Except Channel.Error Nat) → Ledger → Hand → Prop
  | .pending a => fun l hand => hand = a.hand ∧ a.Backed c l
  | .done result => acquired c result

theorem acquired_none {l : Ledger} {hand : Hand} (e : Channel.Error) (free : hand = .empty) :
    acquired c (.error e) l hand :=
  ⟨free, fun _ done => by cases done⟩

theorem acquired_some {l : Ledger} {hand : Hand} {id : Nat} (free : hand = .empty)
    (lodged : l.Lodged c id) : acquired c (.ok id) l hand := by
  refine ⟨free, fun other done => ?_⟩
  cases done
  exact lodged

theorem discardStale_upholds :
    Upholds (.call c k) (holds .empty) (discard (Act.discardStale c)) fun _ => holds .empty := by
  refine upholds_discard (upholds_bind takeStale_upholds ?_) fun _ _ _ done => done
  intro stale
  cases stale with
  | none => exact upholds_pure (fun _ => holds .empty) _
  | some id => exact shutdownChannel_upholds false

theorem openFresh_upholds :
    Upholds (.call c k) (holds .empty) (Act.openFresh c) (acquired c) := by
  apply upholds_bind create_upholds
  intro id
  apply upholds_bind (openNow_upholds id)
  intro result
  cases result with
  | error e =>
      apply upholds_after (quiet_noteOpenFailed e)
      intro _
      refine upholds_reject rfl (upholds_bind abort_upholds fun _ => ?_)
      exact upholds_return (acquired c) (.error e) fun _ _ held => acquired_none e held
  | ok =>
      apply upholds_bind install_upholds
      intro outcome
      cases outcome with
      | won =>
          exact upholds_return (acquired c) (.ok id) fun _ _ held => acquired_some held.1 held.2
      | lostTo winner =>
          have rejected : Upholds (.call c k) (holds (.ready id))
              (Act.shutdownChannel (.ofEndpoint id) false) fun _ => holds .empty :=
            upholds_reject rfl (shutdownChannel_upholds false)
          apply upholds_bind (upholds_lodged c winner rejected)
          intro result
          apply upholds_after (quiet_noteLoserKept result)
          intro _
          exact upholds_return (acquired c) (.ok winner) fun _ _ held => acquired_some held.1 held.2

theorem reuseOrOpen_upholds :
    Upholds (.call c k) (holds .empty) (Act.reuseOrOpen c) (acquired c) := by
  apply upholds_bind cached_upholds
  intro found
  cases found with
  | none => exact upholds_from openFresh_upholds fun _ _ held => held.2
  | some id =>
      exact upholds_return (acquired c) (.ok id) fun _ _ held =>
        acquired_some held.2 (held.1 id rfl)

theorem acquire_upholds :
    Upholds (.call c k) (holds .empty) (Act.acquire c) (acquired c) := by
  rw [Act.acquire_eq]
  exact upholds_bind discardStale_upholds fun _ => reuseOrOpen_upholds

theorem reuseOrCreate_upholds :
    Upholds (.call c k) (holds .empty) (Act.reuseOrCreate c) (acquiring c) := by
  apply upholds_bind cached_upholds
  intro found
  cases found with
  | none =>
      apply upholds_bind (upholds_from create_upholds fun _ _ held => held.2)
      intro id
      exact upholds_return (acquiring c) (.pending (.opening id .turn)) fun _ _ held =>
        ⟨held, trivial⟩
  | some id =>
      exact upholds_return (acquiring c) (.done (.ok id)) fun _ _ held =>
        acquired_some held.2 (held.1 id rfl)

theorem startAcquire_upholds :
    Upholds (.call c k) (holds .empty) (Act.startAcquire c) (acquiring c) := by
  rw [Act.startAcquire_eq]
  exact upholds_bind discardStale_upholds fun _ => reuseOrCreate_upholds

theorem settleLoser_upholds (winner loser : Nat)
    (progress : Progress Handshake (Except Channel.Error Unit)) :
    Upholds (.call c k) (fun l hand => shutting loser true progress l hand ∧ l.Lodged c winner)
      (Act.settleLoser winner loser progress) (acquiring c) := by
  cases progress with
  | pending h => exact upholds_pure (acquiring c) (.pending (.discarding winner loser h))
  | done result =>
      apply upholds_after (quiet_noteLoserKept result)
      intro _
      exact upholds_return (acquiring c) (.done (.ok winner)) fun _ _ held =>
        acquired_some held.1 held.2

theorem settleOpened_upholds (fresh : Nat) :
    Upholds (.call c k) (holds (.ready fresh)) (Act.settleOpened c fresh) (acquiring c) := by
  apply upholds_bind install_upholds
  intro outcome
  cases outcome with
  | won =>
      exact upholds_return (acquiring c) (.done (.ok fresh)) fun _ _ held =>
        acquired_some held.1 held.2
  | lostTo winner =>
      have rejected : Upholds (.call c k) (holds (.ready fresh))
          (Act.startShutdownChannel (.ofEndpoint fresh) false) (shutting fresh true) :=
        upholds_reject rfl (startShutdownChannel_upholds false)
      exact upholds_bind (upholds_lodged c winner rejected) fun progress =>
        settleLoser_upholds winner fresh progress

theorem resumeAcquire_upholds (a : Acquiring) :
    Upholds (.call c k) (fun l hand => hand = a.hand ∧ a.Backed c l) (Act.resumeAcquire c a)
      (acquiring c) := by
  cases a with
  | retiring stale h => exact fun _ _ _ _ _ held => held.2.elim
  | opening fresh h =>
      apply upholds_bind (upholds_from (resumeOpen_upholds h) fun _ _ held => held.1)
      intro progress
      rcases progress with rest | e | _
      · exact upholds_return (acquiring c) (.pending (.opening fresh rest)) fun _ _ held =>
          ⟨held, trivial⟩
      · apply upholds_after (quiet_noteOpenFailed e)
        intro _
        refine upholds_reject rfl (upholds_bind abandonHandshake_upholds fun _ => ?_)
        exact upholds_return (acquiring c) (.done (.error e)) fun _ _ held => acquired_none e held
      · exact settleOpened_upholds fresh
  | discarding winner loser h =>
      exact upholds_bind (upholds_lodged c winner (resumeShutdownChannel_upholds h)) fun progress =>
        settleLoser_upholds winner loser progress

theorem abandonAcquire_upholds (a : Acquiring) :
    Upholds (.call c k) (holds a.hand) (Act.abandonAcquire a) fun _ => holds .empty := by
  cases a with
  | opening fresh h => exact upholds_reject rfl abandonHandshake_upholds
  | retiring | discarding => exact abandonHandshake_upholds

def closing : Progress Closing (Except Channel.Error Unit) → Ledger → Hand → Prop
  | .pending s => holds (.closing s.channel true)
  | .done _ => holds .empty

theorem shutdown_upholds (alwaysAbort : Bool) :
    Upholds (.call c k) (holds .empty) (Act.shutdown c alwaysAbort) fun _ => holds .empty := by
  apply upholds_bind take_upholds
  intro found
  cases found with
  | none => exact upholds_pure (fun _ => holds .empty) _
  | some id => exact shutdownChannel_upholds alwaysAbort

theorem dispose_upholds :
    Upholds (.call c k) (holds .empty) (Act.dispose c) fun _ => holds .empty :=
  upholds_bind (shutdown_upholds false) fun result => upholds_quiet (quiet_noteIgnored result)

theorem closing_map {id : Nat} (progress : Progress Handshake (Except Channel.Error Unit))
    (l : Ledger) (hand : Hand) (held : shutting id true progress l hand) :
    closing (progress.map (⟨id, ·⟩)) l hand := by
  cases progress <;> exact held

theorem startShutdown_upholds (alwaysAbort : Bool) :
    Upholds (.call c k) (holds .empty) (Act.startShutdown c alwaysAbort) closing := by
  apply upholds_bind take_upholds
  intro found
  cases found with
  | none => exact upholds_pure closing (.done (.ok ()))
  | some id =>
      apply upholds_bind (startShutdownChannel_upholds alwaysAbort)
      intro progress
      exact upholds_return closing (progress.map (⟨id, ·⟩)) (closing_map progress)

theorem resumeShutdown_upholds (s : Closing) :
    Upholds (.call c k) (holds (.closing s.channel true)) (Act.resumeShutdown s) closing := by
  apply upholds_bind (resumeShutdownChannel_upholds s.handshake)
  intro progress
  exact upholds_return closing (progress.map (⟨s.channel, ·⟩)) (closing_map progress)

theorem abandonShutdown_upholds (s : Closing) :
    Upholds (.call c k) (holds (.closing s.channel true)) (Act.abandonShutdown s)
      fun _ => holds .empty :=
  abandonHandshake_upholds

theorem invalidate_upholds (id : Nat) (alwaysAbort : Bool) :
    Upholds (.call c k) (fun l hand => hand = .empty ∧ l.Lodged c id)
      (Act.invalidate c id alwaysAbort)
      fun _ => holds .empty := by
  apply upholds_bind detach_upholds
  intro _
  exact upholds_exists fun sole => shutdownChannel_upholds alwaysAbort

def operates (c : Nat) (i : Invocation) : Ledger → Hand → Prop :=
  fun l hand => hand = .empty ∧ i.controller = c ∧ l.Lodged c i.channel

theorem fire_upholds (i : Invocation) :
    Upholds (.call c k) (operates c i) i.fire (operates c) := by
  unfold Invocation.fire
  split
  · intro past n hands st known held
    obtain ⟨free, rfl, lodged⟩ := held
    have torn : Upholds (.call i.controller k)
        (fun l hand => hand = .empty ∧ l.Lodged i.controller i.channel)
        (discard (Act.invalidate i.controller i.channel true)) fun _ => holds .empty :=
      upholds_discard (invalidate_upholds i.channel true) fun _ _ _ done => done
    have fired := upholds_bind (upholds_lodged i.controller i.channel torn) fun _ =>
      upholds_return (operates i.controller) { i with armed := false } fun _ _ held =>
        ⟨held.1, rfl, held.2⟩
    exact fired past n hands st known ⟨⟨free, lodged⟩, lodged⟩
  · exact upholds_return (operates c) { i with armed := false } fun _ _ held => held

theorem heed_upholds (i : Invocation) :
    Upholds (.call c k) (operates c i) i.heed (operates c) := by
  unfold Invocation.heed
  split
  · exact upholds_pure (operates c) i
  · apply upholds_after (quiet_isCancelled _)
    intro cancelled
    split
    · apply upholds_after (quiet_note _)
      intro _
      apply upholds_bind (fire_upholds i)
      intro fired
      exact upholds_return (operates c) { fired with token := none } fun _ _ held => held
    · exact upholds_pure (operates c) i

theorem finish_upholds (i : Invocation) (succeeded : Bool) :
    Upholds (.call c k) (operates c i) (i.finish succeeded) fun _ => holds .empty := by
  unfold Invocation.finish
  split
  · exact upholds_return _ () fun _ _ held => held.1
  · exact upholds_discard (fire_upholds i) fun _ _ _ held => held.1

theorem abandon_upholds (i : Invocation) :
    Upholds (.call c k) (operates c i) i.abandon fun _ => holds .empty :=
  upholds_discard (fire_upholds i) fun _ _ _ held => held.1

end

end Interleaving

end RemoteClient
