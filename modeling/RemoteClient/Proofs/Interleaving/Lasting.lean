import RemoteClient.Proofs.Interleaving.Frames
import RemoteClient.Proofs.Network.Running

namespace RemoteClient.Interleaving

/-- A relation that no call can break: it also allows for changed slots and new channels. -/
structure Lasting (R : Network → Network → Prop) : Prop extends Tolerant R where
  slots : ∀ n controllers, R n { n with controllers := controllers }
  retold : ∀ n history, R n { n with history := history }
  create : ∀ n, R n n.created

structure Calling (R : Network → Network → Prop) : Prop extends Working R where
  within_create : Within R Act.create
  within_take : ∀ c, Within R (Act.take c)
  within_takeStale : ∀ c, Within R (Act.takeStale c)
  within_install : ∀ c id, Within R (Act.install c id)
  within_detach : ∀ c id, Within R (Act.detach c id)

namespace Lasting

variable {R : Network → Network → Prop}

theorem within_putController (lasting : Lasting R) (c : Nat) (ctl : Controller) :
    Within R (Act.putController c ctl) := fun n => lasting.slots n _

theorem within_record (lasting : Lasting R) (deed : Deed) : Within R (Act.record deed) :=
  fun n => lasting.retold n _

theorem within_create (lasting : Lasting R) : Within R Act.create :=
  fun n => lasting.trans (lasting.create n) (lasting.retold _ _)

theorem within_take (lasting : Lasting R) (c : Nat) : Within R (Act.take c) := by
  apply lasting.working.within_bind (lasting.working.within_controller c)
  intro ctl
  cases ctl.slot with
  | none => exact lasting.working.within_pure none
  | some held =>
      apply lasting.working.within_bind (lasting.within_putController c _)
      intro _
      exact lasting.working.within_bind (lasting.within_record _) fun _ =>
        lasting.working.within_pure _

theorem within_takeStale (lasting : Lasting R) (c : Nat) : Within R (Act.takeStale c) := by
  apply lasting.working.within_bind (lasting.working.within_controller c)
  intro ctl
  cases ctl.slot with
  | none => exact lasting.working.within_pure none
  | some held =>
      apply lasting.working.within_bind (lasting.working.within_channel _)
      intro ch
      dsimp only
      split
      · exact lasting.working.within_pure none
      · apply lasting.working.within_bind (lasting.within_putController c _)
        intro _
        apply lasting.working.within_bind (lasting.within_record _)
        intro _
        exact lasting.working.within_bind (lasting.working.within_note _) fun _ =>
          lasting.working.within_pure _

theorem within_install (lasting : Lasting R) (c id : Nat) : Within R (Act.install c id) := by
  apply lasting.working.within_bind (lasting.working.within_controller c)
  intro ctl
  cases ctl.slot with
  | some held => exact lasting.working.within_pure _
  | none =>
      apply lasting.working.within_bind (lasting.working.within_note _)
      intro _
      apply lasting.working.within_bind (lasting.within_putController c _)
      intro _
      exact lasting.working.within_bind (lasting.within_record _) fun _ =>
        lasting.working.within_pure _

theorem within_detach (lasting : Lasting R) (c id : Nat) : Within R (Act.detach c id) := by
  apply lasting.working.within_bind (lasting.working.within_controller c)
  intro ctl
  cases ctl.slot with
  | none => exact lasting.working.within_pure _
  | some held =>
      dsimp only
      split
      · apply lasting.working.within_bind (lasting.working.within_note _)
        intro _
        exact lasting.working.within_bind (lasting.within_putController c _) fun _ =>
          lasting.within_record _
      · exact lasting.working.within_pure _

theorem within_call (lasting : Lasting R) (ref : ChannelRef) (method : String) :
    Within R (Act.call ref method) := by
  intro n
  let message := "channel " ++ toString (n.channel ref).id ++ " failing call " ++ method
  let noted : Network := { n with log := .trace "MEM" message :: n.log }
  have traced : R n noted := lasting.note n _
  have run : ((Act.call ref method).run n).2 =
      (if (n.channel ref).meetsCallError then noted else n).putChannel ref
        ((n.channel ref).call method).2 := by
    rw [Act.call, Act.run_channel]
    by_cases meets : (n.channel ref).meetsCallError
    · rw [if_pos meets, if_pos meets]
      rfl
    · rw [if_neg meets, if_neg meets]
      rfl
  rw [run]
  split
  · exact lasting.trans traced (lasting.work noted ref _ (.called method))
  · exact lasting.work n ref _ (.called method)

theorem calling (lasting : Lasting R) : Calling R where
  toWorking := lasting.working
  within_create := lasting.within_create
  within_take := lasting.within_take
  within_takeStale := lasting.within_takeStale
  within_install := lasting.within_install
  within_detach := lasting.within_detach

end Lasting

namespace Calling

variable {R : Network → Network → Prop}

theorem within_cached (calling : Calling R) (c : Nat) : Within R (Act.cached c) := calling.refl

theorem within_invalidate (calling : Calling R) (c id : Nat) (alwaysAbort : Bool) :
    Within R (Act.invalidate c id alwaysAbort) :=
  calling.within_bind (calling.within_detach c id) fun _ =>
    calling.within_shutdownChannel _ alwaysAbort

theorem within_shutdown (calling : Calling R) (c : Nat) (alwaysAbort : Bool) :
    Within R (Act.shutdown c alwaysAbort) := by
  apply calling.within_bind (calling.within_take c)
  intro found
  cases found with
  | none => exact calling.within_pure _
  | some id => exact calling.within_shutdownChannel _ alwaysAbort

theorem within_noteIgnored (calling : Calling R) (result : Except Channel.Error Unit) :
    Within R (Act.noteIgnored result) := by
  cases result with
  | ok => exact calling.within_pure _
  | error e => exact calling.within_note _

theorem within_noteLoserKept (calling : Calling R) (result : Except Channel.Error Unit) :
    Within R (Act.noteLoserKept result) := by
  cases result with
  | ok => exact calling.within_pure _
  | error e => exact calling.within_note _

theorem within_dispose (calling : Calling R) (c : Nat) : Within R (Act.dispose c) :=
  calling.within_bind (calling.within_shutdown c false) calling.within_noteIgnored

theorem within_discardStale (calling : Calling R) (c : Nat) : Within R (Act.discardStale c) := by
  apply calling.within_bind (calling.within_takeStale c)
  intro stale
  cases stale with
  | none => exact calling.within_pure _
  | some id => exact calling.within_shutdownChannel (.ofEndpoint id) false

theorem within_openFresh (calling : Calling R) (c : Nat) : Within R (Act.openFresh c) := by
  apply calling.within_bind calling.within_create
  intro id
  apply calling.within_bind (calling.within_openNow _)
  intro result
  cases result with
  | error e =>
      apply calling.within_bind (calling.within_note _)
      intro _
      exact calling.within_bind (calling.within_abort _) fun _ => calling.within_pure _
  | ok =>
      apply calling.within_bind (calling.within_install c id)
      intro outcome
      cases outcome with
      | won => exact calling.within_pure _
      | lostTo winner =>
          apply calling.within_bind (calling.within_shutdownChannel _ false)
          intro result
          exact calling.within_bind (calling.within_noteLoserKept result) fun _ =>
            calling.within_pure _

theorem within_reuseOrOpen (calling : Calling R) (c : Nat) : Within R (Act.reuseOrOpen c) := by
  apply calling.within_bind (calling.within_cached c)
  intro found
  cases found with
  | none => exact calling.within_openFresh c
  | some id => exact calling.within_pure _

theorem within_acquire (calling : Calling R) (c : Nat) : Within R (Act.acquire c) := by
  apply calling.within_bind (calling.within_discardStale c)
  intro result
  cases result with
  | error e => exact calling.within_pure _
  | ok => exact calling.within_reuseOrOpen c

theorem within_reuseOrCreate (calling : Calling R) (c : Nat) : Within R (Act.reuseOrCreate c) := by
  apply calling.within_bind (calling.within_cached c)
  intro found
  cases found with
  | none => exact calling.within_bind calling.within_create fun _ => calling.within_pure _
  | some id => exact calling.within_pure _

theorem within_settleStale (calling : Calling R) (c stale : Nat)
    (progress : Progress Handshake (Except Channel.Error Unit)) :
    Within R (Act.settleStale c stale progress) := by
  rcases progress with h | e | _
  · exact calling.within_pure _
  · exact calling.within_pure _
  · exact calling.within_reuseOrCreate c

theorem within_startAcquire (calling : Calling R) (c : Nat) : Within R (Act.startAcquire c) := by
  apply calling.within_bind (calling.within_takeStale c)
  intro stale
  cases stale with
  | none => exact calling.within_reuseOrCreate c
  | some id =>
      exact calling.within_bind (calling.within_startShutdownChannel _ false)
        (calling.within_settleStale c id)

theorem within_afterClose (calling : Calling R) (ref : ChannelRef)
    (result : Except Channel.Error Unit) :
    Within R (Act.afterClose ref result) := by
  cases result with
  | ok => exact calling.within_pure _
  | error e =>
      apply calling.within_bind (calling.within_abort ref)
      intro _
      dsimp only
      split <;> exact calling.within_bind (calling.within_note _) fun _ => calling.within_pure _

theorem within_resumeOpen (calling : Calling R) (ref : ChannelRef) (h : Handshake) :
    Within R (Act.resumeOpen ref h) := by
  apply calling.within_bind (calling.within_resume ref h)
  intro progress
  rcases progress with rest | e | _
  · exact calling.within_pure _
  · exact calling.within_pure _
  · exact calling.within_bind (calling.within_openNow ref) fun _ => calling.within_pure _

theorem within_resumeClose (calling : Calling R) (ref : ChannelRef) (h : Handshake) :
    Within R (Act.resumeClose ref h) := by
  apply calling.within_bind (calling.within_resume ref h)
  intro progress
  rcases progress with rest | e | _
  · exact calling.within_pure _
  · exact calling.within_pure _
  · exact calling.within_bind (calling.within_closeNow ref) fun _ => calling.within_pure _

theorem within_resumeShutdownChannel (calling : Calling R) (ref : ChannelRef) (h : Handshake) :
    Within R (Act.resumeShutdownChannel ref h) := by
  apply calling.within_bind (calling.within_resumeClose ref h)
  intro progress
  cases progress with
  | pending rest => exact calling.within_pure _
  | done result =>
      exact calling.within_bind (calling.within_afterClose ref result) fun _ =>
        calling.within_pure _

theorem within_abandonHandshake (calling : Calling R) (ref : ChannelRef) :
    Within R (Act.abandonHandshake ref) := by
  apply calling.within_bind (calling.within_channel ref)
  intro ch
  exact calling.within_bind (calling.within_note _) fun _ => calling.within_abort ref

theorem within_settleLoser (calling : Calling R) (winner loser : Nat)
    (progress : Progress Handshake (Except Channel.Error Unit)) :
    Within R (Act.settleLoser winner loser progress) := by
  cases progress with
  | pending h => exact calling.within_pure _
  | done result =>
      exact calling.within_bind (calling.within_noteLoserKept result) fun _ => calling.within_pure _

theorem within_settleOpened (calling : Calling R) (c fresh : Nat) :
    Within R (Act.settleOpened c fresh) := by
  apply calling.within_bind (calling.within_install c fresh)
  intro outcome
  cases outcome with
  | won => exact calling.within_pure _
  | lostTo winner =>
      exact calling.within_bind (calling.within_startShutdownChannel _ false)
        (calling.within_settleLoser winner fresh)

theorem within_resumeAcquire (calling : Calling R) (c : Nat) (a : Acquiring) :
    Within R (Act.resumeAcquire c a) := by
  cases a with
  | retiring stale h =>
      exact calling.within_bind (calling.within_resumeShutdownChannel _ h)
        (calling.within_settleStale c stale)
  | discarding winner loser h =>
      exact calling.within_bind (calling.within_resumeShutdownChannel _ h)
        (calling.within_settleLoser winner loser)
  | opening fresh h =>
      apply calling.within_bind (calling.within_resumeOpen _ h)
      intro progress
      rcases progress with rest | e | _
      · exact calling.within_pure _
      · apply calling.within_bind (calling.within_note _)
        intro _
        exact calling.within_bind (calling.within_abandonHandshake _) fun _ => calling.within_pure _
      · exact calling.within_settleOpened c fresh

theorem within_startShutdown (calling : Calling R) (c : Nat) (alwaysAbort : Bool) :
    Within R (Act.startShutdown c alwaysAbort) := by
  apply calling.within_bind (calling.within_take c)
  intro found
  cases found with
  | none => exact calling.within_pure _
  | some id =>
      exact calling.within_bind (calling.within_startShutdownChannel _ alwaysAbort) fun _ =>
        calling.within_pure _

theorem within_resumeShutdown (calling : Calling R) (s : Closing) :
    Within R (Act.resumeShutdown s) :=
  calling.within_bind (calling.within_resumeShutdownChannel _ s.handshake) fun _ =>
    calling.within_pure _

theorem within_fire (calling : Calling R) (i : Invocation) : Within R i.fire := by
  unfold Invocation.fire
  split
  · have invalidates : Within R (discard (Act.invalidate i.controller i.channel true)) :=
      calling.within_invalidate i.controller i.channel true
    exact calling.within_bind invalidates fun _ => calling.within_pure _
  · exact calling.within_pure _

theorem within_heed (calling : Calling R) (i : Invocation) : Within R i.heed := by
  unfold Invocation.heed
  split
  next => exact calling.within_pure _
  next token _ =>
    have asks : Within R (Act.isCancelled token) := calling.refl
    apply calling.within_bind asks
    intro cancelled
    split
    · apply calling.within_bind (calling.within_note _)
      intro _
      exact calling.within_bind (calling.within_fire i) fun _ => calling.within_pure _
    · exact calling.within_pure _

theorem within_finish (calling : Calling R) (i : Invocation) (succeeded : Bool) :
    Within R (i.finish succeeded) := by
  unfold Invocation.finish
  split
  · exact calling.within_pure _
  · exact calling.within_fire i

theorem within_ofDispose (calling : Calling R)
    (progress : Progress Closing (Except Channel.Error Unit)) :
    Within R (Stage.ofDispose progress) := by
  cases progress with
  | pending s => exact calling.within_pure _
  | done result =>
      exact calling.within_bind (calling.within_noteIgnored result) fun _ => calling.within_pure _

theorem within_enter (calling : Calling R) (c : Nat) (token : Option String)
    (progress : Progress Acquiring (Except Channel.Error Nat)) :
    Within R (Stage.enter c token progress) := by
  rcases progress with a | e | id
  · exact calling.within_pure _
  · exact calling.within_pure _
  · exact calling.within_bind (calling.within_heed _) fun _ => calling.within_pure _

theorem within_resumeStage (calling : Calling R) (c : Nat) (stage : Stage) :
    Within R (stage.resume c) := by
  cases stage with
  | acquiring a =>
      exact calling.within_bind (calling.within_resumeAcquire c a) fun _ => calling.within_pure _
  | entering token a =>
      exact calling.within_bind (calling.within_resumeAcquire c a) (calling.within_enter c token)
  | operating i polled =>
      cases polled with
      | false => exact calling.within_bind (calling.within_heed i) fun _ => calling.within_pure _
      | true => exact calling.within_pure _
  | shutting s =>
      exact calling.within_bind (calling.within_resumeShutdown s) fun _ => calling.within_pure _
  | disposing s =>
      exact calling.within_bind (calling.within_resumeShutdown s) calling.within_ofDispose
  | ended ending => exact calling.within_pure _

theorem within_suspend (calling : Calling R) (stage : Stage) : Within R stage.suspend := by
  cases stage <;> exact calling.within_pure _

theorem within_conclude (calling : Calling R) (outcome : Scenario.Outcome) (stage : Stage) :
    Within R (stage.conclude outcome) := by
  cases stage with
  | operating i polled =>
      cases polled with
      | false => exact calling.within_pure _
      | true => exact calling.within_bind (calling.within_finish i _) fun _ => calling.within_pure _
  | acquiring | entering | shutting | disposing | ended => exact calling.within_pure _

theorem within_abandon (calling : Calling R) (stage : Stage) : Within R stage.abandon := by
  cases stage with
  | acquiring a | entering token a =>
      exact calling.within_bind (calling.within_abandonHandshake _) fun _ => calling.within_pure _
  | operating i polled =>
      have fires : Within R i.abandon := calling.within_fire i
      exact calling.within_bind fires fun _ => calling.within_pure _
  | shutting s | disposing s =>
      exact calling.within_bind (calling.within_abandonHandshake _) fun _ => calling.within_pure _
  | ended ending => exact calling.within_pure _

theorem within_start (calling : Calling R) (c : Nat) (op : Operation) : Within R (op.start c) := by
  cases op with
  | acquire => exact calling.within_bind (calling.within_acquire c) fun _ => calling.within_pure _
  | acquireAsync =>
      exact calling.within_bind (calling.within_startAcquire c) fun _ => calling.within_pure _
  | invoke =>
      exact calling.within_bind (calling.within_acquire c) fun _ => calling.within_enter c none _
  | invokeAsync token =>
      exact calling.within_bind (calling.within_startAcquire c) (calling.within_enter c token)
  | invalidate id alwaysAbort =>
      exact calling.within_bind (calling.within_invalidate c id alwaysAbort) fun _ =>
        calling.within_pure _
  | shutdown alwaysAbort =>
      exact calling.within_bind (calling.within_shutdown c alwaysAbort) fun _ =>
        calling.within_pure _
  | shutdownAsync alwaysAbort =>
      exact calling.within_bind (calling.within_startShutdown c alwaysAbort) fun _ =>
        calling.within_pure _
  | dispose => exact calling.within_bind (calling.within_dispose c) fun _ => calling.within_pure _
  | disposeAsync =>
      exact calling.within_bind (calling.within_startShutdown c false) calling.within_ofDispose

end Calling

structure Everlasting (R : Network → Network → Prop) : Prop extends Lasting R where
  force : ∀ n ref state, R n (n.putChannel ref ((n.channel ref).force state))
  pending : ∀ n faults, R n { n with endpoint.pending := faults }
  cancel : ∀ n token, R n { n with cancelled := token :: n.cancelled }
  elapse : ∀ n clock, R n { n with clock := clock }
  settleTies : ∀ n timerWins, R n { n with timerWins := timerWins }

namespace Everlasting

variable {R : Network → Network → Prop}

theorem within_outside (lasting : Everlasting R) (o : Outside) : Within R o.act := by
  cases o with
  | force ref state =>
      intro n
      let message := "channel " ++ toString (n.channel ref).id ++ " forced to " ++ state.name
      let noted : Network := { n with log := .trace "MEM" message :: n.log }
      have traced : R n noted := lasting.note n _
      exact lasting.trans traced (lasting.force noted ref state)
  | «open» ref => exact lasting.within_openNow ref
  | close ref => exact lasting.within_closeNow ref
  | abort ref => exact lasting.within_abort ref
  | call ref method => exact lasting.within_call ref method
  | shutdown ref alwaysAbort => exact lasting.working.within_shutdownChannel ref alwaysAbort
  | failOpen ref e => exact fun n => lasting.work n ref _ (.failingOpen e)
  | failClose ref e => exact fun n => lasting.work n ref _ (.failingClose e)
  | failCall ref e => exact fun n => lasting.work n ref _ (.failingCall e)
  | delay ref latency => exact fun n => lasting.work n ref _ (.delayed latency)
  | create => exact lasting.within_create
  | failNextOpen | failCloses | delayHandshakes => exact fun n => lasting.pending n _
  | stamp => exact lasting.stamp
  | elapse time => exact fun n => lasting.elapse n _
  | settleTies timerWins => exact fun n => lasting.settleTies n timerWins
  | cancel token =>
      intro n
      change R n (if n.cancelled.contains token then n else _)
      split
      · exact lasting.refl n
      · exact lasting.cancel n token

end Everlasting

end RemoteClient.Interleaving
