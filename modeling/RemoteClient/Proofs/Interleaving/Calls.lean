import RemoteClient.Proofs.Interleaving.Frames
import RemoteClient.Proofs.Interleaving.Operations

namespace RemoteClient.Interleaving

namespace Stage

def hand : Stage → Hand
  | .acquiring a | .entering _ a => a.hand
  | .shutting s | .disposing s => .closing s.channel true
  | .operating _ _ | .ended _ => .empty

def Backed (c : Nat) (l : Ledger) : Stage → Prop
  | .acquiring a | .entering _ a => a.Backed c l
  | .operating i _ => i.controller = c ∧ l.Lodged c i.channel
  | .shutting _ | .disposing _ | .ended _ => True

def retires : Stage → Bool
  | .acquiring a | .entering _ a => a.retires
  | .operating _ _ | .shutting _ | .disposing _ | .ended _ => false

theorem Backed.prompt {c : Nat} {l : Ledger} {stage : Stage} (backed : stage.Backed c l) :
    stage.retires = false := by
  cases stage with
  | acquiring a | entering token a => exact Acquiring.Backed.prompt backed
  | operating | shutting | disposing | ended => rfl

theorem backed_moves {c : Nat} {stage : Stage} {actor : Actor} {before after : Ledger × Hand}
    (backed : stage.Backed c before.1) (moves : Moves actor before after) :
    stage.Backed c after.1 := by
  cases stage with
  | acquiring a | entering token a =>
      cases a with
      | retiring => exact backed
      | opening => trivial
      | discarding => exact Ledger.lodged_moves backed moves
  | operating i polled => exact ⟨backed.1, Ledger.lodged_moves backed.2 moves⟩
  | shutting | disposing | ended => trivial

def opens? : Stage → Option Nat
  | .acquiring (.opening id _) | .entering _ (.opening id _) => some id
  | _ => none

def closes? : Stage → Option Nat
  | .acquiring (.retiring id _) | .entering _ (.retiring id _)
  | .acquiring (.discarding _ id _) | .entering _ (.discarding _ id _) => some id
  | .shutting s | .disposing s => some s.channel
  | _ => none

theorem own_cases {stage : Stage} {id : Nat} (own : stage.hand.own? = some id) :
    stage.opens? = some id ∨ stage.closes? = some id := by
  rcases stage with ⟨_ | _ | _⟩ | ⟨_, _ | _ | _⟩ | _ | _ | _ | _ <;>
    simp_all [hand, Acquiring.hand, Hand.own?, opens?, closes?]

theorem opens_hand {stage : Stage} {id : Nat} (opens : stage.opens? = some id) :
    stage.hand = .opening id := by
  rcases stage with ⟨_ | _ | _⟩ | ⟨_, _ | _ | _⟩ | _ | _ | _ | _ <;>
    simp_all [hand, Acquiring.hand, opens?]

end Stage

def stands (c : Nat) (stage : Stage) : Ledger → Hand → Prop :=
  fun l hand => hand = stage.hand ∧ stage.Backed c l

namespace Operation

def Backed (c : Nat) (l : Ledger) : Operation → Prop
  | .invalidate id _ => l.Lodged c id
  | _ => True

end Operation

section

variable {c k : Nat}

theorem upholds_ended {pre : Ledger → Hand → Prop} (ending : Ending)
    (free : ∀ l hand, pre l hand → hand = .empty) :
    Upholds (.call c k) pre (pure (.ended ending)) (stands c) :=
  upholds_return (stands c) (.ended ending) fun l hand held => ⟨free l hand held, trivial⟩

theorem upholds_operating (i : Invocation) (polled : Bool) :
    Upholds (.call c k) (operates c i) (pure (.operating i polled)) (stands c) :=
  upholds_return (stands c) (.operating i polled) fun _ _ held => held

theorem ofAcquire_upholds (progress : Progress Acquiring (Except Channel.Error Nat)) :
    Upholds (.call c k) (acquiring c progress) (pure (Stage.ofAcquire progress)) (stands c) := by
  cases progress with
  | pending a => exact upholds_return (stands c) (.acquiring a) fun _ _ held => held
  | done result => exact upholds_ended _ fun _ _ held => held.1

theorem ofShutdown_upholds (progress : Progress Closing (Except Channel.Error Unit)) :
    Upholds (.call c k) (closing progress) (pure (Stage.ofShutdown progress)) (stands c) := by
  cases progress with
  | pending s => exact upholds_return (stands c) (.shutting s) fun _ _ held => ⟨held, trivial⟩
  | done result => exact upholds_ended _ fun _ _ held => held

theorem ofDispose_upholds (progress : Progress Closing (Except Channel.Error Unit)) :
    Upholds (.call c k) (closing progress) (Stage.ofDispose progress) (stands c) := by
  cases progress with
  | pending s => exact upholds_return (stands c) (.disposing s) fun _ _ held => ⟨held, trivial⟩
  | done result =>
      exact upholds_after (quiet_noteIgnored result) fun _ => upholds_ended _ fun _ _ held => held

theorem enter_upholds (token : Option String)
    (progress : Progress Acquiring (Except Channel.Error Nat)) :
    Upholds (.call c k) (acquiring c progress) (Stage.enter c token progress) (stands c) := by
  rcases progress with a | e | id
  · exact upholds_return (stands c) (.entering token a) fun _ _ held => held
  · exact upholds_ended _ fun _ _ held => held.1
  · have heeds : Upholds (.call c k) (acquired c (.ok id)) (Invocation.start c id token).heed
        (operates c) :=
      upholds_from (heed_upholds _) fun _ _ held => ⟨held.1, rfl, held.2 id rfl⟩
    exact upholds_bind heeds fun i => upholds_operating i true

theorem resume_upholds (stage : Stage) :
    Upholds (.call c k) (stands c stage) (stage.resume c) (stands c) := by
  cases stage with
  | acquiring a => exact upholds_bind (resumeAcquire_upholds a) ofAcquire_upholds
  | entering token a => exact upholds_bind (resumeAcquire_upholds a) (enter_upholds token)
  | operating i polled =>
      cases polled with
      | false => exact upholds_bind (heed_upholds i) fun i => upholds_operating i true
      | true => exact upholds_operating i true
  | shutting s =>
      refine upholds_bind (upholds_from (resumeShutdown_upholds s) fun _ _ held => held.1) ?_
      exact ofShutdown_upholds
  | disposing s =>
      refine upholds_bind (upholds_from (resumeShutdown_upholds s) fun _ _ held => held.1) ?_
      exact ofDispose_upholds
  | ended ending => exact upholds_pure (stands c) (.ended ending)

theorem suspend_upholds (stage : Stage) :
    Upholds (.call c k) (stands c stage) stage.suspend (stands c) := by
  cases stage with
  | operating i polled => exact upholds_operating i false
  | acquiring | entering | shutting | disposing | ended => exact upholds_pure (stands c) _

theorem conclude_upholds (outcome : Scenario.Outcome) (stage : Stage) :
    Upholds (.call c k) (stands c stage) (stage.conclude outcome) (stands c) := by
  cases stage with
  | operating i polled =>
      cases polled with
      | false => exact upholds_pure (stands c) _
      | true =>
          exact upholds_bind (finish_upholds i _) fun _ => upholds_ended _ fun _ _ held => held
  | acquiring | entering | shutting | disposing | ended => exact upholds_pure (stands c) _

theorem abandon_stage_upholds (stage : Stage) :
    Upholds (.call c k) (stands c stage) stage.abandon (stands c) := by
  cases stage with
  | acquiring a | entering token a =>
      apply upholds_bind (upholds_from (abandonAcquire_upholds a) fun _ _ held => held.1)
      intro _
      exact upholds_ended _ fun _ _ held => held
  | operating i polled =>
      exact upholds_bind (abandon_upholds i) fun _ => upholds_ended _ fun _ _ held => held
  | shutting s | disposing s =>
      apply upholds_bind (upholds_from (abandonShutdown_upholds s) fun _ _ held => held.1)
      intro _
      exact upholds_ended _ fun _ _ held => held
  | ended ending => exact upholds_pure (stands c) (.ended ending)

theorem start_upholds (op : Operation) :
    Upholds (.call c k) (fun l hand => hand = .empty ∧ op.Backed c l) (op.start c) (stands c) := by
  cases op with
  | acquire =>
      apply upholds_bind (upholds_from acquire_upholds fun _ _ held => held.1)
      intro result
      exact upholds_ended _ fun _ _ held => held.1
  | acquireAsync =>
      refine upholds_bind (upholds_from startAcquire_upholds fun _ _ held => held.1) ?_
      exact ofAcquire_upholds
  | invoke =>
      apply upholds_bind (upholds_from acquire_upholds fun _ _ held => held.1)
      intro result
      exact enter_upholds none (.done result)
  | invokeAsync token =>
      refine upholds_bind (upholds_from startAcquire_upholds fun _ _ held => held.1) ?_
      exact enter_upholds token
  | invalidate id alwaysAbort =>
      apply upholds_bind (invalidate_upholds id alwaysAbort)
      intro result
      exact upholds_ended _ fun _ _ held => held
  | shutdown alwaysAbort =>
      apply upholds_bind (upholds_from (shutdown_upholds alwaysAbort) fun _ _ held => held.1)
      intro _
      exact upholds_ended _ fun _ _ held => held
  | shutdownAsync alwaysAbort =>
      refine upholds_bind
        (upholds_from (startShutdown_upholds alwaysAbort) fun _ _ held => held.1) ?_
      exact ofShutdown_upholds
  | dispose =>
      apply upholds_bind (upholds_from dispose_upholds fun _ _ held => held.1)
      intro _
      exact upholds_ended _ fun _ _ held => held
  | disposeAsync =>
      refine upholds_bind (upholds_from (startShutdown_upholds false) fun _ _ held => held.1) ?_
      exact ofDispose_upholds

end

/-- What others do to channels is not for any controller to answer for. -/
def meddles (n m : Network) : Prop :=
  ∀ past, Moves .outside (ledger past .outside n, .empty) (ledger past .outside m, .empty)

theorem meddles_tolerant : Tolerant meddles where
  refl _ _ := .refl
  trans first second past := (first past).trans (second past)
  note _ _ _ := .refl
  stamp _ _ := .refl
  record _ deed plain past := .single (.meddle _ deed plain)
  work n ref ch _ past := by
    have same : ledger past .outside (n.putChannel ref ch) = ledger past .outside n :=
      quiet_putChannel ref ch past .outside n
    rw [same]

theorem upholds_meddles {α : Type} {act : Act α} (within : Within meddles act) :
    Upholds .outside (holds .empty) act fun _ => holds .empty := by
  intro past n hands st known free
  rw [show hands .outside = .empty from free]
  exact ⟨.empty, rfl, within n past⟩

theorem discard_meddles {α : Type} {act : Act α} (within : Within meddles act) :
    Upholds .outside (holds .empty) (discard act) fun _ => holds .empty :=
  upholds_discard (upholds_meddles within) fun _ _ _ held => held

theorem outside_create : Upholds .outside (holds .empty) Act.create fun _ => holds .empty := by
  intro past n hands st known free
  rw [ledger_created, show hands .outside = .empty from free]
  exact ⟨_, rfl, .single (.supply _)⟩

theorem addController_upholds :
    Upholds .outside (holds .empty) Act.addController fun _ => holds .empty := by
  intro past n hands st known free
  rw [show hands .outside = .empty from free]
  exact ⟨_, rfl, .single (.found _)⟩

theorem outside_upholds (o : Outside) :
    Upholds .outside (holds .empty) o.act fun _ => holds .empty := by
  cases o with
  | force ref state => exact upholds_quiet (quiet_force ref state)
  | «open» ref => exact discard_meddles (meddles_tolerant.within_openNow ref)
  | close ref => exact discard_meddles (meddles_tolerant.within_closeNow ref)
  | abort ref => exact upholds_meddles (meddles_tolerant.within_abort ref)
  | call ref method =>
      exact upholds_discard (upholds_quiet (quiet_call ref method)) fun _ _ _ held => held
  | shutdown ref alwaysAbort =>
      exact discard_meddles (meddles_tolerant.working.within_shutdownChannel ref alwaysAbort)
  | failOpen ref e | failClose ref e | failCall ref e | delay ref latency =>
      exact upholds_quiet (quiet_modifyChannel _ _)
  | create => exact upholds_discard outside_create fun _ _ _ held => held
  | failNextOpen | failCloses | delayHandshakes | stamp | elapse | settleTies =>
      exact upholds_quiet fun _ _ _ => rfl
  | cancel token => exact upholds_quiet (quiet_cancel token)

end RemoteClient.Interleaving
