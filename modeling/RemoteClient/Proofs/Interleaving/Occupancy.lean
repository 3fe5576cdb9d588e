import RemoteClient.Proofs.Interleaving.Choices
import RemoteClient.Proofs.Interleaving.Tenure

namespace RemoteClient.Interleaving

def Stocked (c : Nat) (held : Option Nat) (n : Network) : Prop :=
  (n.controller c).slot.map (·.channel) = held

def Room (c : Nat) (n : Network) : Prop := c < n.controllers.length ∧ Stocked c none n

inductive Stocks (c : Nat) : Progress Acquiring (Except Channel.Error Nat) → Network → Prop
  | opening {id : Nat} {h : Handshake} {n : Network} (empty : Stocked c none n) :
      Stocks c (.pending (.opening id h)) n
  | done {result : Except Channel.Error Nat} {n : Network} (full : Stocked c result.toOption n) :
      Stocks c (.done result) n

namespace Stage

/-- What is in the slot while the call stands here. It finds no other call's channel there. -/
def Fits (c : Nat) (n : Network) : Stage → Prop
  | .acquiring (.opening _ _) | .entering _ (.opening _ _) | .shutting _ | .disposing _ =>
    Stocked c none n
  | .operating i _ => i.controller = c ∧ Stocked c (if i.armed then some i.channel else none) n
  | .acquiring (.retiring _ _) | .entering _ (.retiring _ _) | .acquiring (.discarding _ _ _)
  | .entering _ (.discarding _ _ _) | .ended _ => False

/-- The channel that a call leaves in the slot when it ends at the stage: the one its acquire gives,
or the one it has run its operation on, if that ended well and was never cancelled. -/
def served? (last : Option Stage) : Ending → Option Nat
  | .acquired result => result.toOption
  | .operated outcome =>
    match last with
    | some (.operating i _) => if i.armed && outcome.isOk then some i.channel else none
    | _ => none
  | .refused _ | .settled _ | .disposed | .abandoned => none

/-- What a call that has begun, or gone on from the stage, leaves in the slot. -/
def Comes (c : Nat) (last : Option Stage) (stage : Stage) (n : Network) : Prop :=
  stage.Fits c n ∨ ∃ ending, stage = .ended ending ∧ Stocked c (served? last ending) n

end Stage

section

variable {c : Nat} {held : Option Nat}

theorem Stocked.vacant {n : Network} (stocked : Stocked c none n) : Vacant c n :=
  Option.map_eq_none_iff.mp stocked

theorem Vacant.stocked {n : Network} (vacant : Vacant c n) : Stocked c none n :=
  Option.map_eq_none_iff.mpr vacant

theorem stocked_of {n : Network} (ctl : Controller) (now : n.controller c = ctl) :
    Stocked c (ctl.slot.map (·.channel)) n := by
  rw [Stocked, now]

theorem stocked_same {α : Type} {act : Act α} (within : Within sameSlots act) :
    Leads (Stocked c held) act fun _ => Stocked c held := by
  refine leads_within within fun n m same stocked => ?_
  rwa [Stocked, Network.controller, same]

theorem room_same {α : Type} {act : Act α} (within : Within sameSlots act) :
    Leads (Room c) act fun _ => Room c := by
  refine leads_within within fun n m same room => ?_
  rwa [Room, Stocked, Network.controller, same]

theorem takeStale_known : Leads (c < ·.controllers.length) (Act.takeStale c) fun _ n =>
    c < n.controllers.length := by
  refine leads_bind leads_controller fun ctl => ?_
  cases ctl.slot with
  | none => exact leads_pure none fun _ read => read.2
  | some held =>
      refine leads_bind leads_channel fun ch => ?_
      rintro n ⟨-, -, known⟩
      dsimp only
      split
      · exact known
      · exact known.trans_eq (List.length_set ..).symm

theorem discardStale_room : Leads (fun n => c < n.controllers.length ∧ ∀ id, ¬ Reuses n c id)
    (Act.discardStale c) fun _ => Room c := by
  have takes : Leads (fun n => c < n.controllers.length ∧ ∀ id, ¬ Reuses n c id) (Act.takeStale c)
      fun _ => Room c :=
    fun n start => ⟨takeStale_known n start.1, (takeStale_vacates n start.2).stocked⟩
  refine leads_bind takes fun stale => ?_
  cases stale with
  | none => exact leads_pure _ fun _ room => room
  | some id => exact room_same (sameSlots_working.within_shutdownChannel (.ofEndpoint id) false)

theorem install_stocks (id : Nat) : Leads (Room c) (Act.install c id) fun outcome n =>
    outcome = .won ∧ Stocked c (some id) n := by
  refine leads_bind leads_controller fun ctl => ?_
  rintro n ⟨rfl, known, stocked⟩
  rw [show (n.controller c).slot = none from stocked.vacant]
  exact ⟨rfl, stocked_of _ (controller_put_same (n := n) ⟨some ⟨id, _⟩, _⟩ known)⟩

theorem openFresh_stocks :
    Leads (Room c) (Act.openFresh c) fun result => Stocked c result.toOption := by
  refine leads_bind (room_same create_same) fun id => ?_
  refine leads_bind (room_same (sameSlots_tolerant.within_openNow _)) fun result => ?_
  cases result with
  | error e =>
      refine leads_bind (room_same fun n => sameSlots_tolerant.note n _) fun _ => ?_
      refine leads_bind (room_same (sameSlots_tolerant.within_abort _)) fun _ => ?_
      exact leads_pure _ fun _ room => room.2
  | ok =>
      refine leads_bind (install_stocks id) fun outcome => ?_
      rintro n ⟨rfl, stocked⟩
      exact stocked

theorem acquire_stocks : Leads (c < ·.controllers.length) (Act.acquire c) fun result =>
    Stocked c result.toOption := by
  intro n known
  obtain ⟨id, reuses, ran⟩ | ⟨useless, _, ran⟩ := acquire_cases c n
  · rw [ran]
    exact reuses.1
  · rw [ran]
    exact openFresh_stocks _ (discardStale_room n ⟨known, useless⟩)

theorem startAcquire_stocks : Leads (c < ·.controllers.length) (Act.startAcquire c) (Stocks c) := by
  intro n known
  obtain ⟨id, reuses, ran⟩ | ⟨useless, _, ran⟩ := startAcquire_cases c n
  · rw [ran]
    exact .done reuses.1
  · rw [ran]
    exact .opening (room_same create_same _ (discardStale_room n ⟨known, useless⟩)).2

theorem abandonHandshake_same (ref : ChannelRef) : Within sameSlots (Act.abandonHandshake ref) :=
  sameSlots_working.within_bind (sameSlots_working.within_channel ref) fun _ =>
    sameSlots_working.within_bind (fun n => sameSlots_tolerant.note n _) fun _ =>
      sameSlots_tolerant.within_abort ref

theorem resumeOpen_same (ref : ChannelRef) (h : Handshake) :
    Within sameSlots (Act.resumeOpen ref h) :=
  fun n => (resumeOpen_leads n ref h n rfl).1

theorem resumeAcquire_stocks (id : Nat) (h : Handshake) :
    Leads (Room c) (Act.resumeAcquire c (.opening id h)) (Stocks c) := by
  refine leads_bind (room_same (resumeOpen_same _ h)) fun progress => ?_
  rcases progress with rest | e | _
  · exact leads_pure _ fun _ room => .opening room.2
  · refine leads_bind (room_same fun n => sameSlots_tolerant.note n _) fun _ => ?_
    refine leads_bind (room_same (abandonHandshake_same _)) fun _ => ?_
    exact leads_pure _ fun _ room => .done room.2
  · refine leads_bind (install_stocks id) fun outcome => ?_
    rintro n ⟨rfl, stocked⟩
    exact .done stocked

theorem resumeShutdownChannel_same (ref : ChannelRef) (h : Handshake) :
    Within sameSlots (Act.resumeShutdownChannel ref h) := by
  have aborts (e : Channel.Error) : Within sameSlots (Act.abortAfterFailedClose ref e) := by
    refine sameSlots_working.within_bind (sameSlots_tolerant.within_abort ref) fun _ => ?_
    dsimp only
    split <;> exact sameSlots_working.within_bind (fun n => sameSlots_tolerant.note n _) fun _ =>
      sameSlots_working.within_pure _
  have closes : Within sameSlots (Act.resumeClose ref h) := by
    refine sameSlots_working.within_bind (sameSlots_working.within_resume ref h) fun progress => ?_
    rcases progress with rest | e | _
    · exact sameSlots_working.within_pure _
    · exact sameSlots_working.within_pure _
    · exact sameSlots_working.within_bind (sameSlots_tolerant.within_closeNow ref) fun _ =>
        sameSlots_working.within_pure _
  refine sameSlots_working.within_bind closes fun progress => ?_
  rcases progress with rest | e | _
  · exact sameSlots_working.within_pure _
  · exact sameSlots_working.within_bind (aborts e) fun _ => sameSlots_working.within_pure _
  · exact sameSlots_working.within_pure _

theorem ofShutdown_comes (last : Option Stage) {n : Network} (stocked : Stocked c none n)
    (progress : Progress Closing (Except Channel.Error Unit)) :
    (Stage.ofShutdown progress).Comes c last n := by
  cases progress with
  | pending s => exact .inl stocked
  | done result => exact .inr ⟨_, rfl, stocked⟩

theorem ofDispose_comes (last : Option Stage)
    (progress : Progress Closing (Except Channel.Error Unit)) :
    Leads (Stocked c none) (Stage.ofDispose progress) fun stage n => stage.Comes c last n := by
  cases progress with
  | pending s => exact leads_pure _ fun _ stocked => .inl stocked
  | done result =>
      refine leads_bind (stocked_same (noteIgnored_same result)) fun _ => ?_
      exact leads_pure _ fun _ stocked => .inr ⟨_, rfl, stocked⟩

theorem invalidate_stocks (id : Nat) (alwaysAbort : Bool) {n : Network}
    (known : c < n.controllers.length) (stocked : Stocked c held n) :
    Stocked c (if held = some id then none else held)
      ((Act.invalidate c id alwaysAbort).run n).2 := by
  obtain ⟨m, ran, -, -, controllers, -⟩ := run_detach c id n
  rw [Act.invalidate, Act.run_bind, ran]
  refine stocked_same (sameSlots_working.within_shutdownChannel _ alwaysAbort) m ?_
  have kept : Keeps n c id ↔ held = some id := by
    rw [← stocked]
    rfl
  by_cases here : held = some id
  · rw [if_pos here]
    rw [if_pos (kept.mpr here)] at controllers
    have emptied := controller_put_same (n := n) { n.controller c with slot := none } known
    exact stocked_of { n.controller c with slot := none }
      (by rw [← emptied, Network.controller, controllers]; rfl)
  · rw [if_neg here]
    rw [if_neg fun same => here (kept.mp same)] at controllers
    rwa [Stocked, Network.controller, controllers]

theorem fire_stocks {i : Invocation} {n : Network}
    (stocked : Stocked i.controller (if i.armed then some i.channel else none) n) :
    (i.fire.run n).1.controller = i.controller ∧ (i.fire.run n).1.armed = false ∧
      Stocked i.controller none (i.fire.run n).2 := by
  cases armed : i.armed with
  | false =>
      rw [armed] at stocked
      rw [fire_spent i n armed]
      exact ⟨rfl, armed, stocked⟩
  | true =>
      rw [armed] at stocked
      obtain ⟨m, ran, discards⟩ := fire_armed i n armed
      rw [ran]
      exact ⟨rfl, rfl, stocked_of _ (discards.emptied stocked)⟩

theorem heed_stocks {i : Invocation} {n : Network}
    (stocked : Stocked i.controller (if i.armed then some i.channel else none) n) :
    (i.heed.run n).1.controller = i.controller ∧ Stocked i.controller
      (if (i.heed.run n).1.armed then some (i.heed.run n).1.channel else none)
        (i.heed.run n).2 := by
  by_cases found : i.Finds n
  · obtain ⟨noted, same, heeded⟩ := heed_found i n found
    have before : Stocked i.controller (if i.armed then some i.channel else none) noted := by
      rw [same]
      exact stocked
    obtain ⟨controller, spent, empty⟩ := fire_stocks before
    rw [heeded]
    exact ⟨controller, by simpa [spent] using empty⟩
  · rw [heed_calm i n fun token given cancelled => found ⟨token, given, cancelled⟩]
    exact ⟨rfl, stocked⟩

theorem ofAcquire_comes (last : Option Stage)
    {progress : Progress Acquiring (Except Channel.Error Nat)} {n : Network}
    (stocks : Stocks c progress n) :
    (Stage.ofAcquire progress).Comes c last n := by
  cases stocks with
  | opening empty => exact .inl empty
  | done full => exact .inr ⟨_, rfl, full⟩

theorem enter_comes (last : Option Stage) (token : Option String)
    (progress : Progress Acquiring (Except Channel.Error Nat)) :
    Leads (Stocks c progress) (Stage.enter c token progress) fun stage n =>
      stage.Comes c last n := by
  intro n stocks
  cases stocks with
  | opening empty => exact .inl empty
  | @done result _ full =>
      cases result with
      | error e => exact .inr ⟨_, rfl, full⟩
      | ok id => exact .inl (heed_stocks (i := .start c id token) full)

theorem start_comes {op : Operation} (other : ∀ id alwaysAbort, op ≠ .invalidate id alwaysAbort) :
    Leads (c < ·.controllers.length) (op.start c) fun stage n => stage.Comes c none n := by
  cases op with
  | acquire =>
      exact leads_bind acquire_stocks fun _ => leads_pure _ fun _ full => .inr ⟨_, rfl, full⟩
  | acquireAsync =>
      exact leads_bind startAcquire_stocks fun _ => leads_pure _ fun _ => ofAcquire_comes none
  | invoke =>
      refine leads_bind acquire_stocks fun result => ?_
      exact leads_weaken (enter_comes none none (.done result))
        (fun _ full => .done full) fun _ _ comes => comes
  | invokeAsync token => exact leads_bind startAcquire_stocks (enter_comes none token)
  | invalidate id alwaysAbort => exact absurd rfl (other id alwaysAbort)
  | shutdown alwaysAbort =>
      exact fun n _ =>
        leads_bind (shutdown_vacates c alwaysAbort) (fun _ => leads_pure _ fun _ vacant =>
        .inr ⟨_, rfl, vacant.stocked⟩) n trivial
  | shutdownAsync alwaysAbort =>
      exact fun n _ => leads_bind (startShutdown_vacates c alwaysAbort) (fun progress =>
        leads_pure _ fun _ vacant => ofShutdown_comes none vacant.stocked progress) n trivial
  | dispose =>
      exact fun n _ => leads_bind (dispose_leads c) (fun _ => leads_pure _ fun _ vacant =>
        .inr ⟨_, rfl, vacant.stocked⟩) n trivial
  | disposeAsync =>
      exact fun n _ => leads_bind (startShutdown_vacates c false) (fun progress =>
        leads_weaken (ofDispose_comes none progress)
          (fun _ vacant => vacant.stocked) fun _ _ comes => comes) n
          trivial

theorem resume_comes (stage : Stage) : Leads (fun n => c < n.controllers.length ∧ stage.Fits c n)
    (stage.resume c) fun next n => next.Comes c (some stage) n := by
  rintro n ⟨known, fits⟩
  cases stage with
  | acquiring a =>
      cases a with
      | retiring | discarding => exact fits.elim
      | opening id h =>
          exact leads_bind (resumeAcquire_stocks id h)
            (fun _ => leads_pure _ fun _ => ofAcquire_comes _) n
            ⟨known, fits⟩
  | entering token a =>
      cases a with
      | retiring | discarding => exact fits.elim
      | opening id h =>
          exact leads_bind (resumeAcquire_stocks id h) (enter_comes _ token) n ⟨known, fits⟩
  | operating i polled =>
      cases polled with
      | true => exact .inl fits
      | false =>
          obtain ⟨rfl, stocked⟩ := fits
          exact .inl (heed_stocks stocked)
  | shutting s =>
      have same : Within sameSlots (Act.resumeShutdown s) :=
        resumeShutdownChannel_same _ s.handshake
      exact leads_bind (stocked_same same) (fun progress => leads_pure _ fun _ stocked =>
        ofShutdown_comes _ stocked progress) n fits
  | disposing s =>
      have same : Within sameSlots (Act.resumeShutdown s) :=
        resumeShutdownChannel_same _ s.handshake
      exact leads_bind (stocked_same same) (ofDispose_comes _) n fits
  | ended ending => exact fits.elim

theorem suspend_comes (stage : Stage) : Leads (fun n => stage.Fits c n) stage.suspend fun next n =>
    next.Comes c (some stage) n := by
  intro n fits
  cases stage with
  | operating | acquiring | entering | shutting | disposing => exact .inl fits
  | ended => exact fits.elim

theorem conclude_comes (outcome : Scenario.Outcome) (stage : Stage) :
    Leads (fun n => stage.Fits c n) (stage.conclude outcome) fun next n =>
      next.Comes c (some stage) n := by
  intro n fits
  cases stage with
  | acquiring | entering | shutting | disposing => exact .inl fits
  | ended => exact fits.elim
  | operating i polled =>
      cases polled with
      | false => exact .inl fits
      | true =>
          obtain ⟨rfl, stocked⟩ := fits
          refine .inr ⟨.operated outcome, rfl, ?_⟩
          change Stocked _ (if i.armed && outcome.isOk then some i.channel else none)
            ((i.finish outcome.isOk).run n).2
          cases well : outcome.isOk with
          | true =>
              rw [Bool.and_true]
              exact stocked
          | false =>
              rw [Bool.and_false]
              exact (fire_stocks stocked).2.2

theorem go_comes {e : Event} {k : Nat} (own : e.call? = some k) (kept : e ≠ .abandon k)
    (stage : Stage) :
    Leads (fun n => c < n.controllers.length ∧ stage.Fits c n) (e.go c stage) fun next n =>
      next.Comes c (some stage) n := by
  cases e with
  | resume => exact resume_comes stage
  | suspend => exact fun n start => suspend_comes stage n start.2
  | conclude _ outcome => exact fun n start => conclude_comes outcome stage n start.2
  | abandon =>
      cases own
      exact absurd rfl kept
  | newController | begin | drop | outside => cases own

end

end RemoteClient.Interleaving
