import RemoteClient.Proofs.Agreement.Driving

namespace RemoteClient.Scenario

open Interleaving (Within)

structure Twins (w v : World) : Prop where
  network : w.network.Alike v.network
  tidy : w.network.Tidy
  holders : w.holders = v.holders
  issued : w.issued = v.issued
  reports : w.reports = v.reports
  left : w.Solo
  right : v.Solo

namespace Twins

variable {w v : World}

theorem networks (twins : Twins w v) {n m : Network} (alike : n.Alike m) (tidy : n.Tidy)
    (main other : Option Suspended) (ready able : Bool) :
    Twins { w with network := n, main := main, mainReady := ready }
      { v with network := m, main := other, mainReady := able } where
  network := alike
  tidy := tidy
  holders := twins.holders
  issued := twins.issued
  reports := twins.reports
  left := ⟨twins.left.tasks, twins.left.ready, twins.left.deferred⟩
  right := ⟨twins.right.tasks, twins.right.ready, twins.right.deferred⟩

theorem lists (twins : Twins w v) (holders : List Holder → List Holder)
    (issued : List Nat → List Nat) (reports : List Report → List Report) :
    Twins
      { w with
        holders := holders w.holders
        issued := issued w.issued
        reports := reports w.reports }
      { v with
        holders := holders v.holders
        issued := issued v.issued
        reports := reports v.reports } where
  network := twins.network
  tidy := twins.tidy
  holders := congrArg holders twins.holders
  issued := congrArg issued twins.issued
  reports := congrArg reports twins.reports
  left := ⟨twins.left.tasks, twins.left.ready, twins.left.deferred⟩
  right := ⟨twins.right.tasks, twins.right.ready, twins.right.deferred⟩

theorem free (twins : Twins w v) : Twins w.free v.free :=
  twins.networks twins.network twins.tidy none none false false

theorem symm (twins : Twins w v) : Twins v w where
  network := twins.network.symm
  tidy := twins.tidy.alike twins.network
  holders := twins.holders.symm
  issued := twins.issued.symm
  reports := twins.reports.symm
  left := twins.right
  right := twins.left

end Twins

namespace Play

/-- The computation gives the same on twin worlds. -/
abbrev Steady {α : Type} (p : Play α) : Prop := Matches Twins p p

section

variable {α β : Type}

theorem steady_onNetwork {act : Act α} (timeless : act.Timeless)
    (tidy : Within (fun n m => n.Tidy → m.Tidy) act) : Steady (onNetwork act) := by
  intro w v twins
  obtain ⟨same, after⟩ := timeless w.network v.network twins.network
  exact ⟨same,
    twins.networks after (tidy w.network twins.tidy) w.main v.main w.mainReady v.mainReady⟩

theorem steady_pending (f : Channel.Faults → Channel.Faults) {act : Act Unit}
    (modifies : ∀ n, act.run n = ((), { n with endpoint.pending := f n.endpoint.pending })) :
    Steady (onNetwork act) := by
  apply steady_onNetwork (Act.timeless_pending f modifies)
  intro n tidy
  rw [modifies]
  exact Network.Tidy.of_channels (n := n) (fun ref => by cases ref <;> rfl) rfl rfl tidy

theorem steady_create : Steady (onNetwork Act.create) :=
  steady_onNetwork Act.timeless_create Network.tidy_calling.within_create

theorem steady_report (r : Report) : Steady (report r) :=
  matches_modify (fun _ => rfl) fun _ _ twins => twins.lists id id (r :: ·)

theorem steady_issue (id : Nat) : Steady (issue id) :=
  matches_modify (fun _ => rfl) fun _ _ twins =>
    twins.lists (fun holders => holders) (id :: ·) fun reports => reports

theorem steady_modifyHolder (c : Nat) (f : Holder → Holder) : Steady (modifyHolder c f) :=
  matches_modify (fun _ => rfl) fun _ _ twins =>
    twins.lists (fun holders => holders.modify c f) (fun issued => issued) fun reports => reports

theorem steady_isIssued (id : Nat) : Steady (isIssued id) :=
  matches_read (fun _ => rfl) fun _ _ twins => by rw [twins.issued]

theorem steady_hasController (c : Nat) : Steady (hasController c) :=
  matches_read (fun _ => rfl) fun _ _ twins => by rw [twins.holders]

theorem steady_hadController (c : Nat) : Steady (hadController c) :=
  matches_read (fun _ => rfl) fun _ _ twins => by rw [twins.holders]

theorem steady_channelExists (id : Nat) : Steady (channelExists id) :=
  matches_read (fun _ => rfl) fun _ _ twins => by rw [twins.network.endpoint]

theorem steady_dispose (c : Nat) : Steady (onNetwork (Act.dispose c)) :=
  steady_onNetwork (Act.timeless_dispose c) (Network.tidy_calling.within_dispose c)

theorem steady_disposeUnused (c : Nat) : Steady (disposeUnused c) := by
  intro w v twins
  rw [disposeUnused, run_get, run_get, twins.holders]
  cases v.holders[c]? with
  | none => exact ⟨rfl, twins⟩
  | some h =>
      dsimp only
      split
      · exact steady_dispose c w v twins
      · exact ⟨rfl, twins⟩

theorem steady_release (c : Nat) : Steady (release c) :=
  matches_bind (steady_modifyHolder c _) fun _ => steady_disposeUnused c

theorem steady_dropHandle (c : Nat) : Steady (dropHandle c) := by
  apply matches_bind (steady_hasController c)
  intro kept
  split
  · exact matches_bind (steady_modifyHolder c _) fun _ => steady_disposeUnused c
  · exact matches_pure ()

theorem steady_addController : Steady addController :=
  matches_bind
    (matches_modify (fun _ => rfl) fun _ _ twins => twins.lists (· ++ [⟨true, 0⟩]) id id) fun _ =>
    steady_onNetwork Act.timeless_addController fun n => Network.tidy_lasting.slots n _

theorem steady_resolve (here : Option Nat) (target : Target) : Steady (resolve here target) := by
  cases target with
  | endpoint id =>
      apply matches_bind (steady_channelExists id)
      intro found
      split <;> exact matches_pure _
  | standalone id =>
      have looked : Steady (onNetwork (Act.modifyChannel (.standalone id) fun ch => ch)) :=
        steady_onNetwork (Act.timeless_modifyChannel _ _) fun n tidy =>
          tidy.putChannel (n.channel_id (.standalone id)) (tidy.retired (.standalone id))
      exact matches_bind looked fun _ => matches_pure _
  | current => exact matches_pure _

theorem resolve_channel (here : Option Nat) (target : Target) (w : World) (ref : ChannelRef) :
    ((resolve here target).run w).2.network.channel ref = w.network.channel ref := by
  cases target with
  | endpoint id =>
      change ((if (w.network.endpoint.find? id).isSome then pure (some (.ofEndpoint id))
        else pure none : Play (Option ChannelRef)).run w).2.network.channel ref = _
      split <;> rfl
  | current => rfl
  | standalone id =>
      have named := w.network.channel_id (.standalone id)
      rcases Network.channel_putChannel_cases (n := w.network) named ref with same | ⟨rfl, now⟩
      · exact same
      · exact now

theorem steady_channel (ref : ChannelRef) : Steady (onNetwork (Act.channel ref)) :=
  steady_onNetwork (Act.timeless_channel ref) (Network.tidy_calling.within_channel ref)

theorem steady_modifyChannel (ref : ChannelRef) {f : Channel → Channel}
    (worked : ∀ ch, Channel.Worked ch (f ch)) :
    Steady (onNetwork (Act.modifyChannel ref f)) :=
  steady_onNetwork (Act.timeless_modifyChannel ref f) fun n =>
    Network.tidy_lasting.work n ref _ (worked _)

theorem steady_shutdownChannel (ref : ChannelRef) (alwaysAbort : Bool) :
    Steady (onNetwork (Act.shutdownChannel ref alwaysAbort)) :=
  steady_onNetwork (Act.timeless_shutdownChannel ref alwaysAbort)
    (Network.tidy_calling.within_shutdownChannel ref alwaysAbort)

/-- Forcing a state is the one thing that can bring an aborted channel back. -/
theorem steady_actOnChannel (ref : ChannelRef) {action : ChannelAction}
    (unforced : ∀ state, action ≠ .force state) : Steady (actOnChannel ref action) := by
  have lasting := Network.tidy_lasting
  cases action with
  | state | describe => exact matches_bind (steady_channel ref) fun _ => matches_pure _
  | «open» =>
      exact matches_bind
        (steady_onNetwork (Act.timeless_openNow ref) (lasting.within_openNow ref)) fun _ =>
        matches_pure _
  | close =>
      exact matches_bind
        (steady_onNetwork (Act.timeless_closeNow ref) (lasting.within_closeNow ref)) fun _ =>
        matches_pure _
  | abort =>
      exact matches_bind
        (steady_onNetwork (Act.timeless_abort ref) (lasting.within_abort ref)) fun _ =>
        matches_pure _
  | call method =>
      exact matches_bind
        (steady_onNetwork (Act.timeless_call ref method) (lasting.within_call ref method))
        fun _ => matches_pure _
  | force state => exact absurd rfl (unforced state)
  | failOpen e =>
      exact matches_bind (steady_modifyChannel ref fun _ => .failingOpen e) fun _ => matches_pure _
  | failClose e =>
      exact matches_bind (steady_modifyChannel ref fun _ => .failingClose e) fun _ => matches_pure _
  | failCall e =>
      exact matches_bind (steady_modifyChannel ref fun _ => .failingCall e) fun _ => matches_pure _
  | delay latency =>
      exact matches_bind (steady_modifyChannel ref fun _ => .delayed latency) fun _ =>
        matches_pure _
  | shutdown alwaysAbort =>
      exact matches_bind (steady_shutdownChannel ref alwaysAbort) fun _ => matches_pure _
  | sameAs other =>
      apply matches_bind (steady_channelExists other)
      intro found
      split <;> exact matches_pure _

theorem steady_given (id : Nat) : Steady (given id) :=
  matches_bind (steady_issue id) fun _ => matches_pure _

theorem steady_afterAcquire (result : Except Channel.Error Nat) : Steady (afterAcquire result) := by
  cases result with
  | ok id => exact steady_given id
  | error e => exact matches_pure _

theorem steady_invalidate (c : Nat) (ref : ChannelRef) (alwaysAbort foreign : Bool) :
    Steady (invalidate c ref alwaysAbort foreign) := by
  have shut (ref : ChannelRef) :
      Steady (do return ofUnit (← onNetwork (Act.shutdownChannel ref alwaysAbort))) :=
    matches_bind (steady_shutdownChannel ref alwaysAbort) fun _ => matches_pure _
  cases ref with
  | standalone id => exact shut (.standalone id)
  | ofEndpoint id =>
      cases foreign with
      | true => exact shut (.ofEndpoint id)
      | false =>
          apply matches_bind (steady_isIssued id)
          intro known
          split
          · exact matches_bind (steady_onNetwork (Act.timeless_invalidate c id alwaysAbort)
              (Network.tidy_calling.within_invalidate c id alwaysAbort)) fun _ => matches_pure _
          · exact shut (.ofEndpoint id)

theorem steady_acquire (c : Nat) : Steady (onNetwork (Act.acquire c)) :=
  steady_onNetwork (Act.timeless_acquire c) (Network.tidy_calling.within_acquire c)

theorem steady_beginCall (c : Nat) : Steady (onNetwork (beginCall c .blocking)) := by
  apply steady_onNetwork
  · exact matches_bind (Act.timeless_acquire c) fun _ => matches_pure _
  · exact Network.tidy_calling.within_bind (Network.tidy_calling.within_acquire c) fun _ =>
      Network.tidy_calling.within_pure _

theorem steady_shutdown (c : Nat) (alwaysAbort : Bool) :
    Steady (onNetwork (Act.shutdown c alwaysAbort)) :=
  steady_onNetwork (Act.timeless_shutdown c alwaysAbort)
    (Network.tidy_calling.within_shutdown c alwaysAbort)

theorem steady_describeController (c : Nat) : Steady (onNetwork (Act.describeController c)) := by
  have calling := Network.tidy_calling
  have looks : Within (fun n m => n.Tidy → m.Tidy) (Act.cachedState c) := by
    apply calling.within_bind (calling.within_cached c)
    intro found
    cases found with
    | none => exact calling.within_pure _
    | some id => exact calling.within_bind (calling.within_channel _) fun _ => calling.within_pure _
  apply steady_onNetwork (Act.timeless_describeController c)
  exact calling.within_bind (calling.within_controller c) fun _ =>
    calling.within_bind looks fun _ => calling.within_pure _

theorem steady_actOnController (here : Option Nat) (c : Nat) (action : ControllerAction) :
    Steady (actOnController here c action) := by
  cases action with
  | acquire => exact matches_bind (steady_acquire c) steady_afterAcquire
  | isCached =>
      have looks : Steady (onNetwork (Act.controller c)) :=
        steady_onNetwork (Act.timeless_controller c) (Network.tidy_calling.within_controller c)
      exact matches_bind looks fun _ => matches_pure _
  | cached =>
      have looks : Steady (onNetwork (Act.cached c)) :=
        steady_onNetwork (Act.timeless_cached c) (Network.tidy_calling.within_cached c)
      apply matches_bind looks
      intro found
      cases found with
      | none => exact matches_pure _
      | some id => exact steady_given id
  | shutdown alwaysAbort =>
      exact matches_bind (steady_shutdown c alwaysAbort) fun _ => matches_pure _
  | dispose => exact matches_bind (steady_dispose c) fun _ => matches_pure _
  | describe =>
      exact matches_bind (steady_describeController c) fun _ => matches_pure _
  | drop => exact matches_bind (steady_dropHandle c) fun _ => matches_pure _
  | invalidate target alwaysAbort foreign =>
      apply matches_bind (steady_resolve here target)
      intro found
      cases found with
      | none => exact matches_pure _
      | some ref => exact steady_invalidate c ref alwaysAbort foreign

end

end Play

end RemoteClient.Scenario
