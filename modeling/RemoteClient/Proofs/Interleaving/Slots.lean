import RemoteClient.Proofs.Interleaving.Frames
import RemoteClient.Proofs.Network.Running

namespace RemoteClient

namespace Acquiring

def winner? : Acquiring → Option Nat
  | .retiring _ _ | .opening _ _ => none
  | .discarding winner _ _ => some winner

end Acquiring

namespace Interleaving

def picked? : Progress Acquiring (Except Channel.Error Nat) → Option Nat
  | .pending a => a.winner?
  | .done (.ok id) => some id
  | .done (.error _) => none

/-- From a network with `P`, the computation gets to `Q`. -/
def Leads {α : Type} (P : Network → Prop) (act : Act α) (Q : α → Network → Prop) : Prop :=
  ∀ n, P n → Q (act.run n).1 (act.run n).2

def Vacant (c : Nat) (n : Network) : Prop := (n.controller c).slot = none

def Keeps (n : Network) (c id : Nat) : Prop := (n.controller c).slot.map (·.channel) = some id

instance (n : Network) (c id : Nat) : Decidable (Keeps n c id) :=
  inferInstanceAs (Decidable ((n.controller c).slot.map (·.channel) = some id))

/-- The channel in the slot of the controller may be handed out again. -/
def Reuses (n : Network) (c id : Nat) : Prop :=
  Keeps n c id ∧ (n.channel (.ofEndpoint id)).state.isUsable

section

variable {α β : Type} {P P' : Network → Prop} {Q Q' : α → Network → Prop}

theorem leads_pure (a : α) (holds : ∀ n, P n → Q a n) : Leads P (pure a) Q := holds

theorem leads_bind {act : Act α} {f : α → Act β} {R : β → Network → Prop} (first : Leads P act Q)
    (second : ∀ a, Leads (Q a) (f a) R) : Leads P (act >>= f) R :=
  fun n start => second _ _ (first n start)

theorem leads_any (act : Act α) : Leads P act fun _ _ => True := fun _ _ => trivial

theorem leads_controller {c : Nat} :
    Leads P (Act.controller c) fun ctl n => ctl = n.controller c ∧ P n :=
  fun _ start => ⟨rfl, start⟩

theorem leads_channel {ref : ChannelRef} :
    Leads P (Act.channel ref) fun ch n => ch = n.channel ref ∧ P n := fun _ start => ⟨rfl, start⟩

theorem leads_weaken {act : Act α} (leads : Leads P act Q) (before : ∀ n, P' n → P n)
    (after : ∀ a n, Q a n → Q' a n) : Leads P' act Q' :=
  fun n start => after _ _ (leads n (before n start))

theorem leads_within {act : Act α} {R : Network → Network → Prop} (within : Within R act)
    (stable : ∀ n m, R n m → P n → P m) : Leads P act fun _ => P :=
  fun n start => stable _ _ (within n) start

theorem leads_same {act : Act α} {c : Nat} (within : Within sameSlots act) :
    Leads (Vacant c) act fun _ => Vacant c := by
  apply leads_within within
  intro n m same vacant
  rwa [Vacant, Network.controller, same]

end

theorem vacant_putController (n : Network) (c generation : Nat) :
    Vacant c (n.putController c ⟨none, generation⟩) := by
  by_cases inside : c < n.controllers.length <;>
    simp [Vacant, Network.controller, Network.putController, inside, Controller.empty]

theorem take_vacates (c : Nat) : Leads (fun _ => True) (Act.take c) fun _ => Vacant c := by
  refine leads_bind leads_controller fun ctl => ?_
  cases slot : ctl.slot with
  | none =>
      refine leads_pure none fun n read => ?_
      rwa [Vacant, ← read.1]
  | some held => exact fun n _ => vacant_putController n c _

theorem shutdown_vacates (c : Nat) (alwaysAbort : Bool) :
    Leads (fun _ => True) (Act.shutdown c alwaysAbort) fun _ => Vacant c := by
  refine leads_bind (take_vacates c) fun found => ?_
  cases found with
  | none => exact leads_pure _ fun _ vacant => vacant
  | some id => exact leads_same (sameSlots_working.within_shutdownChannel _ alwaysAbort)

theorem startShutdown_vacates (c : Nat) (alwaysAbort : Bool) :
    Leads (fun _ => True) (Act.startShutdown c alwaysAbort) fun _ => Vacant c := by
  refine leads_bind (take_vacates c) fun found => ?_
  cases found with
  | none => exact leads_pure _ fun _ vacant => vacant
  | some id =>
      refine leads_bind
        (leads_same (sameSlots_working.within_startShutdownChannel _ alwaysAbort)) ?_
      exact fun _ => leads_pure _ fun _ vacant => vacant

theorem noteIgnored_same (result : Except Channel.Error Unit) :
    Within sameSlots (Act.noteIgnored result) := by
  cases result with
  | ok => exact sameSlots_tolerant.refl
  | error e => exact fun n => sameSlots_tolerant.note n _

theorem dispose_leads (c : Nat) : Leads (fun _ => True) (Act.dispose c) fun _ => Vacant c :=
  leads_bind (shutdown_vacates c false) fun result => leads_same (noteIgnored_same result)

theorem dispose_vacates {op : Operation} (disposes : op = .dispose ∨ op = .disposeAsync) (c : Nat) :
    Leads (fun _ => True) (op.start c) fun _ => Vacant c := by
  rcases disposes with rfl | rfl
  · exact leads_bind (dispose_leads c) fun _ => leads_pure _ fun _ vacant => vacant
  · refine leads_bind (startShutdown_vacates c false) fun progress => ?_
    cases progress with
    | pending s => exact leads_pure _ fun _ vacant => vacant
    | done result =>
        exact leads_bind (leads_same (noteIgnored_same result)) fun _ =>
          leads_pure _ fun _ vacant => vacant

section

variable {c id : Nat}

theorem takeStale_reuse {m : Network} (reuses : Reuses m c id) :
    Leads (· = m) (Act.takeStale c) fun found n => found = none ∧ n = m := by
  obtain ⟨kept, usable⟩ := reuses
  obtain ⟨held, slot, rfl⟩ := Option.map_eq_some_iff.mp kept
  refine leads_bind leads_controller fun ctl => ?_
  cases found : ctl.slot with
  | none =>
      rintro n ⟨rfl, rfl⟩
      rw [slot] at found
      cases found
  | some other =>
      refine leads_bind leads_channel fun ch => ?_
      rintro n ⟨rfl, rfl, rfl⟩
      cases slot.symm.trans found
      dsimp only
      rw [if_pos usable]
      exact ⟨rfl, rfl⟩

theorem run_takeStale_reuse {n : Network} (reuses : Reuses n c id) :
    (Act.takeStale c).run n = (none, n) :=
  Prod.ext (takeStale_reuse reuses n rfl).1 (takeStale_reuse reuses n rfl).2

theorem takeStale_vacates :
    Leads (fun n => ∀ id, ¬ Reuses n c id) (Act.takeStale c) fun _ => Vacant c := by
  refine leads_bind leads_controller fun ctl => ?_
  cases slot : ctl.slot with
  | none =>
      refine leads_pure none fun n read => ?_
      rwa [Vacant, ← read.1]
  | some held =>
      refine leads_bind leads_channel fun ch => ?_
      rintro n ⟨rfl, rfl, useless⟩
      have stale : ¬ (n.channel (.ofEndpoint held.channel)).state.isUsable := fun usable =>
        useless held.channel ⟨by rw [Keeps, slot]; rfl, usable⟩
      dsimp only
      rw [if_neg stale]
      exact vacant_putController n c _

theorem discardStale_vacates :
    Leads (fun n => ∀ id, ¬ Reuses n c id) (Act.discardStale c) fun _ => Vacant c := by
  refine leads_bind takeStale_vacates fun stale => ?_
  cases stale with
  | none => exact leads_pure _ fun _ vacant => vacant
  | some id => exact leads_same (sameSlots_working.within_shutdownChannel (.ofEndpoint id) false)

theorem run_discardStale_reuse {n : Network} (reuses : Reuses n c id) :
    (Act.discardStale c).run n = (.ok (), n) := by
  unfold Act.discardStale
  rw [StateT.run_bind, run_takeStale_reuse reuses]
  rfl

theorem run_cached_keeps {n : Network} (kept : Keeps n c id) :
    (Act.cached c).run n = (some id, n) := by
  change (((n.controller c).slot.map (·.channel), n) : Option Nat × Network) = _
  rw [show _ = some id from kept]

theorem run_cached_vacant {n : Network} (vacant : Vacant c n) :
    (Act.cached c).run n = (none, n) := by
  change (((n.controller c).slot.map (·.channel), n) : Option Nat × Network) = _
  rw [show (n.controller c).slot = none from vacant]
  rfl

theorem run_first_reuse {α : Type} {next : Option Nat → Act α} {n : Network}
    (reuses : Reuses n c id) :
    (Act.cached c >>= next).run ((Act.discardStale c).run n).2 = (next (some id)).run n := by
  rw [run_discardStale_reuse reuses, Act.run_bind, run_cached_keeps reuses.1]

theorem first_cases {α : Type} (next : Option Nat → Act α) (c : Nat) (n : Network) :
    (∃ id, Reuses n c id ∧
      (Act.cached c >>= next).run ((Act.discardStale c).run n).2 = (next (some id)).run n) ∨
    (∀ id, ¬ Reuses n c id) ∧ Vacant c ((Act.discardStale c).run n).2 ∧
      (Act.cached c >>= next).run ((Act.discardStale c).run n).2 =
        (next none).run ((Act.discardStale c).run n).2 := by
  by_cases useful : ∃ id, Reuses n c id
  · obtain ⟨id, reuses⟩ := useful
    exact .inl ⟨id, reuses, run_first_reuse reuses⟩
  · have useless := not_exists.mp useful
    have vacant := discardStale_vacates n useless
    refine .inr ⟨useless, vacant, ?_⟩
    rw [Act.run_bind, run_cached_vacant vacant]

theorem run_acquire_reuse {n : Network} (reuses : Reuses n c id) :
    (Act.acquire c).run n = (.ok id, n) := by
  rw [Act.run_acquire]
  exact run_first_reuse reuses

theorem run_startAcquire_reuse {n : Network} (reuses : Reuses n c id) :
    (Act.startAcquire c).run n = (.done (.ok id), n) := by
  rw [Act.run_startAcquire]
  exact run_first_reuse reuses

theorem acquire_cases (c : Nat) (n : Network) :
    (∃ id, Reuses n c id ∧ (Act.acquire c).run n = (.ok id, n)) ∨
    (∀ id, ¬ Reuses n c id) ∧ Vacant c ((Act.discardStale c).run n).2 ∧
      (Act.acquire c).run n = (Act.openFresh c).run ((Act.discardStale c).run n).2 := by
  rw [Act.run_acquire]
  exact first_cases _ c n

theorem startAcquire_cases (c : Nat) (n : Network) :
    (∃ id, Reuses n c id ∧ (Act.startAcquire c).run n = (.done (.ok id), n)) ∨
    (∀ id, ¬ Reuses n c id) ∧ Vacant c ((Act.discardStale c).run n).2 ∧
      (Act.startAcquire c).run n =
        (do return .pending (.opening (← Act.create) .turn) : Act _).run
          ((Act.discardStale c).run n).2 := by
  rw [Act.run_startAcquire]
  exact first_cases _ c n

theorem openNow_tells (ref : ChannelRef) (n : Network)
    (opened : ((Act.openNow ref).run n).1 = .ok ()) :
    .opened ref ∈ ((Act.openNow ref).run n).2.history := by
  have told : ((Act.openNow ref).run n).2.history =
      .ofOpen ref ((Act.openNow ref).run n).1 :: n.history := by
    cases ref <;> rfl
  rw [told, opened]
  exact List.mem_cons_self

theorem keeps_same {n m : Network} (same : sameSlots n m) : Keeps m c id ↔ Keeps n c id := by
  rw [Keeps, Keeps, Network.controller, same, Network.controller]

theorem install_leads (m : Network) (deed : Deed) :
    Leads (fun n => sameSlots m n ∧ deed ∈ n.history) (Act.install c id) fun
      | .won, n => deed ∈ n.history
      | .lostTo winner, _ => Keeps m c winner := by
  refine leads_bind leads_controller fun ctl => ?_
  cases slot : ctl.slot with
  | none => exact fun n read => List.mem_cons_of_mem _ read.2.2
  | some held =>
      refine leads_pure (Act.Installed.lostTo held.channel) fun n read => ?_
      obtain ⟨rfl, same, _⟩ := read
      exact (keeps_same same).mp (by rw [Keeps, slot]; rfl)

theorem openNow_leads (m : Network) (ref : ChannelRef) :
    Leads (sameSlots m) (Act.openNow ref) fun result n =>
      sameSlots m n ∧ (result = .ok () → .opened ref ∈ n.history) := by
  intro n same
  exact ⟨sameSlots_tolerant.trans same (sameSlots_tolerant.within_openNow ref n),
    openNow_tells ref n⟩

theorem create_same : Within sameSlots Act.create := fun _ => rfl

theorem openFresh_opens {m : Network} (vacant : Vacant c m) :
    Leads (sameSlots m) (Act.openFresh c) fun result n =>
      ∀ id, result = .ok id → .opened (.ofEndpoint id) ∈ n.history := by
  refine leads_bind (leads_within create_same fun _ _ same before =>
    sameSlots_tolerant.trans before same) fun id => ?_
  refine leads_bind (openNow_leads m (.ofEndpoint id)) fun result => ?_
  cases result with
  | error e => exact fun n _ other done => by cases done
  | ok =>
      refine leads_bind (leads_weaken (install_leads m (.opened (.ofEndpoint id)))
        (fun n start => ⟨start.1, start.2 rfl⟩) fun _ _ done => done) fun outcome => ?_
      cases outcome with
      | won =>
          refine leads_pure _ fun n told other done => ?_
          cases done
          exact told
      | lostTo winner =>
          intro n kept
          change Keeps m c winner at kept
          rw [Keeps, show (m.controller c).slot = none from vacant] at kept
          cases kept

theorem acquire_picks {n : Network} (done : ((Act.acquire c).run n).1 = .ok id) :
    Reuses n c id ∨ .opened (.ofEndpoint id) ∈ ((Act.acquire c).run n).2.history := by
  obtain ⟨other, reuses, ran⟩ | ⟨_, vacant, ran⟩ := acquire_cases c n
  · rw [ran] at done
    cases done
    exact .inl reuses
  · rw [ran] at done ⊢
    exact .inr (openFresh_opens vacant _ rfl id done)

theorem startAcquire_picks {n : Network}
    (picked : picked? ((Act.startAcquire c).run n).1 = some id) :
    Reuses n c id := by
  obtain ⟨other, reuses, ran⟩ | ⟨_, _, ran⟩ := startAcquire_cases c n
  · rw [ran] at picked
    cases picked
    exact reuses
  · rw [ran] at picked
    cases picked

end

end Interleaving

end RemoteClient
