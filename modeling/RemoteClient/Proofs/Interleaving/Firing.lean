import RemoteClient.Proofs.Interleaving.Slots
import RemoteClient.Proofs.Network.Running

namespace RemoteClient

namespace Invocation

def Finds (i : Invocation) (n : Network) : Prop :=
  ∃ token, i.token = some token ∧ token ∈ n.cancelled

end Invocation

namespace Interleaving

/-- The channel was aborted for the controller, and taken out of its slot if it was there. -/
structure Discards (c id : Nat) (n m : Network) : Prop where
  has : m.Has (.ofEndpoint id) → n.Has (.ofEndpoint id)
  channel : n.Has (.ofEndpoint id) → m.channel (.ofEndpoint id) = (n.channel (.ofEndpoint id)).abort
  others : ∀ {ref : ChannelRef}, ref ≠ .ofEndpoint id → m.channel ref = n.channel ref
  emptied : Keeps n c id → m.controller c = { n.controller c with slot := none }
  kept : ¬ Keeps n c id → m.controller c = n.controller c
  elsewhere : ∀ {d : Nat}, d ≠ c → m.controller d = n.controller d
  history : m.history =
    .aborted (.ofEndpoint id) :: (if Keeps n c id then [.removed c id] else []) ++ n.history

/-- Nothing changed but the channel, and the slot at most if the channel was in it. -/
structure Spares (c id : Nat) (n m : Network) : Prop where
  others : ∀ {ref : ChannelRef}, ref ≠ .ofEndpoint id → m.channel ref = n.channel ref
  kept : ¬ Keeps n c id → m.controller c = n.controller c
  elsewhere : ∀ {d : Nat}, d ≠ c → m.controller d = n.controller d

theorem Discards.spares {c id : Nat} {n m : Network} (discards : Discards c id n m) :
    Spares c id n m := ⟨discards.others, discards.kept, discards.elsewhere⟩

theorem Spares.noted {c id : Nat} {n m : Network} {log : List Log.Event} {history : List Deed}
    (spares : Spares c id { n with log := log, history := history } m) : Spares c id n m where
  others {ref} apart := by
    have same := spares.others apart
    cases ref <;> exact same
  kept := spares.kept
  elsewhere := spares.elsewhere

theorem Discards.noted {c id : Nat} {n m : Network} {log : List Log.Event}
    (discards : Discards c id { n with log := log } m) : Discards c id n m where
  has := discards.has
  channel := discards.channel
  others {ref} apart := by
    have same := discards.others apart
    cases ref <;> exact same
  emptied := discards.emptied
  kept := discards.kept
  elsewhere := discards.elsewhere
  history := discards.history

theorem Spares.refl (c id : Nat) (n : Network) : Spares c id n n :=
  ⟨fun _ => rfl, fun _ => rfl, fun _ => rfl⟩

section

variable {c id : Nat} {n : Network}

theorem keeps_inside (kept : Keeps n c id) : c < n.controllers.length := by
  by_contra outside
  have absent : n.controllers[c]? = none := List.getElem?_eq_none (Nat.le_of_not_lt outside)
  simp [Keeps, Network.controller, absent, Controller.empty] at kept

theorem controller_put_same (ctl : Controller) (inside : c < n.controllers.length) :
    (n.putController c ctl).controller c = ctl := by
  simp [Network.controller, Network.putController, inside]

theorem controller_put_other (ctl : Controller) {d : Nat} (apart : d ≠ c) :
    (n.putController c ctl).controller d = n.controller d := by
  simp [Network.controller, Network.putController, List.getElem?_set_ne (Ne.symm apart)]

theorem run_detach (c id : Nat) (n : Network) :
    ∃ m, (Act.detach c id).run n = ((), m) ∧ m.endpoint = n.endpoint ∧ m.standalone = n.standalone ∧
      m.controllers =
        (if Keeps n c id then n.putController c { n.controller c with slot := none }
          else n).controllers ∧
      m.history = (if Keeps n c id then [.removed c id] else []) ++ n.history := by
  rw [Act.detach, Act.run_controller]
  cases slot : (n.controller c).slot with
  | none =>
      have absent : ¬ Keeps n c id := by simp [Keeps, slot]
      exact ⟨n, rfl, rfl, rfl, by rw [if_neg absent], by rw [if_neg absent]; rfl⟩
  | some held =>
      dsimp only
      by_cases same : held.channel = id
      · have kept : Keeps n c id := by simp [Keeps, slot, same]
        rw [if_pos same, if_pos kept, if_pos kept]
        exact ⟨_, rfl, rfl, rfl, rfl, rfl⟩
      · have absent : ¬ Keeps n c id := by simp [Keeps, slot, same]
        rw [if_neg same, if_neg absent, if_neg absent]
        exact ⟨n, rfl, rfl, rfl, rfl, rfl⟩

theorem run_abort (ref : ChannelRef) (n : Network) :
    ∃ log, (Act.abort ref).run n = ((), { n.putChannel ref (n.channel ref).abort with
      log := log, history := .aborted ref :: n.history }) := by
  cases ref <;> exact ⟨_, rfl⟩

theorem run_shutdown_abort (ref : ChannelRef) (n : Network) :
    (Act.shutdownChannel ref true).run n = (.ok (), ((Act.abort ref).run n).2) := by
  rw [Act.shutdownChannel, Act.run_channel]
  simp only [Channel.ShutdownAction.choose, true_or, if_true]
  rfl

theorem invalidate_discards (c id : Nat) (n : Network) :
    Discards c id n ((Act.invalidate c id true).run n).2 := by
  obtain ⟨detached, ran, endpoint, standalone, controllers, history⟩ := run_detach c id n
  obtain ⟨log, aborted⟩ := run_abort (.ofEndpoint id) detached
  have same (ref : ChannelRef) : detached.channel ref = n.channel ref := by
    cases ref <;> simp [Network.channel, endpoint, standalone]
  have slots (d : Nat) : detached.controller d =
      (if Keeps n c id then n.putController c { n.controller c with slot := none }
        else n).controller d := by
    simp only [Network.controller, controllers]
  rw [Act.invalidate, Act.run_bind, ran, run_shutdown_abort, aborted]
  constructor
  case has =>
    intro found
    have put := detached.has_putChannel (.ofEndpoint id) (detached.channel (.ofEndpoint id)).abort
      (.ofEndpoint id)
    have before := put.mp found
    rwa [Network.Has, endpoint] at before
  case channel =>
    intro found
    have there : detached.Has (.ofEndpoint id) := by rwa [Network.Has, endpoint]
    have put :
      (detached.putChannel (.ofEndpoint id) (detached.channel (.ofEndpoint id)).abort).channel
        (.ofEndpoint id) = (detached.channel (.ofEndpoint id)).abort :=
      Network.channel_putChannel_same (detached.channel_id (.ofEndpoint id)) there
    rw [← same]
    exact put
  case others =>
    intro ref apart
    have put :
      (detached.putChannel (.ofEndpoint id) (detached.channel (.ofEndpoint id)).abort).channel
        ref = detached.channel ref :=
      Network.channel_putChannel_other (detached.channel_id (.ofEndpoint id)) apart
    rw [← same ref]
    cases ref <;> exact put
  case emptied =>
    intro kept
    refine (slots c).trans ?_
    rw [if_pos kept]
    exact controller_put_same _ (keeps_inside kept)
  case kept =>
    intro absent
    refine (slots c).trans ?_
    rw [if_neg absent]
  case elsewhere =>
    intro d apart
    refine (slots d).trans ?_
    split
    · exact controller_put_other _ apart
    · rfl
  case history => rw [history]; rfl

end

section

variable (i : Invocation) (n : Network)

theorem fire_armed (armed : i.armed) :
    ∃ m, i.fire.run n = ({ i with armed := false }, m) ∧ Discards i.controller i.channel n m := by
  rw [Invocation.fire, if_pos armed]
  exact ⟨_, rfl, invalidate_discards i.controller i.channel n⟩

theorem fire_spent (spent : i.armed = false) : i.fire.run n = (i, n) := by
  obtain ⟨controller, channel, armed, token⟩ := i
  cases spent
  rfl

theorem fire_spares : Spares i.controller i.channel n (i.fire.run n).2 := by
  cases armed : i.armed with
  | false =>
      rw [fire_spent i n armed]
      exact .refl ..
  | true =>
      obtain ⟨m, ran, discards⟩ := fire_armed i n armed
      rw [ran]
      exact discards.spares

theorem heed_calm (calm : ∀ token, i.token = some token → token ∉ n.cancelled) :
    i.heed.run n = (i, n) := by
  rw [Invocation.heed]
  cases given : i.token with
  | none => rfl
  | some token =>
      have absent : n.cancelled.contains token = false := by simpa using calm token given
      dsimp only
      rw [Act.run_isCancelled, absent]
      rfl

theorem heed_found (found : i.Finds n) :
    ∃ noted : Network,
      noted = { n with log := ⟨.debug, "call cancelled, aborting its channel", []⟩ :: n.log } ∧
      i.heed.run n = ({ (i.fire.run noted).1 with token := none }, (i.fire.run noted).2) := by
  obtain ⟨token, given, cancelled⟩ := found
  refine ⟨_, rfl, ?_⟩
  rw [Invocation.heed, given]
  dsimp only
  rw [Act.run_isCancelled, if_pos (by simpa using cancelled), Act.run_note, Act.run_bind]
  rfl

/-- A cancellation makes an armed invocation fire, and nothing else does. -/
theorem heed_cases (armed : i.armed) : (¬ i.Finds n ∧ i.heed.run n = (i, n)) ∨
    (i.Finds n ∧ ∃ m, i.heed.run n = ({ i with armed := false, token := none }, m) ∧
      Discards i.controller i.channel n m) := by
  by_cases found : i.Finds n
  · obtain ⟨noted, rfl, heeded⟩ := heed_found i n found
    obtain ⟨m, ran, discards⟩ := fire_armed i _ armed
    rw [ran] at heeded
    exact .inr ⟨found, m, heeded, discards.noted⟩
  · exact .inl ⟨found, heed_calm i n fun token given cancelled => found ⟨token, given, cancelled⟩⟩

theorem heed_spares : Spares i.controller i.channel n (i.heed.run n).2 := by
  by_cases found : i.Finds n
  · obtain ⟨noted, rfl, heeded⟩ := heed_found i n found
    rw [heeded]
    exact (fire_spares i _).noted
  · rw [heed_calm i n fun token given cancelled => found ⟨token, given, cancelled⟩]
    exact .refl ..

end

end Interleaving

end RemoteClient
