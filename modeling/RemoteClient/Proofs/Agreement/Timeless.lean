import RemoteClient.Controller.Invocation
import RemoteClient.Network.Waiting

namespace RemoteClient

/-- From alike states the two computations give the same, and leave alike states behind. -/
def Matches {σ α : Type} (E : σ → σ → Prop) (p q : StateM σ α) : Prop :=
  ∀ s t, E s t → (p.run s).1 = (q.run t).1 ∧ E (p.run s).2 (q.run t).2

section

variable {σ α β : Type} {E : σ → σ → Prop}

theorem matches_pure (a : α) : Matches E (pure a) (pure a) := fun _ _ alike => ⟨rfl, alike⟩

theorem matches_bind {p q : StateM σ α} {f g : α → StateM σ β} (first : Matches E p q)
    (second : ∀ a, Matches E (f a) (g a)) : Matches E (p >>= f) (q >>= g) := by
  intro s t alike
  obtain ⟨same, after⟩ := first s t alike
  rw [StateT.run_bind, StateT.run_bind]
  change ((f (p.run s).1).run (p.run s).2).1 = ((g (q.run t).1).run (q.run t).2).1 ∧
    E ((f (p.run s).1).run (p.run s).2).2 ((g (q.run t).1).run (q.run t).2).2
  rw [← same]
  exact second _ _ _ after

theorem matches_read {p : StateM σ α} {f : σ → α} (reads : ∀ s, p.run s = (f s, s))
    (same : ∀ s t, E s t → f s = f t) : Matches E p p := by
  intro s t alike
  rw [reads, reads]
  exact ⟨same s t alike, alike⟩

theorem matches_modify {p : StateM σ Unit} {f : σ → σ} (modifies : ∀ s, p.run s = ((), f s))
    (same : ∀ s t, E s t → E (f s) (f t)) : Matches E p p := by
  intro s t alike
  rw [modifies, modifies]
  exact ⟨rfl, same s t alike⟩

end

namespace Network

structure Alike (n m : Network) : Prop where
  endpoint : n.endpoint = m.endpoint
  standalone : n.standalone = m.standalone
  controllers : n.controllers = m.controllers
  cancelled : n.cancelled = m.cancelled

namespace Alike

variable {n m : Network}

theorem refl (n : Network) : Alike n n := ⟨rfl, rfl, rfl, rfl⟩

theorem symm (alike : Alike n m) : Alike m n :=
  ⟨alike.endpoint.symm, alike.standalone.symm, alike.controllers.symm, alike.cancelled.symm⟩

theorem trans {l : Network} (first : Alike n m) (second : Alike m l) : Alike n l :=
  ⟨first.endpoint.trans second.endpoint, first.standalone.trans second.standalone,
    first.controllers.trans second.controllers, first.cancelled.trans second.cancelled⟩

theorem channel (alike : Alike n m) (ref : ChannelRef) : n.channel ref = m.channel ref := by
  cases ref <;> simp [Network.channel, alike.endpoint, alike.standalone]

theorem controller (alike : Alike n m) (c : Nat) : n.controller c = m.controller c := by
  simp [Network.controller, alike.controllers]

theorem putChannel (alike : Alike n m) (ref : ChannelRef) (ch : Channel) :
    Alike (n.putChannel ref ch) (m.putChannel ref ch) := by
  cases ref <;>
    exact ⟨by simp [Network.putChannel, alike.endpoint],
      by simp [Network.putChannel, alike.standalone],
      alike.controllers, alike.cancelled⟩

end Alike

end Network

namespace Act

/-- The computation does not look at what may differ between alike networks. -/
abbrev Timeless {α : Type} (act : Act α) : Prop := Matches Network.Alike act act

section

variable {α β : Type}

theorem timeless_note (event : Log.Event) : Timeless (note event) :=
  matches_modify (fun _ => rfl) fun _ _ alike => ⟨alike.1, alike.2, alike.3, alike.4⟩

theorem timeless_trace (message : String) : Timeless (trace message) := timeless_note _

theorem timeless_record (deed : Deed) : Timeless (record deed) :=
  matches_modify (fun _ => rfl) fun _ _ alike => ⟨alike.1, alike.2, alike.3, alike.4⟩

theorem timeless_channel (ref : ChannelRef) : Timeless (channel ref) :=
  matches_read (fun _ => rfl) fun _ _ alike => alike.channel ref

theorem timeless_controller (c : Nat) : Timeless (controller c) :=
  matches_read (fun _ => rfl) fun _ _ alike => alike.controller c

theorem timeless_putChannel (ref : ChannelRef) (ch : Channel) : Timeless (putChannel ref ch) :=
  matches_modify (fun _ => rfl) fun _ _ alike => alike.putChannel ref ch

theorem timeless_modifyChannel (ref : ChannelRef) (f : Channel → Channel) :
    Timeless (modifyChannel ref f) :=
  matches_bind (timeless_channel ref) fun _ => timeless_putChannel ref _

theorem timeless_putController (c : Nat) (ctl : Controller) : Timeless (putController c ctl) :=
  matches_modify (fun _ => rfl) fun _ _ alike =>
    ⟨alike.endpoint, alike.standalone, by simp [Network.putController, alike.controllers],
      alike.cancelled⟩

theorem timeless_pending (f : Channel.Faults → Channel.Faults) {act : Act Unit}
    (modifies : ∀ n, act.run n = ((), { n with endpoint.pending := f n.endpoint.pending })) :
      Timeless act :=
  matches_modify modifies fun _ _ alike =>
    ⟨by simp [alike.endpoint], alike.standalone, alike.controllers, alike.cancelled⟩

theorem timeless_create : Timeless create := by
  apply matches_bind (E := Network.Alike)
  · intro n m alike
    have made : n.endpoint.create = m.endpoint.create := by rw [alike.endpoint]
    exact ⟨congrArg (·.1.id) made, congrArg Prod.snd made, alike.standalone, alike.controllers,
      alike.cancelled⟩
  · exact fun id => matches_bind (timeless_record _) fun _ => matches_pure id

theorem timeless_addController : Timeless addController := by
  intro n m alike
  exact ⟨congrArg List.length alike.controllers, alike.endpoint, alike.standalone,
    congrArg (· ++ [Controller.empty]) alike.controllers, alike.cancelled⟩

theorem timeless_work {ref : ChannelRef} {message : Channel → String} {work : Channel → α × Channel}
    {deed : α → Deed} : Timeless (do
      let ch ← channel ref
      trace (message ch)
      let (a, ch) := work ch
      putChannel ref ch
      record (deed a)
      return a) :=
  matches_bind (timeless_channel ref) fun _ => matches_bind (timeless_trace _) fun _ =>
    matches_bind (timeless_putChannel ref _) fun _ => matches_bind (timeless_record _) fun _ =>
      matches_pure _

theorem timeless_openNow (ref : ChannelRef) : Timeless (openNow ref) := timeless_work

theorem timeless_closeNow (ref : ChannelRef) : Timeless (closeNow ref) := timeless_work

theorem timeless_abort (ref : ChannelRef) : Timeless (abort ref) :=
  matches_bind (timeless_channel ref) fun _ => matches_bind (timeless_trace _) fun _ =>
    matches_bind (timeless_putChannel ref _) fun _ => timeless_record _

theorem timeless_call (ref : ChannelRef) (method : String) : Timeless (call ref method) := by
  apply matches_bind (timeless_channel ref)
  intro ch
  have answered : Timeless (do
      putChannel ref (ch.call method).2
      return (ch.call method).1) := matches_bind (timeless_putChannel ref _) fun _ => matches_pure _
  dsimp only
  split
  · exact matches_bind (timeless_trace _) fun _ => answered
  · exact answered

theorem timeless_force (ref : ChannelRef) (state : Channel.State) : Timeless (force ref state) :=
  matches_bind (timeless_channel ref) fun _ => matches_bind (timeless_trace _) fun _ =>
    timeless_putChannel ref _

theorem timeless_afterClose (ref : ChannelRef) (result : Except Channel.Error Unit) :
    Timeless (afterClose ref result) := by
  cases result with
  | ok => exact matches_pure _
  | error e =>
      apply matches_bind (timeless_abort ref)
      intro _
      dsimp only
      split
      · exact matches_bind (timeless_note _) fun _ => matches_pure _
      · exact matches_bind (timeless_note _) fun _ => matches_pure _

theorem timeless_shutdownChannel (ref : ChannelRef) (alwaysAbort : Bool) :
    Timeless (shutdownChannel ref alwaysAbort) := by
  apply matches_bind (timeless_channel ref)
  intro ch
  split
  · exact matches_bind (timeless_abort ref) fun _ => matches_pure _
  · exact matches_bind (timeless_record _) fun _ => matches_pure _
  · exact matches_bind (timeless_closeNow ref) (timeless_afterClose ref)

theorem timeless_cached (c : Nat) : Timeless (cached c) :=
  matches_bind (timeless_controller c) fun _ => matches_pure _

theorem timeless_cachedState (c : Nat) : Timeless (cachedState c) := by
  apply matches_bind (timeless_cached c)
  intro found
  cases found with
  | none => exact matches_pure _
  | some id => exact matches_bind (timeless_channel _) fun _ => matches_pure _

theorem timeless_describeController (c : Nat) : Timeless (describeController c) :=
  matches_bind (timeless_controller c) fun _ => matches_bind (timeless_cachedState c) fun _ =>
    matches_pure _

theorem timeless_take (c : Nat) : Timeless (take c) := by
  apply matches_bind (timeless_controller c)
  intro ctl
  split
  · exact matches_pure _
  · exact matches_bind (timeless_putController c _) fun _ =>
      matches_bind (timeless_record _) fun _ => matches_pure _

theorem timeless_takeStale (c : Nat) : Timeless (takeStale c) := by
  apply matches_bind (timeless_controller c)
  intro ctl
  dsimp only
  split
  · exact matches_pure _
  · apply matches_bind (timeless_channel _)
    intro ch
    split
    · exact matches_pure _
    · exact matches_bind (timeless_putController c _) fun _ =>
        matches_bind (timeless_record _) fun _ =>
        matches_bind (timeless_note _) fun _ => matches_pure _

theorem timeless_install (c id : Nat) : Timeless (install c id) := by
  apply matches_bind (timeless_controller c)
  intro ctl
  dsimp only
  split
  · exact matches_pure _
  · exact matches_bind (timeless_note _) fun _ => matches_bind (timeless_putController c _) fun _ =>
      matches_bind (timeless_record _) fun _ => matches_pure _

theorem timeless_detach (c id : Nat) : Timeless (detach c id) := by
  apply matches_bind (timeless_controller c)
  intro ctl
  split
  · split
    · exact matches_bind (timeless_note _) fun _ =>
        matches_bind (timeless_putController c _) fun _ =>
        timeless_record _
    · exact matches_pure _
  · exact matches_pure _

theorem timeless_invalidate (c id : Nat) (alwaysAbort : Bool) :
    Timeless (invalidate c id alwaysAbort) :=
  matches_bind (timeless_detach c id) fun _ => timeless_shutdownChannel _ alwaysAbort

theorem timeless_shutdown (c : Nat) (alwaysAbort : Bool) : Timeless (shutdown c alwaysAbort) := by
  apply matches_bind (timeless_take c)
  intro found
  cases found with
  | none => exact matches_pure _
  | some id => exact timeless_shutdownChannel _ alwaysAbort

theorem timeless_noteIgnored (result : Except Channel.Error Unit) :
    Timeless (noteIgnored result) := by
  cases result with
  | ok => exact matches_pure _
  | error e => exact timeless_note _

theorem timeless_noteLoserKept (result : Except Channel.Error Unit) :
    Timeless (noteLoserKept result) := by
  cases result with
  | ok => exact matches_pure _
  | error e => exact timeless_note _

theorem timeless_dispose (c : Nat) : Timeless (dispose c) :=
  matches_bind (timeless_shutdown c false) timeless_noteIgnored

theorem timeless_discardStale (c : Nat) : Timeless (discardStale c) := by
  apply matches_bind (timeless_takeStale c)
  intro found
  cases found with
  | none => exact matches_pure _
  | some id => exact timeless_shutdownChannel _ false

theorem timeless_openFresh (c : Nat) : Timeless (openFresh c) := by
  apply matches_bind timeless_create
  intro id
  apply matches_bind (timeless_openNow _)
  intro opened
  cases opened with
  | error e =>
      exact matches_bind (timeless_note _) fun _ => matches_bind (timeless_abort _) fun _ =>
        matches_pure _
  | ok =>
      apply matches_bind (timeless_install c id)
      intro outcome
      cases outcome with
      | won => exact matches_pure _
      | lostTo winner =>
          exact matches_bind (timeless_shutdownChannel _ false) fun result =>
            matches_bind (timeless_noteLoserKept result) fun _ => matches_pure _

theorem timeless_reuseOrOpen (c : Nat) : Timeless (reuseOrOpen c) := by
  apply matches_bind (timeless_cached c)
  intro found
  cases found with
  | some id => exact matches_pure _
  | none => exact timeless_openFresh c

theorem timeless_acquire (c : Nat) : Timeless (acquire c) := by
  apply matches_bind (timeless_discardStale c)
  intro result
  cases result with
  | error e => exact matches_pure _
  | ok => exact timeless_reuseOrOpen c

end

end Act

namespace Invocation

theorem timeless_fire (i : Invocation) : Act.Timeless i.fire := by
  unfold fire
  dsimp only
  split
  · exact matches_bind
      (matches_bind (Act.timeless_invalidate _ _ true) fun _ => matches_pure _) fun _ =>
      matches_pure _
  · exact matches_pure _

theorem timeless_finish (i : Invocation) (succeeded : Bool) :
    Act.Timeless (i.finish succeeded) := by
  cases succeeded with
  | true => exact matches_pure _
  | false => exact matches_bind (timeless_fire i) fun _ => matches_pure _

end Invocation

end RemoteClient
