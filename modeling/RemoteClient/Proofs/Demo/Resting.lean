import RemoteClient.Demo.Basic
import RemoteClient.Proofs.Interleaving.Attempts

namespace RemoteClient

namespace Demo

open Interleaving

/-- From a network with `P`, the computation gives just this and gets to a network with `Q`. -/
def Gives {α : Type} (P : Network → Prop) (act : Act α) (a : α) (Q : Network → Prop) : Prop :=
  ∀ n, P n → ∃ m, act.run n = (a, m) ∧ Q m

section

variable {α β : Type} {P Q R : Network → Prop} {a : α} {b : β}

theorem gives_pure (a : α) : Gives P (pure a) a P := fun n holds => ⟨n, rfl, holds⟩

theorem gives_bind {act : Act α} {f : α → Act β} (first : Gives P act a Q)
    (second : Gives Q (f a) b R) :
    Gives P (act >>= f) b R := by
  intro n holds
  obtain ⟨m, ran, between⟩ := first n holds
  obtain ⟨l, runs, last⟩ := second m between
  exact ⟨l, by rw [Act.run_bind, ran]; exact runs, last⟩

theorem gives_discard {act : Act α} (gives : Gives P act a Q) : Gives P (discard act) () Q := by
  intro n holds
  obtain ⟨m, ran, last⟩ := gives n holds
  refine ⟨m, ?_, last⟩
  change ((), (act.run n).2) = _
  rw [ran]

theorem gives_weaken {P' Q' : Network → Prop} {act : Act α} (gives : Gives P act a Q)
    (before : ∀ n, P' n → P n) (after : ∀ n, Q n → Q' n) :
    Gives P' act a Q' := by
  intro n holds
  obtain ⟨m, ran, last⟩ := gives n (before n holds)
  exact ⟨m, ran, after m last⟩

end

/-- A channel that nobody has aborted or told to fail, except perhaps its next call. -/
structure Fits (state : Channel.State) (queued : Option Channel.Error) (ch : Channel) : Prop where
  state : ch.state = state
  unaborted : ch.aborted = false
  faults : ch.faults = .quiet
  callError : ch.callError = queued

namespace Fits

variable {ch : Channel}

theorem openNow (fits : Fits .created none ch) :
    ch.openNow.1 = .ok () ∧ Fits .opened none ch.openNow.2 := by
  obtain ⟨state, unaborted, faults, callError⟩ := fits
  have fine : ch.faults.openError = none := by rw [faults]; rfl
  rw [Channel.openNow]
  dsimp only
  rw [fine]
  dsimp only
  rw [if_pos state]
  exact ⟨rfl, rfl, unaborted, faults, callError⟩

theorem closeNow (fits : Fits .opened none ch) :
    ch.closeNow.1 = .ok () ∧ ch.closeNow.2.state = .closed := by
  have fine : ch.faults.closeError = none := by rw [fits.faults]; rfl
  simp [Channel.closeNow, fine, fits.state]

theorem accepts {queued : Option Channel.Error} (fits : Fits .opened queued ch) :
    ch.refusal? = none := by
  simp [Channel.refusal?, fits.unaborted, fits.state]

theorem call (fits : Fits .opened none ch) (method : String) :
    (ch.call method).1 = .ok (ch.reply method) ∧ Fits .opened none (ch.call method).2 := by
  have accepts : ({ ch with calls := ch.calls + 1 } : Channel).refusal? = none := fits.accepts
  rw [Channel.call]
  dsimp only
  rw [accepts, fits.callError]
  exact ⟨rfl, fits.state, fits.unaborted, fits.faults, rfl⟩

theorem call_fails {e : Channel.Error} (fits : Fits .opened (some e) ch) (method : String) :
    (ch.call method).1 = .error e ∧ Fits .faulted none (ch.call method).2 := by
  have accepts : ({ ch with calls := ch.calls + 1 } : Channel).refusal? = none := fits.accepts
  rw [Channel.call]
  dsimp only
  rw [accepts, fits.callError]
  exact ⟨rfl, rfl, fits.unaborted, fits.faults, rfl⟩

theorem failCall {queued : Option Channel.Error} (fits : Fits .opened queued ch)
    (e : Channel.Error) :
    Fits .opened (some e) (ch.failCall e) := ⟨fits.state, fits.unaborted, fits.faults, rfl⟩

end Fits

/-- The endpoint has made so many channels and plans no failures for more, and these tokens were
cancelled. -/
structure Made (made : Nat) (tokens : List String) (n : Network) : Prop where
  numbered : n.endpoint.Numbered
  count : n.endpoint.channels.length = made
  pending : n.endpoint.pending = .quiet
  cancelled : n.cancelled = tokens

structure Idle (made : Nat) (tokens : List String) (n : Network) :
    Prop extends Made made tokens n where
  controllers : n.controllers = [⟨none, made⟩]
  closed : ∀ ch ∈ n.endpoint.channels, ch.state = .closed

/-- Every channel but the last is closed, and the last is as described, whether it is in the slot or
not. -/
structure Stands (made : Nat) (ctl : Controller) (P : Channel → Prop) (tokens : List String)
    (n : Network) : Prop
    extends Made made tokens n where
  positive : 0 < made
  controllers : n.controllers = [ctl]
  closed : ∀ ch ∈ n.endpoint.channels, ch.id ≠ made → ch.state = .closed
  last : P (n.channel (.ofEndpoint made))

/-- The last channel is in the slot and takes calls. The next one fails if an error is queued for
it. -/
def Ready (made : Nat) (queued : Option Channel.Error) (tokens : List String) : Network → Prop :=
  Stands made ⟨some ⟨made, made⟩, made⟩ (Fits .opened queued) tokens

section

variable {made : Nat} {ctl : Controller} {P Q : Channel → Prop} {queued : Option Channel.Error}
  {tokens : List String} {n : Network} {ch : Channel}

theorem Made.put (kept : Made made tokens n) (id : Nat) (ch : Channel) :
    Made made tokens (n.putChannel (.ofEndpoint id) ch) where
  numbered := Endpoint.replace_numbered kept.numbered ch
  count := by rw [← kept.count, Network.putChannel, Endpoint.replace, List.length_map]
  pending := kept.pending
  cancelled := kept.cancelled

theorem Made.noted (kept : Made made tokens n) (clock waits : Nat) (log : List Log.Event)
    (history : List Deed) :
    Made made tokens { n with clock := clock, waits := waits, log := log, history := history } :=
  ⟨kept.numbered, kept.count, kept.pending, kept.cancelled⟩

theorem Idle.noted (idle : Idle made tokens n) (clock waits : Nat) (log : List Log.Event)
    (history : List Deed) :
    Idle made tokens { n with clock := clock, waits := waits, log := log, history := history } :=
  ⟨idle.toMade.noted clock waits log history, idle.controllers, idle.closed⟩

theorem Idle.channel_closed (idle : Idle made tokens n) {id : Nat} (has : n.Has (.ofEndpoint id)) :
    (n.channel (.ofEndpoint id)).state = .closed := by
  obtain ⟨ch, found⟩ := Option.isSome_iff_exists.mp has
  rw [Network.channel_endpoint, found]
  exact idle.closed ch (List.mem_of_find?_eq_some found)

theorem Idle.put (idle : Idle made tokens n) (id : Nat) (closed : ch.state = .closed) :
    Idle made tokens (n.putChannel (.ofEndpoint id) ch) where
  toMade := idle.toMade.put id ch
  controllers := idle.controllers
  closed other member := by
    obtain ⟨old, inside, rfl⟩ := List.mem_map.mp member
    split
    · exact closed
    · exact idle.closed old inside

namespace Stands

theorem noted (stands : Stands made ctl P tokens n) (clock waits : Nat) (log : List Log.Event)
    (history : List Deed) :
    Stands made ctl P tokens
      { n with clock := clock, waits := waits, log := log, history := history } :=
  ⟨stands.toMade.noted clock waits log history, stands.positive, stands.controllers, stands.closed,
    stands.last⟩

theorem slotted (stands : Stands made ctl P tokens n) (next : Controller) :
    Stands made next P tokens { n with controllers := [next] } where
  numbered := stands.numbered
  count := stands.count
  pending := stands.pending
  cancelled := stands.cancelled
  positive := stands.positive
  controllers := rfl
  closed := stands.closed
  last := stands.last

theorem has (stands : Stands made ctl P tokens n) : n.Has (.ofEndpoint made) :=
  (Endpoint.numbered_isSome stands.numbered).mpr ⟨stands.positive, stands.count.ge⟩

theorem put (stands : Stands made ctl P tokens n) (named : ch.id = made) (holds : Q ch) :
    Stands made ctl Q tokens (n.putChannel (.ofEndpoint made) ch) where
  toMade := stands.toMade.put made ch
  positive := stands.positive
  controllers := stands.controllers
  closed other member apart := by
    obtain ⟨old, inside, rfl⟩ := List.mem_map.mp member
    split at apart
    · exact absurd named apart
    next differs => rw [if_neg differs]; exact stands.closed old inside apart
  last := by rwa [Network.channel_putChannel_same named stands.has]

theorem weaken (stands : Stands made ctl P tokens n) (weaker : ∀ ch, P ch → Q ch) :
    Stands made ctl Q tokens n :=
  ⟨stands.toMade, stands.positive, stands.controllers, stands.closed, weaker _ stands.last⟩

theorem idle (stands : Stands made ⟨none, made⟩ (·.state = .closed) tokens n) :
    Idle made tokens n where
  toMade := stands.toMade
  controllers := stands.controllers
  closed ch member := by
    by_cases own : ch.id = made
    · have found : n.endpoint.find? made = some ch :=
        own ▸ Endpoint.find_member stands.numbered member
      have last := stands.last
      rwa [Network.channel_endpoint, found] at last
    · exact stands.closed ch member own

end Stands

theorem work_gives {α : Type} {act : Act α} {a : α} (work : Channel → α × Channel)
    (works : ∀ n, ∃ log history, act.run n = ((work (n.channel (.ofEndpoint made))).1,
      { n.putChannel (.ofEndpoint made) (work (n.channel (.ofEndpoint made))).2 with
        log := log, history := history }))
    (does : ∀ ch, ch.id = made → P ch → (work ch).1 = a ∧ (work ch).2.id = made ∧ Q (work ch).2) :
    Gives (Stands made ctl P tokens) act a (Stands made ctl Q tokens) := by
  intro n stands
  obtain ⟨log, history, ran⟩ := works n
  obtain ⟨same, named, holds⟩ := does _ (n.channel_id (.ofEndpoint made)) stands.last
  exact ⟨_, ran.trans
    (congrArg (·, _) same), (stands.put named holds).noted n.clock n.waits log history⟩

theorem openNow_gives :
    Gives (Stands made ctl (Fits .created none) tokens) (Act.openNow (.ofEndpoint made))
    (.ok ()) (Stands made ctl (Fits .opened none) tokens) := by
  refine work_gives Channel.openNow (fun _ => ⟨_, _, rfl⟩) fun ch named fits => ?_
  exact ⟨fits.openNow.1, (Channel.openNow_id ch).trans named, fits.openNow.2⟩

theorem closeNow_gives :
    Gives (Stands made ctl (Fits .opened none) tokens) (Act.closeNow (.ofEndpoint made))
    (.ok ()) (Stands made ctl (·.state = .closed) tokens) := by
  refine work_gives Channel.closeNow (fun _ => ⟨_, _, rfl⟩) fun ch named fits => ?_
  exact ⟨fits.closeNow.1, (Channel.closeNow_id ch).trans named, fits.closeNow.2⟩

theorem abort_gives : Gives (Stands made ctl P tokens) (Act.abort (.ofEndpoint made)) ()
    (Stands made ctl (fun ch => ch.state = .closed ∧ ch.aborted) tokens) :=
  work_gives (fun ch => ((), ch.abort)) (fun _ => ⟨_, _, rfl⟩) fun _ named _ =>
    ⟨rfl, named, rfl, rfl⟩

theorem call_gives (method : String) : Gives (Stands made ctl (Fits .opened none) tokens)
    (Act.call (.ofEndpoint made) method) (.ok (method ++ "@" ++ toString made))
    (Stands made ctl (Fits .opened none) tokens) := by
  refine work_gives (·.call method) (Act.run_call _ method) fun ch named fits => ?_
  obtain ⟨replies, still⟩ := fits.call method
  exact ⟨by rw [replies, Channel.reply, named], (Channel.call_same ch method).1.trans named, still⟩

theorem call_queued_gives (e : Channel.Error) (method : String) :
    Gives (Stands made ctl (Fits .opened (some e)) tokens) (Act.call (.ofEndpoint made) method)
      (.error e) (Stands made ctl (Fits .faulted none) tokens) := by
  refine work_gives (·.call method) (Act.run_call _ method) fun ch named fits => ?_
  obtain ⟨fails, faulted⟩ := fits.call_fails method
  exact ⟨fails, (Channel.call_same ch method).1.trans named, faulted⟩

theorem failCall_gives (e : Channel.Error) : Gives (Stands made ctl (Fits .opened queued) tokens)
    (Act.modifyChannel (.ofEndpoint made) (·.failCall e)) ()
      (Stands made ctl (Fits .opened (some e)) tokens) :=
  work_gives (fun ch => ((), ch.failCall e)) (fun n => ⟨n.log, n.history, rfl⟩) fun _ named fits =>
    ⟨rfl, named, fits.failCall e⟩

theorem start_gives {method : String} {result : Except Channel.Error String}
    (calls : Gives (Stands made ctl (Fits .opened queued) tokens)
      (Act.call (.ofEndpoint made) method) result
      (Stands made ctl P tokens)) :
    Gives (Stands made ctl (Fits .opened queued) tokens) (Call.start
      (.ofEndpoint made) method 0) (.done result)
      (Stands made ctl P tokens) := by
  intro n stands
  let stamped : Network := { n with waits := n.waits + 1 }
  obtain ⟨m, ran, last⟩ := calls stamped (stands.noted n.clock (n.waits + 1) n.log n.history)
  have unaborted : (stamped.channel (.ofEndpoint made)).aborted = false := stands.last.unaborted
  have due : (Act.wake? (.ofEndpoint made) (n.clock + 0)).run stamped = (some .time, stamped) := by
    rw [Act.run_wake unaborted]
    exact congrArg (·, stamped) (if_pos (Nat.le_refl n.clock))
  refine ⟨m, ?_, last⟩
  rw [Call.start, Act.run_channel, stands.last.accepts]
  change (Call.check (.ofEndpoint made) ⟨method, n.clock + 0, n.waits⟩).run stamped = _
  rw [Call.check, Act.run_bind, due]
  dsimp only
  rw [Act.run_bind, ran]
  rfl

theorem note_gives (event : Log.Event) :
    Gives (Stands made ctl P tokens) (Act.note event) () (Stands made ctl P tokens) :=
  fun n stands => ⟨_, rfl, stands.noted n.clock n.waits _ n.history⟩

theorem record_gives (deed : Deed) :
    Gives (Stands made ctl P tokens) (Act.record deed) () (Stands made ctl P tokens) :=
  fun n stands => ⟨_, rfl, stands.noted n.clock n.waits n.log _⟩

theorem controller_gives {S : Network → Prop} (only : ∀ n, S n → n.controllers = [ctl]) :
    Gives S (Act.controller 0) ctl S := by
  intro n holds
  have found : n.controller 0 = ctl := by simp [Network.controller, only n holds]
  exact ⟨n, congrArg (·, n) found, holds⟩

theorem putController_gives (next : Controller) :
    Gives (Stands made ctl P tokens) (Act.putController 0 next) () (Stands made next P tokens) := by
  intro n stands
  have put : n.putController 0 next = { n with controllers := [next] } := by
    rw [Network.putController, stands.controllers]
    rfl
  exact ⟨_, congrArg ((), ·) put, stands.slotted next⟩

theorem turn_gives {state : Channel.State} : Gives (Stands made ctl (Fits state queued) tokens)
    (Handshake.turn.resume (.ofEndpoint made)) (.done (.ok ()))
      (Stands made ctl (Fits state queued) tokens) := by
  intro n stands
  have quick : (n.channel (.ofEndpoint made)).faults.latency = 0 := by rw [stands.last.faults]; rfl
  exact ⟨n, by rw [Act.run_turn stands.last.unaborted, if_pos quick], stands⟩

theorem startAcquire_gives :
    Gives (Idle made tokens) (Act.startAcquire 0) (.pending (.opening (made + 1) .turn))
    (Stands (made + 1) ⟨none, made⟩ (Fits .created none) tokens) := by
  intro n idle
  have vacant : Vacant 0 n := by simp [Vacant, Network.controller, idle.controllers]
  have count : n.created.endpoint.channels.length = made + 1 := by
    rw [← idle.count, Network.created, Endpoint.create, List.length_append, List.length_singleton]
  have fresh :
      n.created.channel (.ofEndpoint (made + 1)) = .fresh (made + 1) n.endpoint.address .quiet := by
    have created := Network.channel_created idle.numbered
    rwa [idle.count, Endpoint.create, idle.count, idle.pending] at created
  have pending : n.created.endpoint.pending = .quiet := by
    rw [Network.created, Endpoint.create, idle.pending]
    rfl
  have closed : ∀ ch ∈ n.created.endpoint.channels, ch.id ≠ made + 1 → ch.state = .closed := by
    intro ch member apart
    rcases List.mem_append.mp member with old | new
    · exact idle.closed ch old
    · rw [List.mem_singleton.mp new, idle.count] at apart
      exact absurd rfl apart
  have stands : Stands (made + 1) ⟨none, made⟩ (Fits .created none) tokens n.created := by
    refine ⟨⟨Endpoint.create_numbered idle.numbered, count,
      pending, idle.cancelled⟩, Nat.succ_pos made,
      idle.controllers, closed, ?_⟩
    rw [fresh]
    exact ⟨rfl, rfl, rfl, rfl⟩
  refine ⟨_, ?_, stands.noted n.clock n.waits n.log (.created (made + 1) :: n.history)⟩
  rw [run_startAcquire_vacant vacant, idle.count]
  rfl

theorem install_gives :
    Gives (Stands (made + 1) ⟨none, made⟩ P tokens) (Act.install 0 (made + 1)) .won
    (Stands (made + 1) ⟨some ⟨made + 1, made + 1⟩, made + 1⟩ P tokens) :=
  gives_bind (controller_gives fun _ => Stands.controllers) <| gives_bind (note_gives _) <|
    gives_bind (putController_gives _) <| gives_bind (record_gives _) <| gives_pure _

theorem resumeAcquire_gives : Gives (Stands (made + 1) ⟨none, made⟩ (Fits .created none) tokens)
    (Act.resumeAcquire 0 (.opening (made + 1) .turn)) (.done (.ok (made + 1)))
      (Ready (made + 1) none tokens) := by
  have opens : Gives (Stands (made + 1) ⟨none, made⟩ (Fits .created none) tokens)
      (Act.resumeOpen (.ofEndpoint (made + 1)) .turn) (.done (.ok ()))
      (Stands (made + 1) ⟨none, made⟩ (Fits .opened none) tokens) :=
    gives_bind turn_gives <| gives_bind openNow_gives <| gives_pure _
  exact gives_bind opens <| gives_bind install_gives <| gives_pure _

theorem Idle.acquire :
    Gives (Idle made tokens) acquire (.ok (made + 1)) (Ready (made + 1) none tokens) :=
  gives_bind startAcquire_gives <| gives_bind (gives_pure ()) <| gives_bind resumeAcquire_gives <|
    gives_pure _

theorem Ready.acquire :
    Gives (Ready made queued tokens) acquire (.ok made) (Ready made queued tokens) := by
  refine gives_bind (a := .done (.ok made))
    (fun n ready => ⟨n, run_startAcquire_reuse ⟨?_, ?_⟩, ready⟩)
    (gives_pure _)
  · simp [Keeps, Network.controller, ready.controllers]
  · rw [ready.last.state]
    rfl

structure Scrapped (made : Nat) (tokens : List String) (n : Network) :
    Prop extends Idle made tokens n where
  aborted : (n.channel (.ofEndpoint made)).aborted

theorem fire_gives (token : Option String) :
    Gives (Stands made ⟨some ⟨made, made⟩, made⟩ P tokens) (Invocation.start 0 made token).fire
      ⟨0, made, false, token⟩ (Scrapped made tokens) := by
  have detaches : Gives (Stands made ⟨some ⟨made, made⟩, made⟩ P tokens) (Act.detach 0 made) ()
      (Stands made ⟨none, made⟩ P tokens) := by
    refine gives_bind (controller_gives fun _ => Stands.controllers) ?_
    dsimp only
    rw [if_pos rfl]
    exact gives_bind (note_gives _) <| gives_bind (putController_gives _) <| record_gives _
  have aborts :
    Gives (Stands made ⟨none, made⟩ P tokens) (Act.shutdownChannel (.ofEndpoint made) true) (.ok ())
      (Scrapped made tokens) := by
    intro n stands
    obtain ⟨m, ran, last⟩ := abort_gives n stands
    exact ⟨m, by rw [run_shutdown_abort, ran], (last.weaken fun _ ends => ends.1).idle, last.last.2⟩
  have invalidates : Gives (Stands made ⟨some ⟨made, made⟩, made⟩ P tokens)
      (discard (Act.invalidate 0 made true)) () (Scrapped made tokens) :=
    gives_discard (gives_bind detaches aborts)
  exact gives_bind invalidates (gives_pure _)

end

end Demo

end RemoteClient
