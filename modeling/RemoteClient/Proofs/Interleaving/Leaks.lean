import RemoteClient.Proofs.Interleaving.Runs

/-!
No channel leaks. A channel that a controller made is in its slot, in the care of a call that is not
over, or torn down, at every moment of every run.
-/

namespace RemoteClient.Interleaving

namespace System

def MadeBy (s : System) (c id : Nat) : Prop := ∃ k, ⟨.call c k, .created id⟩ ∈ s.history

/-- The channel was aborted, a close on it succeeded, or it was to be shut down and found closed. -/
def TornDown (s : System) (id : Nat) : Prop := ∃ r ∈ s.history, r.deed.tearsDown id

/-- A call on the controller that is not over is opening the channel, which it created itself. -/
def BeingOpened (s : System) (c id : Nat) : Prop :=
  ∃ k stage, s.tasks[k]? = some ⟨c, stage⟩ ∧ stage.opens? = some id ∧
    ⟨.call c k, .created id⟩ ∈ s.history

/-- A call on the controller that is not over is closing the channel, which it created itself and
lost the race with, or took out of the slot. -/
def BeingClosed (s : System) (c id : Nat) : Prop :=
  ∃ k stage, s.tasks[k]? = some ⟨c, stage⟩ ∧ stage.closes? = some id ∧
    (⟨.call c k, .created id⟩ ∈ s.history ∨ ⟨.call c k, .removed c id⟩ ∈ s.history)

end System

/-- The controller was dropped, or a call has disposed of it and nothing was installed in its slot
since: a controller that was disposed of can be used again. -/
def Retired (address : String) (events : List Event) (c : Nat) : Prop :=
  c ∈ (run address events).dropped ∨
    ∃ earlier op later, events = earlier ++ .begin c op :: later ∧
      (op = .dispose ∨ op = .disposeAsync) ∧ (run address earlier).hasController c ∧
      ((run address events).network.controller c).generation =
        ((run address earlier).network.controller c).generation

theorem sound_accounted {s : System} (sound : Sound s) {c id : Nat} (made : s.MadeBy c id) :
    Keeps s.network c id ∨ s.BeingOpened c id ∨ s.BeingClosed c id ∨ s.TornDown id := by
  obtain ⟨maker, did⟩ := made
  rcases sound.standing.accounted did with cached | ⟨k, own, took⟩ | torn
  · exact .inl ((slot_network s c).symm.trans cached)
  · cases found : s.tasks[k]? with
    | none =>
        rw [hands_none found] at own
        cases own
    | some task =>
        obtain ⟨owner, stage⟩ := task
        have same : owner = c := by
          by_contra apart
          simp [System.hands, found, apart, Hand.own?] at own
        subst same
        have hand := hands_call found rfl
        rw [hand] at own
        rcases Stage.own_cases own with opens | closes
        · have fresh : (s.hands (.call owner k)).fresh? = some id := by
            rw [hand, Stage.opens_hand opens]
            rfl
          obtain ⟨_, _, _, _, created, _⟩ := sound.standing.fresh fresh
          exact .inr (.inl ⟨k, stage, found, opens, created⟩)
        · exact .inr (.inr (.inl ⟨k, stage, found, closes, took⟩))
  · exact .inr (.inr (.inr torn))

theorem retired_vacant {address : String} {events : List Event} {c : Nat}
    (retired : Retired address events c) : (run address events).ledger.slot? c = none := by
  rcases retired with dropped | ⟨earlier, op, later, rfl, disposes, present, level⟩
  · exact ((run_sound address events).retired dropped).2
  · have begun := run_later address earlier [.begin c op] c
    have after := run_later address (earlier ++ [.begin c op]) later c
    rw [List.append_assoc, List.singleton_append] at after
    have vacant : (run address (earlier ++ [.begin c op])).ledger.slot? c = none := by
      rw [run, List.foldl_append]
      exact begin_vacates present disposes
    rw [← generation_network, ← generation_network] at level
    have early := begun.generation
    have late := after.generation
    exact after.slot (by omega) vacant

theorem made_channels_never_leak (address : String) (events : List Event) (c id : Nat)
    (made : (run address events).MadeBy c id) :
    (Keeps (run address events).network c id ∨ (run address events).BeingOpened c id ∨
        (run address events).BeingClosed c id ∨ (run address events).TornDown id) ∧
      ((run address events).isIdle c → Retired address events c →
        (run address events).TornDown id) := by
  have sound := run_sound address events
  refine ⟨sound_accounted sound made, fun idle retired => ?_⟩
  rcases sound_accounted sound made with cached | ⟨k, stage, found, opens, _⟩ |
    ⟨k, stage, found, closes, _⟩ | torn
  · have vacant := retired_vacant retired
    rw [slot_network, show _ = some id from cached] at vacant
    cases vacant
  · have ended := idle_iff.mp idle found rfl
    cases stage <;> simp_all [Stage.isOver, Stage.opens?]
  · have ended := idle_iff.mp idle found rfl
    cases stage <;> simp_all [Stage.isOver, Stage.closes?]
  · exact torn

theorem disposed_channel_torn_down :
    (run "mem://a"
      [.newController, .begin 0 .acquireAsync, .resume 0, .begin 0 .dispose]).TornDown 1 := by
  refine (made_channels_never_leak "mem://a" _ 0 1 ⟨0, by decide⟩).2 (by decide) (.inr ?_)
  exact ⟨[.newController, .begin 0 .acquireAsync, .resume 0], .dispose, [], rfl, .inl rfl,
    by decide, by decide⟩

end RemoteClient.Interleaving
