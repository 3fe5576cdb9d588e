import RemoteClient.Controller.Invocation

namespace RemoteClient.Act

variable {α β : Type} (n : Network)

theorem run_bind (act : Act α) (f : α → Act β) :
    (act >>= f).run n = (f (act.run n).1).run (act.run n).2 := rfl

theorem run_note (event : Log.Event) (f : Unit → Act β) :
    (note event >>= f).run n = (f ()).run { n with log := event :: n.log } := rfl

theorem run_channel (ref : ChannelRef) (f : Channel → Act β) :
    (channel ref >>= f).run n = (f (n.channel ref)).run n := rfl

theorem run_controller (c : Nat) (f : Controller → Act β) :
    (controller c >>= f).run n = (f (n.controller c)).run n := rfl

theorem run_isCancelled (token : String) (f : Bool → Act β) :
    (isCancelled token >>= f).run n = (f (n.cancelled.contains token)).run n := rfl

theorem run_call (ref : ChannelRef) (method : String) (n : Network) :
    ∃ log history, (call ref method).run n =
    (((n.channel ref).call method).1,
      { n.putChannel ref ((n.channel ref).call method).2 with log := log, history :=
        history }) := by
  rw [call, run_channel]
  by_cases meets : (n.channel ref).meetsCallError
  · rw [if_pos meets]
    cases ref <;> exact ⟨_, _, rfl⟩
  · rw [if_neg meets]
    cases ref <;> exact ⟨_, _, rfl⟩

/-- While nobody aborts the channel, only time ends a wait on it. -/
theorem run_wake {n : Network} {ref : ChannelRef} (free : (n.channel ref).aborted = false)
    (deadline : Nat) :
    (wake? ref deadline).run n = (if deadline ≤ n.clock then some .time else none, n) := by
  change ((if (n.channel ref).aborted && decide (deadline ≤ n.clock) then _ else _ : Option Wake),
    _) = _
  rw [free]
  simp

theorem run_check {n : Network} {ref : ChannelRef} (free : (n.channel ref).aborted = false)
    (deadline since : Nat) : (Handshake.check ref deadline since).run n =
      (if deadline ≤ n.clock then .done (.ok ()) else .pending (.waiting deadline since), n) := by
  rw [Handshake.check, run_bind, run_wake free]
  by_cases elapsed : deadline ≤ n.clock <;> simp only [elapsed, if_true, if_false] <;> rfl

theorem run_turn {n : Network} {ref : ChannelRef} (free : (n.channel ref).aborted = false) :
    (Handshake.turn.resume ref).run n =
      if (n.channel ref).faults.latency = 0 then (.done (.ok ()), n)
      else (.pending (.waiting (n.clock + (n.channel ref).faults.latency) n.waits),
        { n with waits := n.waits + 1 }) := by
  rw [Handshake.resume, run_channel]
  by_cases quick : (n.channel ref).faults.latency = 0
  · rw [if_pos quick, if_pos quick]
    rfl
  · let stamped : Network := { n with waits := n.waits + 1 }
    have still : (stamped.channel ref).aborted = false := by cases ref <;> exact free
    have early : ¬ n.clock + (n.channel ref).faults.latency ≤ stamped.clock := by
      change ¬ n.clock + (n.channel ref).faults.latency ≤ n.clock
      omega
    have checked := run_check still (n.clock + (n.channel ref).faults.latency) n.waits
    rw [if_neg early] at checked
    rw [if_neg quick, if_neg quick]
    exact checked

section Stale

variable {n m : Network} {c id : Nat}

theorem takeStale_stale (took : (takeStale c).run n = (some id, m)) :
    (m.channel (.ofEndpoint id)).state = .faulted ∨
      (m.channel (.ofEndpoint id)).state = .closed := by
  rw [takeStale, run_controller] at took
  cases slot : (n.controller c).slot with
  | none =>
      rw [slot] at took
      cases took
  | some held =>
      rw [slot] at took
      dsimp only at took
      rw [run_channel] at took
      by_cases usable : (n.channel (.ofEndpoint held.channel)).state.isUsable
      · rw [if_pos usable] at took
        cases took
      · rw [if_neg usable] at took
        cases took
        change (n.channel (.ofEndpoint held.channel)).state = _ ∨
          (n.channel (.ofEndpoint held.channel)).state = _
        cases state : (n.channel (.ofEndpoint held.channel)).state <;>
          simp_all [Channel.State.isUsable, Channel.State.isStale]

/-- What an acquire takes out of the slot is shut down at once, and no error can come of that. -/
theorem stale_never_fails (took : (takeStale c).run n = (some id, m)) :
    ∃ l, (shutdownChannel (.ofEndpoint id) false).run m = (.ok (), l) ∧
      (startShutdownChannel (.ofEndpoint id) false).run m = (.done (.ok ()), l) := by
  rw [shutdownChannel, startShutdownChannel, run_channel, run_channel]
  rcases takeStale_stale took with faulted | closed
  · rw [faulted]
    exact ⟨_, rfl, rfl⟩
  · rw [closed]
    exact ⟨_, rfl, rfl⟩

theorem discardStale_ok (c : Nat) (n : Network) : ((discardStale c).run n).1 = .ok () := by
  obtain ⟨found, m, took⟩ : ∃ found m, (takeStale c).run n = (found, m) := ⟨_, _, rfl⟩
  rw [discardStale, run_bind, took]
  cases found with
  | none => rfl
  | some id =>
      obtain ⟨l, shut, _⟩ := stale_never_fails took
      exact congrArg Prod.fst shut

theorem run_acquire (c : Nat) (n : Network) :
    (acquire c).run n = (reuseOrOpen c).run ((discardStale c).run n).2 := by
  rw [acquire, run_bind, discardStale_ok]

theorem run_startAcquire (c : Nat) (n : Network) :
    (startAcquire c).run n = (reuseOrCreate c).run ((discardStale c).run n).2 := by
  obtain ⟨found, m, took⟩ : ∃ found m, (takeStale c).run n = (found, m) := ⟨_, _, rfl⟩
  rw [startAcquire, discardStale, run_bind, run_bind, took]
  cases found with
  | none => rfl
  | some id =>
      obtain ⟨l, shut, starts⟩ := stale_never_fails took
      dsimp only
      rw [run_bind, starts, shut]
      rfl

theorem acquire_eq (c : Nat) : acquire c = (do discard (discardStale c); reuseOrOpen c) :=
  funext (run_acquire c)

theorem startAcquire_eq (c : Nat) :
    startAcquire c = (do discard (discardStale c); reuseOrCreate c) :=
  funext (run_startAcquire c)

end Stale

end RemoteClient.Act
