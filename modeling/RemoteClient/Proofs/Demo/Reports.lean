import RemoteClient.Proofs.Demo.Resting
import RemoteClient.Proofs.Interleaving.Tenure

/-!
What a demonstration run reports. Every faulty call costs a channel, and the next one is made only
when it is needed, so the number of channels follows from the number of calls.
-/

namespace RemoteClient.Demo

open Interleaving

variable {made id : Nat} {tokens : List String} {n : Network} {options : Options}

inductive Next (id : Nat) (tokens : List String) (n : Network) : Prop
  | vacant {made : Nat} (idle : Idle made tokens n) (next : id = made + 1)
  | kept (ready : Ready id none tokens n)

theorem Next.acquire : Gives (Next id tokens) acquire (.ok id) (Ready id none tokens) := by
  intro n next
  cases next with
  | vacant idle next =>
      subst next
      exact Idle.acquire n idle
  | kept ready => exact Ready.acquire n ready

theorem Next.arrangeFault (call : Nat) : Gives (Next id tokens) (arrangeFault call) (.ok ())
    (Ready id (some (.communication (faultMessage call))) tokens) :=
  gives_bind Next.acquire <| gives_bind (failCall_gives _) <| gives_pure _

theorem Next.ping :
    Gives (Next id tokens) ping (.ok ("Ping" ++ "@" ++ toString id)) (Ready id none tokens) :=
  gives_bind Next.acquire <| gives_bind (start_gives (call_gives "Ping")) <|
    gives_bind (gives_pure ()) <|
    gives_pure _

theorem Ready.ping_fails (e : Channel.Error) :
    Gives (Ready made (some e) tokens) ping (.error e) (Idle made tokens) := by
  have gives : Gives (Ready made (some e) tokens) ping (.error e) (Scrapped made tokens) :=
    gives_bind Ready.acquire <| gives_bind (start_gives (call_queued_gives e "Ping")) <|
      gives_bind (gives_discard (fire_gives none)) <| gives_pure _
  exact gives_weaken gives (fun _ ready => ready) fun _ scrapped => scrapped.toIdle

theorem isFaulty_iff (options : Options) (earlier : Nat) :
    isFaulty options (earlier + 1) ↔ options.faultEvery ∣ earlier + 1 := by
  simp only [isFaulty, Bool.and_eq_true, decide_eq_true_eq, beq_iff_eq, ← Nat.dvd_iff_mod_eq_zero]
  constructor
  · exact fun faulty => faulty.2
  · exact fun divides => ⟨Nat.pos_of_dvd_of_pos divides (Nat.succ_pos earlier), divides⟩

/-- How the run stands when so many calls have been made. -/
inductive After (options : Options) : Nat → Network → Prop
  | start {n : Network} (idle : Idle 0 [] n) : After options 0 n
  | failed {earlier : Nat} {n : Network} (faulty : isFaulty options (earlier + 1))
      (idle : Idle (1 + earlier / options.faultEvery) [] n) : After options (earlier + 1) n
  | served {earlier : Nat} {n : Network} (sound : ¬ isFaulty options (earlier + 1))
      (ready : Ready (1 + earlier / options.faultEvery) none [] n) : After options (earlier + 1) n

variable {calls : Nat}

theorem After.next (after : After options calls n) :
    Next (1 + calls / options.faultEvery) [] n := by
  cases after with
  | start idle => exact .vacant idle (by rw [Nat.zero_div])
  | failed faulty idle =>
      refine .vacant idle ?_
      rw [Nat.succ_div, if_pos ((isFaulty_iff options _).mp faulty)]
      rfl
  | served sound ready =>
      rw [Nat.succ_div, if_neg fun divides => sound ((isFaulty_iff options _).mpr divides)]
      exact .kept ready

theorem After.noted (after : After options calls n) (log : List Log.Event) :
    After options calls { n with log := log } := by
  cases after with
  | start idle => exact .start (idle.noted n.clock n.waits log n.history)
  | failed faulty idle => exact .failed faulty (idle.noted n.clock n.waits log n.history)
  | served sound ready => exact .served sound (ready.noted n.clock n.waits log n.history)

theorem noteReply_gives (call : Nat) (reply : Except Channel.Error String) :
    Gives (After options calls) (noteReply call reply) () (After options calls) := by
  intro n after
  cases reply <;> exact ⟨_, rfl, after.noted _⟩

def tallyAfter (options : Options) (calls : Nat) : Tally :=
  ⟨calls - calls / options.faultEvery, calls / options.faultEvery⟩

theorem round_gives (options : Options) (calls : Nat) : ∃ Q reply,
    Gives (After options calls) (prepare options (calls + 1)) (.ok ()) Q ∧
    Gives Q ping reply (After options (calls + 1)) ∧
    (tallyAfter options calls).count reply = tallyAfter options (calls + 1) := by
  have fewer : calls / options.faultEvery ≤ calls := Nat.div_le_self ..
  by_cases faulty : isFaulty options (calls + 1)
  · let fault : Channel.Error := .communication (faultMessage (calls + 1))
    refine ⟨Ready (1 + calls / options.faultEvery) (some fault) [], .error fault, ?_, ?_, ?_⟩
    · rw [prepare, if_pos faulty]
      exact gives_weaken (Next.arrangeFault _) (fun _ => After.next) fun _ ready => ready
    · exact gives_weaken (Ready.ping_fails fault) (fun _ ready => ready) fun _ => .failed faulty
    · rw [tallyAfter, tallyAfter, Tally.count, Nat.succ_div,
        if_pos ((isFaulty_iff options calls).mp faulty)]
      simp only [Tally.mk.injEq, and_true]
      omega
  · have sound : ¬ options.faultEvery ∣ calls + 1 :=
      fun divides => faulty ((isFaulty_iff options calls).mpr divides)
    refine ⟨After options calls, .ok ("Ping" ++ "@" ++ toString (1 + calls / options.faultEvery)),
      ?_, ?_, ?_⟩
    · rw [prepare, if_neg faulty]
      exact gives_pure _
    · exact gives_weaken Next.ping (fun _ => After.next) fun _ => .served faulty
    · rw [tallyAfter, tallyAfter, Tally.count, Nat.succ_div, if_neg sound]
      simp only [Tally.mk.injEq, Nat.add_zero, and_true]
      omega

theorem makeCalls_gives (options : Options) (calls left : Nat) :
    Gives (After options calls) (makeCalls options (tallyAfter options calls) (calls + 1) left)
      (.ok (tallyAfter options (calls + left))) (After options (calls + left)) := by
  induction left generalizing calls with
  | zero => exact gives_pure _
  | succ left ih =>
      obtain ⟨_, reply, prepares, replies, counted⟩ := round_gives options calls
      have rest := ih (calls + 1)
      rw [← counted, show calls + 1 + left = calls + (left + 1) by omega] at rest
      exact gives_bind prepares <| gives_bind replies <| gives_bind (noteReply_gives _ _) rest

theorem start_slow (ready : Ready made none tokens n) : ∃ call m,
    (Call.start (.ofEndpoint made) "Slow" slowLatency).run n = (.pending call, m) ∧
      Ready made none tokens m := by
  let stamped : Network := { n with waits := n.waits + 1 }
  have unaborted : (stamped.channel (.ofEndpoint made)).aborted = false := ready.last.unaborted
  have early : ¬ n.clock + slowLatency ≤ stamped.clock := by
    change ¬ n.clock + 30000 ≤ n.clock
    omega
  refine ⟨⟨"Slow", n.clock + slowLatency, n.waits⟩, stamped, ?_,
    ready.noted n.clock (n.waits + 1) n.log n.history⟩
  rw [Call.start, Act.run_channel, ready.last.accepts]
  change (Call.check (.ofEndpoint made) ⟨"Slow", n.clock + slowLatency, n.waits⟩).run stamped = _
  rw [Call.check, Act.run_bind, Act.run_wake unaborted, if_neg early]
  rfl

theorem elapse_gives : Gives (Ready made none tokens)
    (modify fun n => { n with clock := n.clock + cancelAfter }) ()
    (Ready made none tokens) :=
  fun n ready => ⟨_, rfl, ready.noted (n.clock + cancelAfter) n.waits n.log n.history⟩

theorem cancel_gives :
    Gives (Ready made none []) (Act.cancel token) () (Ready made none [token]) := by
  intro n ready
  have absent : n.cancelled.contains token = false := by rw [ready.cancelled]; rfl
  refine ⟨{ n with cancelled := [token] }, ?_, ?_⟩
  · change ((), if n.cancelled.contains token then n
      else { n with cancelled := token :: n.cancelled }) = _
    rw [absent, ready.cancelled]
    rfl
  · exact ⟨⟨ready.numbered, ready.count, ready.pending, rfl⟩, ready.positive, ready.controllers,
      ready.closed,
      ready.last⟩

theorem heed_gives : Gives (Ready made none [token]) (Invocation.start 0 made (some token)).heed
    ⟨0, made, false, none⟩ (Scrapped made [token]) := by
  have asks :
      Gives (Ready made none [token]) (Act.isCancelled token) true (Ready made none [token]) := by
    intro n ready
    exact ⟨n, congrArg (·, n) (by rw [ready.cancelled]; rfl), ready⟩
  exact gives_bind asks <| gives_bind (note_gives _) <| gives_bind (fire_gives (some token)) <|
    gives_pure _

/-- Whichever way its wait ends, the call that is cancelled reports the abort, and the channel stays
closed. -/
theorem check_gives (call : Call) : Gives (Scrapped made tokens) (call.check (.ofEndpoint made))
    (.done (.error .aborted)) (Idle made tokens) := by
  intro n scrapped
  have aborted : ((call.check (.ofEndpoint made)).run n).1 = .done (.error .aborted) :=
    Call.poll_aborted scrapped.aborted call.method 0 (some call)
  have idle : Idle made tokens ((call.check (.ofEndpoint made)).run n).2 := by
    obtain ⟨wake, woken⟩ : ∃ wake, (Act.wake? (.ofEndpoint made) call.deadline).run n = (wake, n) :=
      ⟨_, rfl⟩
    rw [Call.check, Act.run_bind, woken]
    rcases wake with _ | _ | _
    · exact scrapped.toIdle
    · exact scrapped.toIdle
    · obtain ⟨log, history, ran⟩ := Act.run_call (.ofEndpoint made) call.method n
      have closed : ((n.channel (.ofEndpoint made)).call call.method).2.state = .closed := by
        have refused : ({ n.channel (.ofEndpoint made) with
            calls := (n.channel (.ofEndpoint made)).calls + 1 } : Channel).refusal? =
              some .aborted :=
          if_pos scrapped.aborted
        rw [Channel.call]
        dsimp only
        rw [refused]
        exact scrapped.toIdle.channel_closed (Network.has_of_aborted scrapped.aborted)
      dsimp only
      rw [Act.run_bind, ran]
      exact (scrapped.toIdle.put made closed).noted n.clock n.waits log history
  exact ⟨_, Prod.ext aborted rfl, idle⟩

theorem cancelledCall_gives : Gives (Ready made none []) (cancelledCall made) (.error .aborted)
    (Idle made [token]) := by
  intro n ready
  have calm : (Invocation.start 0 made (some token)).heed.run n =
      (Invocation.start 0 made (some token), n) :=
    heed_calm _ n (by simp [ready.cancelled])
  obtain ⟨call, m, starts, waiting⟩ := start_slow ready
  have spent : Gives (Idle made [token]) (discard (Invocation.fire ⟨0, made, false, none⟩)) ()
      (Idle made [token]) :=
    gives_discard fun n idle => ⟨n, fire_spent _ n rfl, idle⟩
  rw [cancelledCall, Act.run_bind, calm]
  dsimp only
  rw [Act.run_bind, starts]
  refine (?_ : Gives (Ready made none []) _ _ _) m waiting
  exact gives_bind elapse_gives <| gives_bind cancel_gives <| gives_bind heed_gives <|
    gives_bind (check_gives call) <| gives_bind spent <| gives_pure _

theorem Idle.shutdown : Gives (Idle made tokens) shutdown (.ok ()) (Idle made tokens) := by
  have starts :
      Gives (Idle made tokens) (Act.startShutdown 0 false) (.done (.ok ())) (Idle made tokens) :=
    gives_bind (gives_bind (controller_gives fun _ => Idle.controllers) (gives_pure none))
      (gives_pure _)
  exact gives_bind starts (gives_pure _)

theorem Ready.shutdown : Gives (Ready made none tokens) shutdown (.ok ()) (Idle made tokens) := by
  have takes : Gives (Ready made none tokens) (Act.take 0) (some made)
      (Stands made ⟨none, made⟩ (Fits .opened none) tokens) :=
    gives_bind (controller_gives fun _ => Stands.controllers) <|
      gives_bind (putController_gives _) <|
      gives_bind (record_gives _) <| gives_pure _
  have begins : Gives (Stands made ⟨none, made⟩ (Fits .opened none) tokens)
      (Act.startShutdownChannel (.ofEndpoint made) false) (.pending .turn)
      (Stands made ⟨none, made⟩ (Fits .opened none) tokens) := by
    intro n stands
    exact ⟨n, by rw [Act.startShutdownChannel, Act.run_channel, stands.last.state]; rfl, stands⟩
  have starts : Gives (Ready made none tokens) (Act.startShutdown 0 false) (.pending ⟨made, .turn⟩)
      (Stands made ⟨none, made⟩ (Fits .opened none) tokens) :=
    gives_bind takes <| gives_bind begins <| gives_pure _
  have closes : Gives (Stands made ⟨none, made⟩ (Fits .opened none) tokens)
      (Act.resumeClose (.ofEndpoint made) .turn) (.done (.ok ()))
      (Stands made ⟨none, made⟩ (·.state = .closed) tokens) :=
    gives_bind turn_gives <| gives_bind closeNow_gives <| gives_pure _
  have resumes : Gives (Stands made ⟨none, made⟩ (Fits .opened none) tokens)
      (Act.resumeShutdown ⟨made, .turn⟩) (.done (.ok ()))
        (Stands made ⟨none, made⟩ (·.state = .closed) tokens) :=
    gives_bind (gives_bind closes <| gives_bind (gives_pure _) <| gives_pure _) (gives_pure _)
  have whole : Gives (Ready made none tokens) Demo.shutdown (.ok ())
      (Stands made ⟨none, made⟩ (·.state = .closed) tokens) :=
    gives_bind starts <| gives_bind (gives_pure ()) <| gives_bind resumes <| gives_pure _
  exact gives_weaken whole (fun _ ready => ready) fun _ => Stands.idle

/-- How many channels a run needs. A fault on the last call leaves it to a call that is to be
cancelled to need another one. -/
def channelsNeeded (options : Options) : Nat :=
  if options.calls = 0 ∧ options.cancel = false then 0
  else if options.faultEvery = 0 then 1
  else if options.cancel then 1 + options.calls / options.faultEvery
  else 1 + (options.calls - 1) / options.faultEvery

theorem channelsNeeded_succ {earlier : Nat} (made : options.calls = earlier + 1)
    (last : options.cancel = false) :
    channelsNeeded options = 1 + earlier / options.faultEvery := by
  rw [channelsNeeded, made, last]
  by_cases never : options.faultEvery = 0 <;> simp [never]

theorem channelsNeeded_cancel (last : options.cancel = true) :
    channelsNeeded options = 1 + options.calls / options.faultEvery := by
  rw [channelsNeeded, last]
  by_cases never : options.faultEvery = 0 <;> simp [never]

def Settled (made : Nat) (n : Network) : Prop :=
  ∃ tokens, Idle made tokens n ∨ Ready made none tokens n

theorem After.settled (after : After options options.calls n) (last : options.cancel = false) :
    Settled (channelsNeeded options) n := by
  generalize made : options.calls = calls at after
  cases after with
  | start idle =>
      have unneeded : channelsNeeded options = 0 := by simp [channelsNeeded, made, last]
      exact ⟨[], .inl (unneeded ▸ idle)⟩
  | failed faulty idle => exact ⟨[], .inl (channelsNeeded_succ made last ▸ idle)⟩
  | served sound ready => exact ⟨[], .inr (channelsNeeded_succ made last ▸ ready)⟩

theorem cancelLast_gives (options : Options) :
    Gives (After options options.calls) (cancelLast options)
    options.cancel (Settled (channelsNeeded options)) := by
  cases last : options.cancel with
  | false =>
      rw [cancelLast, last]
      exact gives_weaken (gives_pure false) (fun _ after => after) fun _ after => after.settled last
  | true =>
      rw [cancelLast, last, channelsNeeded_cancel last]
      have notes (event : Log.Event) : Gives (Idle (1 + options.calls / options.faultEvery) [token])
          (Act.note event) () (Idle (1 + options.calls / options.faultEvery) [token]) :=
        fun n idle => ⟨_, rfl, idle.noted n.clock n.waits _ n.history⟩
      refine gives_weaken (P := Next (1 + options.calls / options.faultEvery) [])
        (Q := Idle _ [token]) ?_
        (fun _ => After.next) fun _ idle => ⟨_, .inl idle⟩
      exact gives_bind Next.acquire <| gives_bind cancelledCall_gives <| gives_bind (notes _) <|
        gives_pure _

theorem Settled.makeReport (t : Tally) (cancelled : Bool) : Gives (Settled made)
    (makeReport options t cancelled) ⟨options.calls, t.succeeded, t.failed, cancelled, made, made⟩
    (Settled made) := by
  intro n settled
  have counts : n.endpoint.channels.length = made ∧ (n.controller 0).generation = made := by
    obtain ⟨_, idle | ready⟩ := settled
    · exact ⟨idle.count, by simp [Network.controller, idle.controllers]⟩
    · exact ⟨ready.count, by simp [Network.controller, ready.controllers]⟩
  refine ⟨n, ?_, settled⟩
  change ((⟨_, _, _, _, n.endpoint.channels.length, (n.controller 0).generation⟩ : Report), n) = _
  rw [counts.1, counts.2]

theorem Settled.shutdown :
    Gives (Settled made) shutdown (.ok ()) (fun n => ∃ tokens, Idle made tokens n) := by
  rintro n ⟨tokens, idle | ready⟩
  · exact gives_weaken Idle.shutdown (fun _ idle => idle) (fun _ idle => ⟨tokens, idle⟩) n idle
  · exact gives_weaken Ready.shutdown (fun _ ready => ready) (fun _ idle => ⟨tokens, idle⟩) n ready

theorem network_start (options : Options) : After options 0 network :=
  .start ⟨⟨rfl, rfl, rfl, rfl⟩, rfl, fun _ member => nomatch member⟩

/-- A run always makes its report: every so many calls one fails, all others succeed, and the last
call is cancelled if it is to be. In the end the slot is empty and every channel that was created is
closed. -/
theorem report_closed_form (options : Options) : ∃ n, (run options).run network = (.ok
      { calls := options.calls
        succeeded := options.calls - options.calls / options.faultEvery
        failed := options.calls / options.faultEvery
        cancelled := options.cancel
        channelsCreated := channelsNeeded options
        generation := channelsNeeded options }, n) ∧
    n.endpoint.channels.length = channelsNeeded options ∧ (n.controller 0).slot = none ∧
    ∀ ch ∈ n.endpoint.channels, ch.state = .closed := by
  have calls := makeCalls_gives options 0 options.calls
  have fresh : tallyAfter options 0 = ⟨0, 0⟩ := by rw [tallyAfter, Nat.zero_div]
  rw [fresh, Nat.zero_add, Nat.zero_add] at calls
  have whole : Gives (After options 0) (run options) _ _ :=
    gives_bind calls <| gives_bind (cancelLast_gives options) <|
      gives_bind (Settled.makeReport _ _) <|
      gives_bind Settled.shutdown <| gives_pure _
  obtain ⟨n, ran, tokens, idle⟩ := whole network (network_start options)
  exact ⟨n, ran, idle.count, by simp [Network.controller, idle.controllers], idle.closed⟩

example : ((run ⟨4, 2, true⟩).run network).1 = .ok ⟨4, 2, 2, true, 3, 3⟩ := by decide +kernel

end RemoteClient.Demo
