import RemoteClient.Proofs.Network.Lifetime

/-!
Which events end a channel. The counts of a moment tell of its end; here the end is read off the
event and off what the work under way has come to.
-/

namespace RemoteClient.Lifetime

/-- A close that is past its handshake, an abort, or a call that gets to the channel and meets the
error queued for it. -/
inductive Fatal (ref : ChannelRef) (s : Scene) : Event → Prop
  | closed : Fatal ref s .closeNow
  | closing {k : Nat} {h : Handshake} (underway : s.works[k]? = some (some (.closing h)))
      (past : ((h.resume ref).run s.network).1 = .done (.ok ())) : Fatal ref s (.poll k)
  | aborted : Fatal ref s .abort
  | called (method : String) (meets : (s.network.channel ref).meetsCallError) :
      Fatal ref s (.call method)
  | begun (method : String) (meets : (s.network.channel ref).meetsCallError) :
      Fatal ref s (.beginCall method 0)
  | calling {k : Nat} {call : Call} (underway : s.works[k]? = some (some (.calling call)))
      (due : call.deadline ≤ s.network.clock) (meets : (s.network.channel ref).meetsCallError) :
      Fatal ref s (.poll k)

def Ended (before : Channel) (answer : Option Answer) (after : Channel) : Prop :=
  Moment.Ends ⟨before, answer, after⟩

section

variable {ref : ChannelRef} {n : Network}

theorem ended_closed (ch : Channel) (answer : Option Answer) : Ended ch answer ch.closeNow.2 := by
  refine .closed ?_
  rw [Channel.closeNow_frame]
  exact Nat.lt_succ_self _

theorem ended_aborted (ch : Channel) (answer : Option Answer) : Ended ch answer ch.abort :=
  .aborted (Nat.lt_succ_self _)

theorem ended_called (ch : Channel) (method : String) :
    Ended ch (some (.called (ch.call method).1)) (ch.call method).2 ↔ ch.meetsCallError := by
  obtain ⟨e, refused, done⟩ | ⟨e, free, queued, done⟩ | ⟨free, fine, done⟩ :=
    ch.call_cases method <;> rw [done]
  · have spared : ¬ ch.meetsCallError := by simp [Channel.meetsCallError, refused]
    exact iff_of_false (Moment.quiet_counted ch _ _) spared
  · have met : ch.meetsCallError := by simp [Channel.meetsCallError, free, queued]
    exact ⟨fun _ => met, fun _ => .failed e queued rfl rfl⟩
  · have spared : ¬ ch.meetsCallError := by simp [Channel.meetsCallError, fine]
    exact iff_of_false (Moment.quiet_counted ch _ _) spared

theorem call_ended (has : n.Has ref) (method : String) :
    Ended (n.channel ref) (some (.called ((Act.call ref method).run n).1))
      (((Act.call ref method).run n).2.channel ref) ↔ (n.channel ref).meetsCallError := by
  obtain ⟨answered, _, after⟩ := call_leaves has method
  rw [answered, after, ended_called]

theorem check_ended (has : n.Has ref) (call : Call) :
    Ended (n.channel ref) (answer? (settle .calling .called ((call.check ref).run n).1))
      (((call.check ref).run n).2.channel ref) ↔
        call.deadline ≤ n.clock ∧ (n.channel ref).meetsCallError := by
  rcases checked_cases ref call n with ⟨aborted, polled⟩ | ⟨due, polled⟩ | ⟨early, polled⟩ <;>
    rw [polled]
  · have spared : ¬ (n.channel ref).meetsCallError := by
      simp [Channel.meetsCallError, Channel.refusal?, aborted]
    exact iff_of_false (Moment.quiet_same _ _) fun fatal => spared fatal.2
  · exact (call_ended has call.method).trans (and_iff_right due).symm
  · exact iff_of_false (Moment.quiet_same _ _) fun fatal => absurd fatal.1 (Nat.not_le.mpr early)

theorem start_ended (has : n.Has ref) (method : String) (latency : Nat) :
    Ended (n.channel ref)
      (answer? (settle .calling .called ((Call.start ref method latency).run n).1))
      (((Call.start ref method latency).run n).2.channel ref) ↔
        latency = 0 ∧ (n.channel ref).meetsCallError := by
  rw [Call.start, Act.run_channel]
  cases refused : (n.channel ref).refusal? with
  | some e =>
      have free : ¬ (n.channel ref).meetsCallError := by simp [Channel.meetsCallError, refused]
      exact iff_of_false (Moment.quiet_same _ _) fun fatal => free fatal.2
  | none =>
      obtain ⟨same, here⟩ := waited_same n ref (n.waits + 1)
      have checked := check_ended (here has) ⟨method, n.clock + latency, n.waits⟩
      rw [same] at checked
      refine checked.trans (and_congr_left fun _ => ?_)
      change n.clock + latency ≤ n.clock ↔ latency = 0
      omega

theorem openNow_spares (has : n.Has ref) :
    ¬ Ended (n.channel ref) (some (.opened ((Act.openNow ref).run n).1))
      (((Act.openNow ref).run n).2.channel ref) := by
  rw [(openNow_leaves has).2]
  exact Moment.quiet_opened _

theorem closeNow_ended (has : n.Has ref) (answer : Option Answer) :
    Ended (n.channel ref) answer (((Act.closeNow ref).run n).2.channel ref) := by
  rw [(closeNow_leaves has).2]
  exact ended_closed _ answer

theorem modify_spares {f : Channel → Channel} (has : n.Has ref)
    (primes : ∃ faults callError, f (n.channel ref) = { n.channel ref with faults, callError }) :
    ¬ Ended (n.channel ref) none (((Act.modifyChannel ref f).run n).2.channel ref) := by
  obtain ⟨faults, callError, primed⟩ := primes
  have named : (f (n.channel ref)).id = (n.channel ref).id := by rw [primed]
  rw [(modify_leaves has named).2, primed]
  exact Moment.quiet_primed _ _ _

theorem waiting_spares (progress : Progress Handshake (Except Channel.Error Unit))
    {wait : Handshake → Work} {tell : Except Channel.Error Unit → Answer} (waits : Nat) :
    ¬ Ended (n.channel ref) (answer? (settle wait tell progress))
      (({ n with waits } : Network).channel ref) := by
  rw [(waited_same n ref waits).1]
  exact Moment.quiet_same _ _

theorem resumeOpen_spares (has : n.Has ref) (h : Handshake) :
    ¬ Ended (n.channel ref) (answer? (settle .opening .opened ((Act.resumeOpen ref h).run n).1))
      (((Act.resumeOpen ref h).run n).2.channel ref) := by
  rw [resumeOpen_after]
  obtain ⟨waits, ⟨_, polled⟩ | ⟨_, polled, _⟩⟩ := handshake_polled ref (Act.openNow ref) h n <;>
    rw [polled]
  · obtain ⟨same, here⟩ := waited_same n ref waits
    rw [← same]
    exact openNow_spares (here has)
  · exact waiting_spares _ waits

theorem resumeClose_ended (has : n.Has ref) (h : Handshake) :
    Ended (n.channel ref) (answer? (settle .closing .closed ((Act.resumeClose ref h).run n).1))
      (((Act.resumeClose ref h).run n).2.channel ref) ↔
        ((h.resume ref).run n).1 = .done (.ok ()) := by
  rw [resumeClose_after]
  obtain ⟨waits, ⟨past, polled⟩ | ⟨short, polled, _⟩⟩ :=
    handshake_polled ref (Act.closeNow ref) h n <;> rw [polled]
  · obtain ⟨same, here⟩ := waited_same n ref waits
    rw [← same]
    exact iff_of_true (closeNow_ended (here has) _) past
  · exact iff_of_false (waiting_spares _ waits) short

end

section

variable {ref : ChannelRef} {s : Scene}

theorem placed_ended {act : Act (Progress Work Answer)} (k : Nat) {before : Channel} :
    Ended before (s.placed k act).1 ((s.placed k act).2.network.channel ref) ↔
      Ended before (answer? (act.run s.network).1) ((act.run s.network).2.channel ref) := by
  unfold Scene.placed
  rcases act.run s.network with ⟨progress, m⟩
  cases progress <;> exact Iff.rfl

theorem poll_ended (has : s.network.Has ref) (k : Nat) :
    Ended (s.network.channel ref) (s.poll ref k).1 ((s.poll ref k).2.network.channel ref) ↔
      Fatal ref s (.poll k) := by
  unfold Scene.poll
  rcases underway : s.works[k]? with _ | _ | work
  · exact iff_of_false (Moment.quiet_same _ _) fun fatal => by cases fatal <;> simp_all
  · exact iff_of_false (Moment.quiet_same _ _) fun fatal => by cases fatal <;> simp_all
  · dsimp only
    rw [placed_ended]
    cases work with
    | opening h =>
        exact iff_of_false (resumeOpen_spares has h) fun fatal => by cases fatal <;> simp_all
    | closing h =>
        refine (resumeClose_ended has h).trans ⟨.closing underway, fun fatal => ?_⟩
        cases fatal <;> simp_all
    | calling call =>
        refine (check_ended has call).trans
          ⟨fun due => .calling underway due.1 due.2, fun fatal => ?_⟩
        cases fatal <;> simp_all

/-- What an event does is the end of the channel just if it is fatal. -/
theorem ends_iff_fatal (has : s.network.Has ref) (e : Event) :
    (s.moment ref e).Ends ↔ Fatal ref s e := by
  cases e with
  | openNow => exact iff_of_false (openNow_spares has) nofun
  | closeNow => exact iff_of_true (closeNow_ended has _) .closed
  | abort =>
      refine iff_of_true ?_ .aborted
      change Ended _ none (((Act.abort ref).run s.network).2.channel ref)
      rw [(abort_leaves has).2]
      exact ended_aborted _ _
  | call method =>
      refine (call_ended has method).trans ⟨.called method, fun fatal => ?_⟩
      cases fatal
      assumption
  | beginOpen | beginClose | drop | elapse | settleTies =>
      exact iff_of_false (Moment.quiet_same _ _) nofun
  | beginCall method latency =>
      refine (placed_ended (s := s.room none) s.works.length).trans ?_
      refine (start_ended has method latency).trans ⟨?_, fun fatal => ?_⟩
      · rintro ⟨rfl, meets⟩
        exact .begun method meets
      · cases fatal
        exact ⟨rfl, ‹_›⟩
  | poll k => exact poll_ended has k
  | failOpen e => exact iff_of_false (modify_spares (f := (·.failOpen e)) has ⟨_, _, rfl⟩) nofun
  | failClose e => exact iff_of_false (modify_spares (f := (·.failClose e)) has ⟨_, _, rfl⟩) nofun
  | failCall e => exact iff_of_false (modify_spares (f := (·.failCall e)) has ⟨_, _, rfl⟩) nofun
  | delay latency =>
      exact iff_of_false (modify_spares (f := (·.delay latency)) has ⟨_, _, rfl⟩) nofun

theorem fatal_stale (has : s.network.Has ref) {e : Event} (fatal : Fatal ref s e) :
    ((s.step ref e).2.network.channel ref).state.isStale :=
  (step_leads has e).passes.lawful.ends ((ends_iff_fatal has e).mpr fatal)

end

end RemoteClient.Lifetime
