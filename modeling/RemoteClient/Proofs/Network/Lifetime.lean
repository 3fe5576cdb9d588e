import RemoteClient.Proofs.Network.Running
import RemoteClient.Proofs.Network.Work
import Mathlib.Data.List.Basic

/-!
One channel from the moment it is made: opens, closes, aborts and calls on it in any order, those
that wait polled at any time, or dropped. It is opened once at most, and nothing brings it back when
it is closed or faulted.
-/

namespace RemoteClient

namespace Channel

variable {ch : Channel}

theorem refusal_none (free : ch.refusal? = none) : ch.aborted = false ∧ ch.state = .opened := by
  unfold refusal? at free
  cases aborted : ch.aborted <;> cases state : ch.state <;> simp [aborted, state] at free ⊢

end Channel

namespace Lifetime

inductive Work where
  | opening (h : Handshake)
  | closing (h : Handshake)
  | calling (call : Call)
  deriving DecidableEq, Repr

inductive Answer where
  | opened (result : Except Channel.Error Unit)
  | closed (result : Except Channel.Error Unit)
  | called (result : Except Channel.Error String)

def Answer.failed : Answer → Bool
  | .opened result | .closed result => !result.isOk
  | .called result => !result.isOk

/-- What can happen to a channel, short of forcing it into a state. Opens, closes and calls that
wait get a number each, by which they are polled and dropped. -/
inductive Event where
  | openNow
  | closeNow
  | abort
  | call (method : String)
  | beginOpen
  | beginClose
  | beginCall (method : String) (latency : Nat)
  | poll (k : Nat)
  | drop (k : Nat)
  | failOpen (e : Channel.Error)
  | failClose (e : Channel.Error)
  | failCall (e : Channel.Error)
  | delay (latency : Nat)
  | elapse (ticks : Nat)
  | settleTies (timerWins : Bool)
  deriving DecidableEq, Repr

/-- Work that is over, or was dropped, leaves its place empty. -/
structure Scene where
  network : Network
  works : List (Option Work)

/-- One step as the channel saw it: how it was, what was answered, how it was then. -/
structure Moment where
  before : Channel
  answer : Option Answer
  after : Channel

def settle {S R : Type} (wait : S → Work) (tell : R → Answer) : Progress S R → Progress Work Answer
  | .pending rest => .pending (wait rest)
  | .done result => .done (tell result)

namespace Work

def resume (ref : ChannelRef) : Work → Act (Progress Work Answer)
  | .opening h => return settle .opening .opened (← Act.resumeOpen ref h)
  | .closing h => return settle .closing .closed (← Act.resumeClose ref h)
  | .calling call => return settle .calling .called (← call.check ref)

end Work

namespace Scene

def answered (s : Scene) (act : Act Answer) : Option Answer × Scene :=
  let (answer, n) := act.run s.network
  (some answer, { s with network := n })

def told (s : Scene) (act : Act Unit) : Option Answer × Scene :=
  (none, { s with network := (act.run s.network).2 })

def placed (s : Scene) (k : Nat) (act : Act (Progress Work Answer)) : Option Answer × Scene :=
  match act.run s.network with
  | (.pending work, n) => (none, ⟨n, s.works.set k (some work)⟩)
  | (.done answer, n) => (some answer, ⟨n, s.works.set k none⟩)

def room (s : Scene) (work : Option Work) : Scene := { s with works := s.works ++ [work] }

def poll (s : Scene) (ref : ChannelRef) (k : Nat) : Option Answer × Scene :=
  match s.works[k]? with
  | some (some work) => s.placed k (work.resume ref)
  | _ => (none, s)

/-- An open or a close does nothing before it is polled. -/
def step (ref : ChannelRef) (s : Scene) : Event → Option Answer × Scene
  | .openNow => s.answered (return .opened (← Act.openNow ref))
  | .closeNow => s.answered (return .closed (← Act.closeNow ref))
  | .call method => s.answered (return .called (← Act.call ref method))
  | .abort => s.told (Act.abort ref)
  | .beginOpen => (none, s.room (some (.opening .turn)))
  | .beginClose => (none, s.room (some (.closing .turn)))
  | .beginCall method latency =>
    (s.room none).placed s.works.length
      (return settle .calling .called (← Call.start ref method latency))
  | .poll k => s.poll ref k
  | .drop k => (none, { s with works := s.works.set k none })
  | .failOpen e => s.told (Act.modifyChannel ref (·.failOpen e))
  | .failClose e => s.told (Act.modifyChannel ref (·.failClose e))
  | .failCall e => s.told (Act.modifyChannel ref (·.failCall e))
  | .delay latency => s.told (Act.modifyChannel ref (·.delay latency))
  | .elapse ticks => (none, { s with network.clock := s.network.clock + ticks })
  | .settleTies timerWins => (none, { s with network.timerWins := timerWins })

def moment (ref : ChannelRef) (s : Scene) (e : Event) : Moment :=
  ⟨s.network.channel ref, (s.step ref e).1, (s.step ref e).2.network.channel ref⟩

def life (ref : ChannelRef) (s : Scene) : List Event → List Moment
  | [] => []
  | e :: rest => s.moment ref e :: (s.step ref e).2.life ref rest

end Scene

/-- What one step does to a channel. An abort is told to those who wait, and a call may be refused,
without anything reaching the channel. -/
inductive Passes (ch : Channel) : Option Answer → Channel → Prop
  | primed (faults : Channel.Faults) (callError : Option Channel.Error) :
      Passes ch none { ch with faults, callError }
  | interrupted (answer : Answer) (failed : answer.failed) (aborted : ch.aborted) :
      Passes ch (some answer) ch
  | refused (e : Channel.Error) : Passes ch (some (.called (.error e))) ch
  | opened : Passes ch (some (.opened ch.openNow.1)) ch.openNow.2
  | closed : Passes ch (some (.closed ch.closeNow.1)) ch.closeNow.2
  | aborted : Passes ch none ch.abort
  | called (method : String) : Passes ch (some (.called (ch.call method).1)) (ch.call method).2

theorem Passes.rest (ch : Channel) : Passes ch none ch := .primed ch.faults ch.callError

structure Leads (ref : ChannelRef) (answer : Option Answer) (n m : Network) : Prop where
  has : m.Has ref
  passes : Passes (n.channel ref) answer (m.channel ref)

section

variable {ref : ChannelRef} {n m : Network} {answer : Option Answer}

theorem leads_of_same (has : n.Has ref) (endpoint : m.endpoint = n.endpoint)
    (alone : m.standalone = n.standalone) (passes : Passes (n.channel ref) answer (n.channel ref)) :
    Leads ref answer n m := by
  have same : m.channel ref = n.channel ref := by
    cases ref <;> simp only [Network.channel, endpoint, alone]
  refine ⟨?_, same.symm ▸ passes⟩
  cases ref with
  | ofEndpoint id => rwa [Network.Has, endpoint]
  | standalone id => trivial

theorem put_leaves {ch : Channel} (has : n.Has ref) (named : ch.id = (n.channel ref).id)
    (endpoint : m.endpoint = (n.putChannel ref ch).endpoint)
    (alone : m.standalone = (n.putChannel ref ch).standalone) :
    m.Has ref ∧ m.channel ref = ch := by
  have stays : (n.putChannel ref ch).Has ref := (n.has_putChannel ref ch ref).mpr has
  have put : (n.putChannel ref ch).channel ref = ch :=
    Network.channel_putChannel_same (named.trans (n.channel_id ref)) has
  rw [← put]
  cases ref with
  | ofEndpoint id => simp_all only [Network.Has, Network.channel, and_self]
  | standalone id => exact ⟨trivial, by simp only [Network.channel, alone]⟩

theorem openNow_leaves (has : n.Has ref) :
    ((Act.openNow ref).run n).2.Has ref ∧
      ((Act.openNow ref).run n).2.channel ref = (n.channel ref).openNow.2 := by
  refine put_leaves has (Channel.openNow_id _) ?_ ?_ <;> cases ref <;> rfl

theorem closeNow_leaves (has : n.Has ref) :
    ((Act.closeNow ref).run n).2.Has ref ∧
      ((Act.closeNow ref).run n).2.channel ref = (n.channel ref).closeNow.2 := by
  refine put_leaves has (Channel.closeNow_id _) ?_ ?_ <;> cases ref <;> rfl

theorem abort_leaves (has : n.Has ref) :
    ((Act.abort ref).run n).2.Has ref ∧
      ((Act.abort ref).run n).2.channel ref = (n.channel ref).abort := by
  have same : (n.channel ref).abort.id = (n.channel ref).id := rfl
  refine put_leaves has same ?_ ?_ <;> cases ref <;> rfl

theorem call_leaves (has : n.Has ref) (method : String) :
    ((Act.call ref method).run n).1 = ((n.channel ref).call method).1 ∧
      ((Act.call ref method).run n).2.Has ref ∧
      ((Act.call ref method).run n).2.channel ref = ((n.channel ref).call method).2 := by
  obtain ⟨log, history, called⟩ := Act.run_call ref method n
  rw [called]
  exact ⟨rfl, put_leaves has (Channel.call_same _ method).1 rfl rfl⟩

theorem modify_leaves {f : Channel → Channel} (has : n.Has ref)
    (named : (f (n.channel ref)).id = (n.channel ref).id) :
    ((Act.modifyChannel ref f).run n).2.Has ref ∧
      ((Act.modifyChannel ref f).run n).2.channel ref = f (n.channel ref) :=
  put_leaves has named rfl rfl

theorem leads_left {ch : Channel} (left : m.Has ref ∧ m.channel ref = ch)
    (passes : Passes (n.channel ref) answer ch) : Leads ref answer n m :=
  ⟨left.1, left.2.symm ▸ passes⟩

theorem openNow_leads (has : n.Has ref) :
    Leads ref (some (.opened ((Act.openNow ref).run n).1)) n ((Act.openNow ref).run n).2 := by
  have answered : ((Act.openNow ref).run n).1 = (n.channel ref).openNow.1 := by cases ref <;> rfl
  rw [answered]
  exact leads_left (openNow_leaves has) .opened

theorem closeNow_leads (has : n.Has ref) :
    Leads ref (some (.closed ((Act.closeNow ref).run n).1)) n ((Act.closeNow ref).run n).2 := by
  have answered : ((Act.closeNow ref).run n).1 = (n.channel ref).closeNow.1 := by cases ref <;> rfl
  rw [answered]
  exact leads_left (closeNow_leaves has) .closed

theorem abort_leads (has : n.Has ref) : Leads ref none n ((Act.abort ref).run n).2 :=
  leads_left (abort_leaves has) .aborted

theorem call_leads (has : n.Has ref) (method : String) :
    Leads ref (some (.called ((Act.call ref method).run n).1)) n
      ((Act.call ref method).run n).2 := by
  obtain ⟨answered, left⟩ := call_leaves has method
  rw [answered]
  exact leads_left left (.called method)

theorem modify_leads {f : Channel → Channel} (has : n.Has ref) (named : ∀ ch, (f ch).id = ch.id)
    (passes : Passes (n.channel ref) none (f (n.channel ref))) :
    Leads ref none n ((Act.modifyChannel ref f).run n).2 :=
  leads_left (modify_leaves has (named _)) passes

theorem wake_cases (ref : ChannelRef) (deadline : Nat) (n : Network) :
    ((Act.wake? ref deadline).run n).1 = some .abort ∧ (n.channel ref).aborted ∨
      ((Act.wake? ref deadline).run n).1 = some .time ∧ deadline ≤ n.clock ∨
      ((Act.wake? ref deadline).run n).1 = none ∧ n.clock < deadline := by
  have woken : ((Act.wake? ref deadline).run n).1 =
      if (n.channel ref).aborted && decide (deadline ≤ n.clock) then
        some (if n.timerWins then .time else .abort)
      else if (n.channel ref).aborted then some .abort
      else if decide (deadline ≤ n.clock) then some .time
      else none := rfl
  rw [woken]
  by_cases aborted : (n.channel ref).aborted <;> by_cases due : deadline ≤ n.clock
  · cases n.timerWins <;> simp [aborted, due]
  · simp [aborted, due]
  · simp [aborted, due]
  · simp [aborted, due, Nat.lt_of_not_le due]

theorem check_cases (ref : ChannelRef) (deadline since : Nat) (n : Network) :
    ∃ progress, (Handshake.check ref deadline since).run n = (progress, n) ∧
      ∀ e, progress = .done (.error e) → (n.channel ref).aborted := by
  have looked : ((Act.wake? ref deadline).run n).2 = n := rfl
  rw [Handshake.check, Act.run_bind, looked]
  rcases wake_cases ref deadline n with ⟨woken, aborted⟩ | ⟨woken, _⟩ | ⟨woken, _⟩ <;> rw [woken]
  · exact ⟨_, rfl, fun _ _ => aborted⟩
  · exact ⟨_, rfl, fun e told => by cases told⟩
  · exact ⟨_, rfl, fun e told => by cases told⟩

/-- A handshake fails only for an abort, and moves nothing but the count of waits. -/
theorem handshake_cases (ref : ChannelRef) (h : Handshake) (n : Network) :
    ∃ progress waits, (h.resume ref).run n = (progress, { n with waits }) ∧
      ∀ e, progress = .done (.error e) → (n.channel ref).aborted := by
  cases h with
  | waiting deadline since =>
      obtain ⟨progress, checked, told⟩ := check_cases ref deadline since n
      exact ⟨progress, n.waits, checked, told⟩
  | turn =>
      rw [Handshake.resume, Act.run_channel]
      by_cases quick : (n.channel ref).faults.latency = 0
      · rw [if_pos quick]
        exact ⟨_, n.waits, rfl, fun e told => by cases told⟩
      · rw [if_neg quick]
        obtain ⟨progress, checked, told⟩ :=
          check_cases ref (n.clock + (n.channel ref).faults.latency) n.waits
          { n with waits := n.waits + 1 }
        refine ⟨progress, n.waits + 1, checked, fun e done => ?_⟩
        have aborted := told e done
        cases ref <;> exact aborted

def answer? : Progress Work Answer → Option Answer
  | .pending _ => none
  | .done answer => some answer

theorem waited_same (n : Network) (ref : ChannelRef) (waits : Nat) :
    ({ n with waits } : Network).channel ref = n.channel ref ∧
      (n.Has ref → { n with waits }.Has ref) := by
  cases ref <;> exact ⟨rfl, id⟩

/-- An open or a close, which does its act once the handshake is past. -/
def afterHandshake (ref : ChannelRef) (act : Act (Except Channel.Error Unit)) (h : Handshake) :
    Act (Progress Handshake (Except Channel.Error Unit)) := do
  match ← h.resume ref with
  | .pending h => return .pending h
  | .done (.error e) => return .done (.error e)
  | .done (.ok ()) => return .done (← act)

theorem resumeOpen_after (ref : ChannelRef) (h : Handshake) :
    Act.resumeOpen ref h = afterHandshake ref (Act.openNow ref) h := rfl

theorem resumeClose_after (ref : ChannelRef) (h : Handshake) :
    Act.resumeClose ref h = afterHandshake ref (Act.closeNow ref) h := rfl

theorem handshake_polled (ref : ChannelRef) (act : Act (Except Channel.Error Unit))
    (h : Handshake) (n : Network) :
    ∃ waits, ((h.resume ref).run n).1 = .done (.ok ()) ∧
        (afterHandshake ref act h).run n =
          (.done (act.run { n with waits }).1, (act.run { n with waits }).2) ∨
      ((h.resume ref).run n).1 ≠ .done (.ok ()) ∧
        (afterHandshake ref act h).run n = (((h.resume ref).run n).1, { n with waits }) ∧
        ∀ e, ((h.resume ref).run n).1 = .done (.error e) → (n.channel ref).aborted := by
  obtain ⟨progress, waits, resumed, told⟩ := handshake_cases ref h n
  refine ⟨waits, ?_⟩
  rw [afterHandshake, Act.run_bind, resumed]
  rcases progress with h | e | _
  · exact .inr ⟨nofun, rfl, told⟩
  · exact .inr ⟨nofun, rfl, told⟩
  · exact .inl ⟨rfl, rfl⟩

theorem handshake_leads {act : Act (Except Channel.Error Unit)}
    {tell : Except Channel.Error Unit → Answer} {wait : Handshake → Work} (has : n.Has ref)
    (failed : ∀ e, (tell (.error e)).failed) (h : Handshake)
    (leads : ∀ m : Network, m.Has ref → Leads ref (some (tell (act.run m).1)) m (act.run m).2) :
    Leads ref (answer? (settle wait tell ((afterHandshake ref act h).run n).1)) n
      ((afterHandshake ref act h).run n).2 := by
  obtain ⟨waits, ⟨_, polled⟩ | ⟨short, polled, told⟩⟩ := handshake_polled ref act h n <;>
    rw [polled]
  · obtain ⟨same, here⟩ := waited_same n ref waits
    have acted := leads { n with waits } (here has)
    exact ⟨acted.has, same ▸ acted.passes⟩
  · rcases came : ((h.resume ref).run n).1 with _ | e | _
    · exact leads_of_same has rfl rfl (.rest _)
    · exact leads_of_same has rfl rfl (.interrupted _ (failed e) (told e came))
    · exact absurd came short

/-- A call whose time has come is made, unless it hears of an abort first. -/
theorem checked_cases (ref : ChannelRef) (call : Call) (n : Network) :
    (n.channel ref).aborted ∧ (call.check ref).run n = (.done (.error .aborted), n) ∨
      call.deadline ≤ n.clock ∧
        (call.check ref).run n =
          (.done ((Act.call ref call.method).run n).1, ((Act.call ref call.method).run n).2) ∨
      n.clock < call.deadline ∧ (call.check ref).run n = (.pending call, n) := by
  have looked : ((Act.wake? ref call.deadline).run n).2 = n := rfl
  rw [Call.check, Act.run_bind, looked]
  rcases wake_cases ref call.deadline n with ⟨woken, aborted⟩ | ⟨woken, due⟩ | ⟨woken, early⟩ <;>
    rw [woken]
  · exact .inl ⟨aborted, rfl⟩
  · exact .inr (.inl ⟨due, rfl⟩)
  · exact .inr (.inr ⟨early, rfl⟩)

theorem check_leads (has : n.Has ref) (call : Call) :
    Leads ref (answer? (settle .calling .called ((call.check ref).run n).1)) n
      ((call.check ref).run n).2 := by
  rcases checked_cases ref call n with ⟨aborted, polled⟩ | ⟨_, polled⟩ | ⟨_, polled⟩ <;> rw [polled]
  · exact leads_of_same has rfl rfl (.interrupted _ rfl aborted)
  · exact call_leads has call.method
  · exact leads_of_same has rfl rfl (.rest _)

theorem start_leads (has : n.Has ref) (method : String) (latency : Nat) :
    Leads ref (answer? (settle .calling .called ((Call.start ref method latency).run n).1)) n
      ((Call.start ref method latency).run n).2 := by
  rw [Call.start, Act.run_channel]
  cases refused : (n.channel ref).refusal? with
  | some e => exact leads_of_same has rfl rfl (.refused e)
  | none =>
      obtain ⟨same, here⟩ := waited_same n ref (n.waits + 1)
      have checked := check_leads (here has) ⟨method, n.clock + latency, n.waits⟩
      exact ⟨checked.has, same ▸ checked.passes⟩

theorem resume_leads (has : n.Has ref) (work : Work) :
    Leads ref (answer? ((work.resume ref).run n).1) n ((work.resume ref).run n).2 := by
  cases work with
  | opening h => exact handshake_leads has (fun _ => rfl) h fun _ => openNow_leads
  | closing h => exact handshake_leads has (fun _ => rfl) h fun _ => closeNow_leads
  | calling call => exact check_leads has call

end

section

variable {ref : ChannelRef} {s : Scene}

theorem placed_leads {act : Act (Progress Work Answer)} (k : Nat)
    (leads : Leads ref (answer? (act.run s.network).1) s.network (act.run s.network).2) :
    Leads ref (s.placed k act).1 s.network (s.placed k act).2.network := by
  unfold Scene.placed
  revert leads
  rcases act.run s.network with ⟨progress, m⟩
  cases progress <;> exact id

theorem step_leads (has : s.network.Has ref) (e : Event) :
    Leads ref (s.step ref e).1 s.network (s.step ref e).2.network := by
  have resting {m : Network} (endpoint : m.endpoint = s.network.endpoint)
      (alone : m.standalone = s.network.standalone) : Leads ref none s.network m :=
    leads_of_same has endpoint alone (.rest _)
  cases e with
  | openNow => exact openNow_leads has
  | closeNow => exact closeNow_leads has
  | call method => exact call_leads has method
  | abort => exact abort_leads has
  | beginOpen | beginClose | drop | elapse | settleTies => exact resting rfl rfl
  | beginCall method latency =>
      exact placed_leads (s := s.room none) _ (start_leads has method latency)
  | poll k =>
      change Leads ref (s.poll ref k).1 s.network (s.poll ref k).2.network
      unfold Scene.poll
      split
      next work _ => exact placed_leads k (resume_leads has work)
      next => exact resting rfl rfl
  | failOpen e => exact modify_leads (f := (·.failOpen e)) has (fun _ => rfl) (.primed _ _)
  | failClose e => exact modify_leads (f := (·.failClose e)) has (fun _ => rfl) (.primed _ _)
  | failCall e => exact modify_leads (f := (·.failCall e)) has (fun _ => rfl) (.primed _ _)
  | delay latency => exact modify_leads (f := (·.delay latency)) has (fun _ => rfl) (.primed _ _)

end

namespace Moment

def opens (m : Moment) : Bool :=
  match m.answer with
  | some (.opened (.ok ())) => true
  | _ => false

/-- What a channel does not survive: a close that reached it, an abort, or a call that met the error
queued for it. -/
inductive Ends (m : Moment) : Prop
  | closed (reached : m.before.closes < m.after.closes)
  | aborted (counted : m.before.aborts < m.after.aborts)
  | failed (e : Channel.Error) (queued : m.before.callError = some e)
      (answered : m.answer = some (.called (.error e))) (taken : m.after.callError = none)

/-- What any step makes of any channel. -/
structure Lawful (m : Moment) : Prop where
  opens : m.opens → m.before.state = .created ∧ m.after.state = .opened
  ends : m.Ends → m.after.state.isStale
  stale : m.before.state.isStale → m.after.state.isStale
  created : m.after.state = .created → m.before.state = .created
  opened : m.after.state = .opened → m.before.state = .opened ∨ m.opens
  aborted : m.after.aborted → m.before.aborted ∨ m.Ends
  unopened : ∀ e, m.answer = some (.opened (.error e)) → m.before.faults.openError = none →
    (m.before.state ≠ .created ∨ m.before.aborted) ∧
      m.after = { m.before with opens := m.after.opens }
  called : ∀ reply, m.answer = some (.called (.ok reply)) → m.before.state = .opened ∧ ¬ m.Ends

variable {m : Moment}

theorem quiet_of_kept (closes : m.after.closes = m.before.closes)
    (aborts : m.after.aborts = m.before.aborts)
    (kept : m.after.callError = m.before.callError ∨ ∀ e, m.answer ≠ some (.called (.error e))) :
    ¬ m.Ends := by
  rintro (reached | counted | ⟨e, queued, answered, taken⟩)
  · omega
  · omega
  · rcases kept with kept | kept
    · rw [kept, queued] at taken
      cases taken
    · exact kept e answered

theorem quiet_same (ch : Channel) (answer : Option Answer) : ¬ Ends ⟨ch, answer, ch⟩ :=
  quiet_of_kept rfl rfl (.inl rfl)

theorem quiet_counted (ch : Channel) (answer : Option Answer) (calls : Nat) :
    ¬ Ends ⟨ch, answer, { ch with calls }⟩ :=
  quiet_of_kept rfl rfl (.inl rfl)

theorem quiet_primed (ch : Channel) (faults : Channel.Faults) (callError : Option Channel.Error) :
    ¬ Ends ⟨ch, none, { ch with faults, callError }⟩ :=
  quiet_of_kept rfl rfl (.inr nofun)

theorem quiet_opened (ch : Channel) : ¬ Ends ⟨ch, some (.opened ch.openNow.1), ch.openNow.2⟩ :=
  quiet_of_kept ch.openNow_closes ch.openNow_spares.1 (.inl ch.openNow_spares.2)

theorem lawful_of_still (state : m.after.state = m.before.state) (quiet : ¬ m.Ends)
    (unopened : m.opens = false)
    (aborted : m.after.aborted = m.before.aborted)
    (refused : ∀ e, m.answer = some (.opened (.error e)) →
      (m.before.state ≠ .created ∨ m.before.aborted) ∧
        m.after = { m.before with opens := m.after.opens })
    (called : ∀ reply, m.answer = some (.called (.ok reply)) → m.before.state = .opened) :
      m.Lawful where
  opens opened := by
    rw [unopened] at opened
    cases opened
  ends ends := absurd ends quiet
  stale := state ▸ id
  created := state ▸ id
  opened opened := .inl (state ▸ opened)
  aborted held := .inl (aborted ▸ held)
  unopened e answered _ := refused e answered
  called reply answered := ⟨called reply answered, quiet⟩

theorem lawful_of_stale (stale : m.after.state.isStale) (unopened : m.opens = false)
    (aborted : m.after.aborted → m.before.aborted ∨ m.Ends)
    (injected : ∀ e, m.answer = some (.opened (.error e)) → m.before.faults.openError ≠ none)
    (uncalled : ∀ reply, m.answer ≠ some (.called (.ok reply))) : m.Lawful where
  opens opened := by
    rw [unopened] at opened
    cases opened
  ends _ := stale
  stale _ := stale
  created created := by
    rw [created] at stale
    cases stale
  opened opened := by
    rw [opened] at stale
    cases stale
  aborted := aborted
  unopened e answered fine := absurd fine (injected e answered)
  called reply answered := absurd answered (uncalled reply)

end Moment

namespace Passes

variable {ch after : Channel} {answer : Option Answer}

theorem opened_uncalled (result : Except Channel.Error Unit) (reply : String) :
    some (Answer.opened result) ≠ some (.called (.ok reply)) := by
  simp

theorem openNow_lawful (ch : Channel) :
    Moment.Lawful ⟨ch, some (.opened ch.openNow.1), ch.openNow.2⟩ := by
  have quiet := Moment.quiet_opened ch
  rcases ch.openNow_cases with ⟨e, injected, failed⟩ | ⟨_, fresh, done⟩ | ⟨_, begun, refused⟩
  case inl =>
    rw [failed]
    refine Moment.lawful_of_stale rfl rfl .inl ?_ (opened_uncalled _)
    exact fun _ _ fine => by simp [injected] at fine
  case inr.inl =>
    rw [done] at quiet ⊢
    constructor
    case opens => exact fun _ => ⟨fresh, rfl⟩
    case ends => exact fun ends => absurd ends quiet
    case stale => exact fun stale => by simp [fresh, Channel.State.isStale] at stale
    case created => exact fun _ => fresh
    case opened => exact fun _ => .inr rfl
    case aborted => exact .inl
    case unopened =>
      intro e failed
      cases failed
    case called => exact fun reply called => absurd called (opened_uncalled _ reply)
  case inr.inr =>
    rw [refused] at quiet ⊢
    refine Moment.lawful_of_still rfl quiet rfl rfl (fun _ _ => ⟨.inl begun, rfl⟩) ?_
    exact fun reply called => absurd called (opened_uncalled _ reply)

theorem call_lawful (ch : Channel) (method : String) :
    Moment.Lawful ⟨ch, some (.called (ch.call method).1), (ch.call method).2⟩ := by
  rcases ch.call_cases method with ⟨e, _, refused⟩ | ⟨e, _, queued, failed⟩ | ⟨free, _, answered⟩
  case inl =>
    rw [refused]
    exact Moment.lawful_of_still rfl (Moment.quiet_counted ch _ _) rfl rfl nofun nofun
  case inr.inl =>
    rw [failed]
    exact Moment.lawful_of_stale rfl rfl .inl nofun nofun
  case inr.inr =>
    rw [answered]
    have opened := (Channel.refusal_none free).2
    exact Moment.lawful_of_still rfl (Moment.quiet_counted ch _ _) rfl rfl nofun fun _ _ => opened

theorem lawful (passes : Passes ch answer after) : Moment.Lawful ⟨ch, answer, after⟩ := by
  cases passes with
  | primed faults callError =>
      exact Moment.lawful_of_still rfl (Moment.quiet_primed ch _ _) rfl rfl nofun nofun
  | interrupted answer failed aborted =>
      have quiet := Moment.quiet_same ch (some answer)
      refine Moment.lawful_of_still rfl quiet ?_ rfl (fun _ _ => ⟨.inr aborted, rfl⟩) ?_
      · rcases answer with (_ | _) | _ | _
        · rfl
        · cases failed
        · rfl
        · rfl
      · rintro reply ⟨⟩
        cases failed
  | refused e =>
      exact Moment.lawful_of_still rfl (Moment.quiet_same ch _) rfl rfl nofun nofun
  | opened => exact openNow_lawful ch
  | closed =>
      have kept : ch.closeNow.2.aborted → ch.aborted := ch.closeNow_aborted ▸ id
      exact Moment.lawful_of_stale ch.closeNow_stale rfl (fun held => .inl (kept held)) nofun nofun
  | aborted =>
      exact Moment.lawful_of_stale rfl rfl
        (fun _ => .inr (.aborted (Nat.lt_succ_self _))) nofun nofun
  | called method => exact call_lawful ch method

end Passes

structure Fits (past : List Moment) (ch : Channel) : Prop where
  once : past.countP Moment.opens ≤ 1
  unopened : ch.state = .created → past.countP Moment.opens = 0
  opened : ch.state = .opened → (∃ p ∈ past, p.opens) ∧ ∀ p ∈ past, ¬ p.Ends
  stale : (∃ p ∈ past, p.after.state.isStale ∨ p.Ends) → ch.state.isStale
  aborted : ch.aborted → ∃ p ∈ past, p.Ends

namespace Fits

variable {past : List Moment} {m : Moment}

theorem nil (id : Nat) (endpoint : String) (faults : Channel.Faults) :
    Fits [] (.fresh id endpoint faults) where
  once := Nat.zero_le 1
  unopened _ := rfl
  opened opened := by cases opened
  stale := by simp
  aborted held := by cases held

theorem snoc (fits : Fits past m.before) (lawful : m.Lawful) : Fits (past ++ [m]) m.after where
  once := by
    by_cases opens : m.opens
    · simp [opens, fits.unopened (lawful.opens opens).1]
    · simpa [opens] using fits.once
  unopened fresh := by
    have before := lawful.created fresh
    have unopened : ¬ m.opens := fun opens => by
      have opened := (lawful.opens opens).2
      rw [fresh] at opened
      cases opened
    simp [unopened, fits.unopened before]
  opened opened := by
    have quiet : ¬ m.Ends := fun ends => by
      have stale := lawful.ends ends
      rw [opened] at stale
      cases stale
    rcases lawful.opened opened with before | opens
    · obtain ⟨⟨p, member, opens⟩, none⟩ := fits.opened before
      refine ⟨⟨p, List.mem_append_left _ member, opens⟩, fun q member => ?_⟩
      rcases List.mem_append.mp member with member | last
      · exact none q member
      · exact List.mem_singleton.mp last ▸ quiet
    · refine ⟨⟨m, by simp, opens⟩, fun q member => ?_⟩
      rcases List.mem_append.mp member with member | last
      · intro ends
        have stale := fits.stale ⟨q, member, .inr ends⟩
        rw [(lawful.opens opens).1] at stale
        cases stale
      · exact List.mem_singleton.mp last ▸ quiet
  stale := by
    rintro ⟨p, member, ended⟩
    rcases List.mem_append.mp member with member | last
    · exact lawful.stale (fits.stale ⟨p, member, ended⟩)
    · rw [List.mem_singleton.mp last] at ended
      exact ended.elim id lawful.ends
  aborted held := by
    rcases lawful.aborted held with before | ends
    · obtain ⟨p, member, ends⟩ := fits.aborted before
      exact ⟨p, List.mem_append_left _ member, ends⟩
    · exact ⟨m, by simp, ends⟩

end Fits

section

variable {ref : ChannelRef} {s : Scene}

theorem life_fits {past : List Moment} (has : s.network.Has ref)
    (fits : Fits past (s.network.channel ref)) (events : List Event) {between rest : List Moment}
    {m : Moment} (split : s.life ref events = between ++ m :: rest) :
    m.Lawful ∧ Fits (past ++ between) m.before := by
  induction events generalizing s past between with
  | nil => simp [Scene.life] at split
  | cons e events ih =>
      have leads := step_leads has e
      have lawful : (s.moment ref e).Lawful := leads.passes.lawful
      cases between with
      | nil =>
          rw [Scene.life, List.nil_append, List.cons_eq_cons] at split
          rw [← split.1, List.append_nil]
          exact ⟨lawful, fits⟩
      | cons first between =>
          rw [Scene.life, List.cons_append, List.cons_eq_cons] at split
          have later := ih leads.has (fits.snoc lawful) split.2
          simpa [← split.1] using later

theorem life_once {past : List Moment} (has : s.network.Has ref)
    (fits : Fits past (s.network.channel ref)) (events : List Event) :
    (past ++ s.life ref events).countP Moment.opens ≤ 1 := by
  induction events generalizing s past with
  | nil => simpa [Scene.life] using fits.once
  | cons e events ih =>
      have leads := step_leads has e
      have lawful : (s.moment ref e).Lawful := leads.passes.lawful
      have later := ih leads.has (fits.snoc lawful)
      rwa [List.append_assoc] at later

end

/-- A life in which the channel is opened once at most and never comes back. -/
structure OneWay (life : List Moment) : Prop where
  once : life.countP Moment.opens ≤ 1
  final : ∀ past m rest, life = past ++ m :: rest → m.after.state.isStale →
    ∀ later ∈ rest, later.before.state.isStale ∧ later.after.state.isStale
  ended : ∀ m ∈ life, m.Ends → m.after.state.isStale
  unopened : ∀ m ∈ life, ∀ e, m.answer = some (.opened (.error e)) →
    m.before.faults.openError = none →
    m.before.state ≠ .created ∧ m.after = { m.before with opens := m.after.opens }
  called : ∀ past m rest reply, life = past ++ m :: rest → m.answer = some (.called (.ok reply)) →
    (∃ p ∈ past, p.opens) ∧ (∀ p ∈ past, ¬ p.Ends) ∧ ¬ m.Ends

/-- Whatever happens to a new channel, in any order and with any waits under way at once. -/
theorem life_oneWay {ref : ChannelRef} {s : Scene} {endpoint : String} {faults : Channel.Faults}
    (has : s.network.Has ref) (newborn : s.network.channel ref = .fresh ref.id endpoint faults)
    (events : List Event) : OneWay (s.life ref events) := by
  have fits : Fits [] (s.network.channel ref) := newborn ▸ .nil ref.id endpoint faults
  have placed {past rest : List Moment} {m : Moment}
    (split : s.life ref events = past ++ m :: rest) :
      m.Lawful ∧ Fits past m.before := life_fits has fits events split
  constructor
  case once => exact life_once has fits events
  case final =>
    intro past m rest split stale later member
    obtain ⟨between, rest, rfl⟩ := List.append_of_mem member
    rw [List.append_cons, ← List.append_assoc] at split
    obtain ⟨lawful, known⟩ := placed split
    have before := known.stale ⟨m, by simp, .inl stale⟩
    exact ⟨before, lawful.stale before⟩
  case ended =>
    intro m member
    obtain ⟨past, rest, split⟩ := List.append_of_mem member
    exact (placed split).1.ends
  case unopened =>
    intro m member e answered fine
    obtain ⟨past, rest, split⟩ := List.append_of_mem member
    obtain ⟨lawful, known⟩ := placed split
    obtain ⟨begun, same⟩ := lawful.unopened e answered fine
    refine ⟨begun.elim id fun aborted fresh => ?_, same⟩
    obtain ⟨p, before, ends⟩ := known.aborted aborted
    have stale := known.stale ⟨p, before, .inr ends⟩
    rw [fresh] at stale
    cases stale
  case called =>
    intro past m rest reply split answered
    obtain ⟨lawful, known⟩ := placed split
    obtain ⟨opened, quiet⟩ := lawful.called reply answered
    obtain ⟨opens, none⟩ := known.opened opened
    exact ⟨opens, none, quiet⟩

/-- An open with latency, calls, an abort among them, and opens that come too late. -/
theorem life_oneWay_aborted :
    let s : Scene := ⟨(Network.start "mem://one").created, []⟩
    let events : List Event := [.delay 5, .beginOpen, .poll 0, .elapse 5, .poll 0, .call "ping",
      .beginCall "slow" 3, .abort, .poll 1, .openNow, .closeNow]
    s.network.Has (.ofEndpoint 1) ∧
      OneWay (s.life (.ofEndpoint 1) events) ∧
      (s.life (.ofEndpoint 1) events).map (·.after.state) =
        [.created, .created, .created, .created, .opened, .opened, .opened, .closed, .closed,
          .closed, .closed] := by
  intro s events
  have has : s.network.Has (.ofEndpoint 1) := rfl
  have newborn : s.network.channel (.ofEndpoint 1) = .fresh 1 "mem://one" .quiet := rfl
  exact ⟨has, life_oneWay has newborn events, by decide +kernel⟩

end Lifetime

end RemoteClient
