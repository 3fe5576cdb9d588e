import RemoteClient.Proofs.Interleaving.Endurance
import RemoteClient.Proofs.Interleaving.Firing

/-!
An invocation from the moment its acquire has returned a channel: what it does to that channel, at
which events, and that it leaves everything else alone whatever happens around it.
-/

namespace RemoteClient

namespace Call

def poll (ref : ChannelRef) (method : String) (latency : Nat) :
    Option Call → Act (Progress Call (Except Channel.Error String))
  | none => start ref method latency
  | some call => call.check ref

theorem call_aborted {n : Network} {ref : ChannelRef} (aborted : (n.channel ref).aborted)
    (method : String) :
    ((Act.call ref method).run n).1 = .error .aborted := by
  have refused : (n.channel ref).refusal? = some .aborted := by
    rw [Channel.refusal?, if_pos aborted]
  rw [Act.call, Act.run_channel]
  simp only [Channel.meetsCallError, Channel.call, refused]
  rw [show (({ n.channel ref with calls := (n.channel ref).calls + 1 } : Channel).refusal?) =
    some .aborted from refused]
  rfl

/-- A call on an aborted channel ends at its next poll, however its wait ended. -/
theorem poll_aborted {n : Network} {ref : ChannelRef} (aborted : (n.channel ref).aborted)
    (method : String) (latency : Nat) (begun : Option Call) :
    ((poll ref method latency begun).run n).1 = .done (.error .aborted) := by
  cases begun with
  | none =>
      have refused : (n.channel ref).refusal? = some .aborted := by
        rw [Channel.refusal?, if_pos aborted]
      rw [poll, start, Act.run_channel, refused]
      rfl
  | some call =>
      have woken : ((Act.wake? ref call.deadline).run n) =
          (some (if decide (call.deadline ≤ n.clock) && n.timerWins then .time else .abort),
            n) := by
        change ((if (n.channel ref).aborted && decide (call.deadline ≤ n.clock) then _
          else if (n.channel ref).aborted then _ else _ : Option Wake), n) = _
        cases elapsed : decide (call.deadline ≤ n.clock) <;> simp [aborted]
      rw [poll, check, Act.run_bind, woken]
      cases time : decide (call.deadline ≤ n.clock) && n.timerWins with
      | false => rfl
      | true => exact congrArg Progress.done (call_aborted aborted call.method)

end Call

namespace Interleaving

namespace Event

def call? : Event → Option Nat
  | .resume k | .suspend k | .conclude k _ | .abandon k => some k
  | .newController | .begin _ _ | .drop _ | .outside _ => none

def go : Event → Nat → Stage → Act Stage
  | .resume _ => Stage.resume
  | .suspend _ => fun _ => Stage.suspend
  | .conclude _ outcome => fun _ => Stage.conclude outcome
  | .abandon _ => fun _ => Stage.abandon
  | .newController | .begin _ _ | .drop _ | .outside _ => fun _ => pure

end Event

namespace System

/-- What the `k`-th call, which is one on the controller `c`, has done, newest first. -/
def doneBy (s : System) (c k : Nat) : List Deed :=
  (s.history.filter (·.actor = .call c k)).map (·.deed)

def blank (s : System) : Network := { s.network with history := [] }

/-- In the course of the event, the acquire of the `k`-th call returns the channel. The call has the
token if it can be cancelled, and the network is the one at that moment. -/
inductive Returns (s : System) (c k id : Nat) : Option String → Event → Network → Prop
  | blocking {n : Network} (present : s.hasController c) (next : k = s.tasks.length)
      (ran : (Act.acquire c).run s.blank = (.ok id, n)) :
      Returns s c k id none (.begin c .invoke) n
  | atOnce {token : Option String} {n : Network} (present : s.hasController c)
      (next : k = s.tasks.length)
      (ran : (Act.startAcquire c).run s.blank = (.done (.ok id), n)) :
      Returns s c k id token (.begin c (.invokeAsync token)) n
  | resumed {token : Option String} {a : Acquiring} {n : Network}
      (waiting : s.tasks[k]? = some ⟨c, .entering token a⟩)
      (ran : (Act.resumeAcquire c a).run s.blank = (.done (.ok id), n)) :
      Returns s c k id token (.resume k) n

structure Advances (s after : System) (c k : Nat) (stage : Stage) (n : Network) : Prop where
  network : after.network = n
  task : after.tasks[k]? = some ⟨c, stage⟩
  done : after.doneBy c k = n.history ++ s.doneBy c k

end System

section

variable {s after : System} {c k : Nat} {stage left : Stage} {n : Network}

theorem doneBy_append (s after : System) (c k : Nat) {records : List Record}
    (added : after.history = records ++ s.history) :
    after.doneBy c k = (records.filter (·.actor = .call c k)).map (·.deed) ++ s.doneBy c k := by
  simp [System.doneBy, added]

theorem own_deeds (c k : Nat) (deeds : List Deed) :
    ((sign (.call c k) deeds).filter (·.actor = .call c k)).map (·.deed) = deeds := by
  simp [sign, List.filter_map, Function.comp_def]

theorem other_deeds {actor : Actor} (apart : actor ≠ .call c k) (deeds : List Deed) :
    ((sign actor deeds).filter (·.actor = .call c k)).map (·.deed) = [] := by
  simp [sign, apart]

theorem mem_doneBy {deed : Deed} : deed ∈ s.doneBy c k ↔ ⟨.call c k, deed⟩ ∈ s.history := by
  simp only [System.doneBy, List.mem_map, List.mem_filter, decide_eq_true_eq]
  constructor
  · rintro ⟨⟨actor, told⟩, ⟨member, same⟩, rfl⟩
    cases same
    exact member
  · exact fun member => ⟨_, ⟨member, rfl⟩, rfl⟩

theorem perform_eq {α : Type} {actor : Actor} {act : Act α} {a : α}
    (ran : act.run s.blank = (a, n)) :
    s.perform actor act =
      (a, { s with network := n, history := sign actor n.history ++ s.history }) := by
  simp only [System.perform]
  rw [show { s.network with history := [] } = s.blank from rfl, ran]

theorem begin_eq {op : Operation} (present : s.hasController c) (admitted : s.admits c op)
    (ran : (op.start c).run s.blank = (stage, n)) : s.begin c op =
      ⟨n, s.tasks ++ [⟨c, stage⟩], s.dropped, sign (.call c s.tasks.length) n.history ++
        s.history⟩ := by
  simp only [System.begin, present, admitted, Bool.and_self, if_true, perform_eq ran]

theorem begin_advances {op : Operation} (present : s.hasController c) (admitted : s.admits c op)
    (next : k = s.tasks.length) (ran : (op.start c).run s.blank = (stage, n)) :
    s.Advances (s.begin c op) c k stage n := by
  have begun := begin_eq present admitted ran
  rw [← next] at begun
  constructor
  case network => rw [begun]
  case task => simp [begun, next]
  case done =>
    have done := doneBy_append s (s.begin c op) c k (congrArg System.history begun)
    rwa [own_deeds] at done

theorem proceed_eq {go : Nat → Stage → Act Stage} (found : s.tasks[k]? = some ⟨c, stage⟩)
    (going : stage.isOver = false) (ran : (go c stage).run s.blank = (left, n)) : s.proceed k go =
      ⟨n, s.tasks.set k ⟨c, left⟩, s.dropped, sign (.call c k) n.history ++ s.history⟩ := by
  simp only [System.proceed, found, going, perform_eq ran]
  rfl

theorem proceed_advances {go : Nat → Stage → Act Stage} (found : s.tasks[k]? = some ⟨c, stage⟩)
    (going : stage.isOver = false) (ran : (go c stage).run s.blank = (left, n)) :
    s.Advances (s.proceed k go) c k left n := by
  have gone := proceed_eq found going ran
  have inside : k < s.tasks.length := (List.getElem?_eq_some_iff.mp found).1
  constructor
  case network => rw [gone]
  case task => simp [gone, inside]
  case done =>
    have done := doneBy_append s (s.proceed k go) c k (congrArg System.history gone)
    rwa [own_deeds] at done

theorem proceed_over {go : Nat → Stage → Act Stage} (found : s.tasks[k]? = some ⟨c, stage⟩)
    (finished : stage.isOver) : s.proceed k go = s := by
  simp [System.proceed, found, finished]

/-- Whatever else happens, a call stays where it is, and what it did is what it has done. -/
structure Rests (s after : System) (k : Nat) : Prop where
  task : after.tasks[k]? = s.tasks[k]?
  done : ∀ c, after.doneBy c k = s.doneBy c k

theorem begin_rests (op : Operation) (inside : k < s.tasks.length) : Rests s (s.begin c op) k := by
  unfold System.begin
  split
  · constructor
    case task => exact List.getElem?_append_left inside
    case done =>
      intro d
      have apart : Actor.call c s.tasks.length ≠ .call d k := by
        simp only [ne_eq, Actor.call.injEq]
        omega
      have done := doneBy_append s (s.perform (.call c s.tasks.length) (op.start c)).2 d k rfl
      rwa [other_deeds apart] at done
  · exact ⟨rfl, fun _ => rfl⟩

theorem proceed_rests {j : Nat} (go : Nat → Stage → Act Stage) (apart : j ≠ k) :
    Rests s (s.proceed j go) k := by
  unfold System.proceed
  split
  · exact ⟨rfl, fun _ => rfl⟩
  next task _ =>
    split
    · exact ⟨rfl, fun _ => rfl⟩
    · constructor
      case task => exact List.getElem?_set_ne apart
      case done =>
        intro d
        have other : Actor.call task.controller j ≠ .call d k := by simp [apart]
        have done := doneBy_append s
          (s.perform (.call task.controller j) (go task.controller task.stage)).2 d k rfl
        rwa [other_deeds other] at done

theorem outside_rests {α : Type} (act : Act α) : Rests s (s.perform .outside act).2 k := by
  constructor
  case task => rfl
  case done =>
    intro d
    have done := doneBy_append s (s.perform .outside act).2 d k rfl
    rwa [other_deeds (by simp)] at done

theorem step_own {e : Event} (own : e.call? = some k) (s : System) :
    s.step e = s.proceed k e.go := by
  cases e <;> cases own <;> rfl

theorem step_rests {e : Event} (inside : k < s.tasks.length) (apart : e.call? ≠ some k) :
    Rests s (s.step e) k := by
  cases own : e.call? with
  | some j =>
      rw [step_own own]
      exact proceed_rests _ fun same => apart (same ▸ own)
  | none =>
      cases e with
      | newController | outside o => exact outside_rests _
      | begin c op => exact begin_rests op inside
      | drop c =>
          change Rests s (s.drop c) k
          unfold System.drop
          split
          · exact ⟨(begin_rests .dispose inside).task, (begin_rests .dispose inside).done⟩
          · exact ⟨rfl, fun _ => rfl⟩
      | resume | suspend | conclude | abandon => cases own

theorem step_ended {ending : Ending} (found : s.tasks[k]? = some ⟨c, .ended ending⟩) (e : Event) :
    Rests s (s.step e) k := by
  by_cases own : e.call? = some k
  · rw [step_own own, proceed_over found rfl]
    exact ⟨rfl, fun _ => rfl⟩
  · exact step_rests (List.getElem?_eq_some_iff.mp found).1 own

end

theorem step_records {s : System} (sound : Sound s) (e : Event) {r : Record}
    (told : r ∈ s.history) :
    r ∈ (s.step e).history := by
  obtain ⟨_, _, moves, _⟩ := (step_follows sound e).moves
  obtain ⟨deeds, added, _⟩ := moves_adds moves
  rw [show (s.step e).history = deeds ++ s.history from added]
  exact List.mem_append_right _ told

theorem returns_advances {s : System} {c k id : Nat} {token : Option String} {e : Event}
    {n : Network} (returns : s.Returns c k id token e n) :
    ∃ i m, (Invocation.start c id token).heed.run n = (i, m) ∧
      s.Advances (s.step e) c k (.operating i true) m := by
  obtain ⟨⟨i, m⟩, heeded⟩ : ∃ heeded, (Invocation.start c id token).heed.run n = heeded := ⟨_, rfl⟩
  refine ⟨i, m, heeded, ?_⟩
  have entered : (Stage.enter c token (.done (.ok id))).run n = (.operating i true, m) := by
    rw [Stage.enter, Act.run_bind, heeded]
    rfl
  cases returns with
  | blocking present next ran =>
      have started : (Operation.start c .invoke).run s.blank = (.operating i true, m) := by
        rw [Operation.start, Act.run_bind, ran]
        exact entered
      exact begin_advances present rfl next started
  | atOnce present next ran =>
      have started : (Operation.start c (.invokeAsync token)).run s.blank =
          (.operating i true, m) := by
        rw [Operation.start, Act.run_bind, ran]
        exact entered
      exact begin_advances present rfl next started
  | @resumed _ a _ waiting ran =>
      have resumed : (Stage.resume c (.entering token a)).run s.blank = (.operating i true, m) := by
        rw [Stage.resume, Act.run_bind, ran]
        exact entered
      exact proceed_advances waiting rfl resumed

/-- An invocation whose acquire has returned a channel, in the course of the event `entry`. The
network is the one at that moment. -/
structure Tenure where
  address : String
  earlier : List Event
  entry : Event
  controller : Nat
  call : Nat
  channel : Nat
  token : Option String
  network : Network
  returns : (run address earlier).Returns controller call channel token entry network

namespace Tenure

variable (t : Tenure) (events : List Event)

def after : System := run t.address (t.earlier ++ t.entry :: events)

def At (stage : Stage) : Prop := (t.after events).tasks[t.call]? = some ⟨t.controller, stage⟩

def done : List Deed := (t.after events).doneBy t.controller t.call

def past : List Deed := t.network.history ++ (run t.address t.earlier).doneBy t.controller t.call

/-- The call has found its token cancelled, as its acquire returned or when it was polled later
on. -/
def Cancelled : Prop :=
  ∃ token, t.token = some token ∧ (token ∈ t.network.cancelled ∨
    ∃ first rest i, events = first ++ .resume t.call :: rest ∧ t.At first (.operating i false) ∧
      token ∈ (t.after first).network.cancelled)

/-- All that the call has done to any channel or slot since its acquire returned: it has aborted its
channel, once, and taken it out of the slot if it was there. It never gets back there. -/
structure TornDown : Prop where
  done : ∃ removed, t.done events = .aborted (.ofEndpoint t.channel) :: removed ++ t.past ∧
    (removed = [] ∨ removed = [.removed t.controller t.channel])
  aborted : ((t.after events).network.channel (.ofEndpoint t.channel)).aborted
  gone : ¬ Keeps (t.after events).network t.controller t.channel

/-- The events that let the call do something leave all other channels and slots alone, and its own
slot as well unless its channel is in it. -/
def Spares : Prop :=
  Interleaving.Spares t.controller t.channel t.network (t.after []).network ∧
    ∀ first e rest, events = first ++ e :: rest → e.call? = some t.call →
      Interleaving.Spares t.controller t.channel (t.after first).network
        (t.after (first ++ [e])).network

/-- The call looks after its channel until it has found its token cancelled, and has torn the
channel down then. -/
inductive Guarded (i : Invocation) : Prop
  | armed (unseen : ¬ t.Cancelled events) (same : i = .start t.controller t.channel t.token)
      (idle : t.done events = t.past)
  | spent (seen : t.Cancelled events) (same : i = ⟨t.controller, t.channel, false, none⟩)
      (torn : t.TornDown events)

theorem after_snoc (e : Event) : t.after (events ++ [e]) = (t.after events).step e := by
  rw [after, after, ← run_snoc, List.append_assoc, List.cons_append]

theorem after_sound : Sound (t.after events) := run_sound ..

theorem cancelled_snoc (e : Event) : t.Cancelled (events ++ [e]) ↔ t.Cancelled events ∨
    e = .resume t.call ∧ ∃ token i, t.token = some token ∧ t.At events (.operating i false) ∧
      token ∈ (t.after events).network.cancelled := by
  constructor
  · rintro ⟨token, given, found | ⟨first, rest, i, split, waiting, found⟩⟩
    · exact .inl ⟨token, given, .inl found⟩
    · rcases List.eq_nil_or_concat rest with rfl | ⟨rest, last, rfl⟩
      · obtain ⟨rfl, same⟩ := List.append_inj' split rfl
        cases same
        exact .inr ⟨rfl, token, i, given, waiting, found⟩
      · have split : events ++ [e] = (first ++ .resume t.call :: rest) ++ [last] := by
          simpa using split
        obtain ⟨rfl, _⟩ := List.append_inj' split rfl
        exact .inl ⟨token, given, .inr ⟨first, rest, i, rfl, waiting, found⟩⟩
  · rintro (⟨token, given, found | ⟨first, rest, i, rfl, waiting, found⟩⟩
      | ⟨rfl, token, i, given, waiting, found⟩)
    · exact ⟨token, given, .inl found⟩
    · exact ⟨token, given, .inr ⟨first, rest ++ [e], i, by simp, waiting, found⟩⟩
    · exact ⟨token, given, .inr ⟨events, [], i, rfl, waiting, found⟩⟩

theorem entry_advances :
    ∃ i n, (Invocation.start t.controller t.channel t.token).heed.run t.network = (i, n) ∧
    (run t.address t.earlier).Advances (t.after []) t.controller t.call (.operating i true) n := by
  rw [after, run_snoc]
  exact returns_advances t.returns

theorem created : ∃ maker, ⟨maker, .created t.channel⟩ ∈ (t.after events).history := by
  induction events using List.reverseRecOn with
  | nil =>
      obtain ⟨i, n, heeded, advances⟩ := t.entry_advances
      have named : i.channel = t.channel := by
        rcases heed_cases (.start t.controller t.channel t.token) t.network rfl with
          ⟨_, ran⟩ | ⟨_, _, ran, _⟩ <;> cases ran.symm.trans heeded <;> rfl
      have sound := t.after_sound []
      obtain ⟨maker, installed⟩ := (sound.placed advances.task).2.2
      rw [named] at installed
      obtain ⟨_, _, own⟩ := sound.standing.installed_own installed
      exact ⟨maker, own⟩
  | append_singleton events e ih =>
      obtain ⟨maker, told⟩ := ih
      exact ⟨maker, t.after_snoc events e ▸ step_records (t.after_sound events) e told⟩

theorem has : (t.after events).network.Has (.ofEndpoint t.channel) := by
  obtain ⟨_, told⟩ := t.created events
  exact run_has _ _ told

theorem unkept {events : List Event} (did : .aborted (.ofEndpoint t.channel) ∈ t.done events) :
    ¬ Keeps (t.after events).network t.controller t.channel := by
  intro kept
  have attacked : (t.after events).ledger.Attacked t.controller t.channel :=
    ⟨t.call, _, mem_doneBy.mp did, by simp [Deed.attacks]⟩
  exact ((t.after_sound events).standing.cached ((slot_network _ _).trans kept)).1 attacked

variable {events : List Event}

theorem torn_down {n m : Network} {before : List Deed}
    (discards : Discards t.controller t.channel n m) (network : (t.after events).network = m)
    (done : t.done events = m.history ++ before) (past : n.history ++ before = t.past) :
    t.TornDown events := by
  have has : n.Has (.ofEndpoint t.channel) := discards.has (network ▸ t.has events)
  have told : t.done events = .aborted (.ofEndpoint t.channel) ::
      (if Keeps n t.controller t.channel then [.removed t.controller t.channel] else []) ++
        t.past := by
    rw [done, discards.history, List.append_assoc, past]
  constructor
  case done =>
    refine ⟨_, told, ?_⟩
    split <;> simp
  case aborted => simp [network, discards.channel has]
  case gone => exact t.unkept (by simp [told])

theorem TornDown.lasts {t : Tenure} {e : Event} (torn : t.TornDown events)
    (done : t.done (events ++ [e]) = t.done events) : t.TornDown (events ++ [e]) := by
  have aborted := (step_within endures_everlasting (t.after events) e).aborted torn.aborted
  obtain ⟨removed, told, only⟩ := torn.done
  have told : t.done (events ++ [e]) = .aborted (.ofEndpoint t.channel) :: removed ++ t.past :=
    done.trans told
  constructor
  case done => exact ⟨removed, told, only⟩
  case aborted => rwa [t.after_snoc]
  case gone => exact t.unkept (by simp [told])

theorem Guarded.lasts {t : Tenure} {e : Event} {i : Invocation} (guarded : t.Guarded events i)
    (done : t.done (events ++ [e]) = t.done events)
    (seen : t.Cancelled (events ++ [e]) → t.Cancelled events) : t.Guarded (events ++ [e]) i := by
  cases guarded with
  | armed unseen same idle =>
      exact .armed (fun cancelled => unseen (seen cancelled)) same (done.trans idle)
  | spent cancelled same torn =>
      exact .spent ((t.cancelled_snoc events e).mpr (.inl cancelled)) same (torn.lasts done)

theorem own_advances {e : Event} {i : Invocation} {polled : Bool}
    (standing : t.At events (.operating i polled)) (own : e.call? = some t.call)
    {left : Stage} {n : Network}
    (ran : (e.go t.controller (.operating i polled)).run (t.after events).blank = (left, n)) :
    (t.after (events ++ [e])).network = n ∧ t.At (events ++ [e]) left ∧
      t.done (events ++ [e]) = n.history ++ t.done events := by
  have advances := proceed_advances standing rfl ran
  rw [At, done, t.after_snoc, step_own own]
  exact ⟨advances.network, advances.task, advances.done⟩

theorem guarded_idle {e : Event} {i : Invocation} {polled : Bool} {left : Stage}
    (standing : t.At events (.operating i polled)) (guarded : t.Guarded events i)
    (own : e.call? = some t.call)
    (ran : (e.go t.controller (.operating i polled)).run (t.after events).blank =
      (left, (t.after events).blank))
    (seen : t.Cancelled (events ++ [e]) → t.Cancelled events) :
    t.At (events ++ [e]) left ∧ t.Guarded (events ++ [e]) i := by
  obtain ⟨_, at_left, done⟩ := t.own_advances standing own ran
  exact ⟨at_left, guarded.lasts done seen⟩

theorem unseen {e : Event} (other : e ≠ .resume t.call) :
    t.Cancelled (events ++ [e]) → t.Cancelled events := by
  intro seen
  rcases (t.cancelled_snoc events e).mp seen with before | ⟨same, _⟩
  · exact before
  · exact absurd same other

theorem cancelled_nil : t.Cancelled [] ↔
    (Invocation.start t.controller t.channel t.token).Finds t.network := by
  constructor
  · rintro ⟨token, given, found | ⟨first, rest, _, split, _⟩⟩
    · exact ⟨token, given, found⟩
    · simp at split
  · rintro ⟨token, given, found⟩
    exact ⟨token, given, .inl found⟩

theorem guarded_entry : ∃ i, t.At [] (.operating i true) ∧ t.Guarded [] i := by
  obtain ⟨i, n, heeded, advances⟩ := t.entry_advances
  have done : t.done [] = n.history ++ (run t.address t.earlier).doneBy t.controller t.call :=
    advances.done
  refine ⟨i, advances.task, ?_⟩
  rcases heed_cases (.start t.controller t.channel t.token) t.network rfl with
    ⟨calm, ran⟩ | ⟨found, m, ran, discards⟩
  · cases ran.symm.trans heeded
    exact .armed (fun seen => calm (t.cancelled_nil.mp seen)) rfl done
  · cases ran.symm.trans heeded
    exact .spent (t.cancelled_nil.mpr found) rfl (t.torn_down discards advances.network done rfl)

theorem guarded_resume {i : Invocation} (standing : t.At events (.operating i false))
    (guarded : t.Guarded events i) : ∃ j, t.At (events ++ [.resume t.call]) (.operating j true) ∧
      t.Guarded (events ++ [.resume t.call]) j := by
  have seen : t.Cancelled (events ++ [.resume t.call]) ↔ t.Cancelled events ∨
      (Invocation.start t.controller t.channel t.token).Finds (t.after events).blank := by
    rw [t.cancelled_snoc]
    apply or_congr_right
    constructor
    · rintro ⟨_, token, _, given, _, cancelled⟩
      exact ⟨token, given, cancelled⟩
    · rintro ⟨token, given, cancelled⟩
      exact ⟨rfl, token, i, given, standing, cancelled⟩
  have polls {j : Invocation} {m : Network} (heeded : i.heed.run (t.after events).blank = (j, m)) :
      ((Event.resume t.call).go t.controller (.operating i false)).run (t.after events).blank =
        (.operating j true, m) := by
    change StateT.run (i.heed >>= fun j => pure (Stage.operating j true)) _ = _
    rw [Act.run_bind, heeded]
    rfl
  cases guarded with
  | armed unseen same idle =>
      subst same
      rcases heed_cases (.start t.controller t.channel t.token) (t.after events).blank rfl with
        ⟨calm, ran⟩ | ⟨found, m, ran, discards⟩
      · have still :=
          t.guarded_idle standing (.armed unseen rfl idle) rfl (polls ran) fun cancelled =>
          (seen.mp cancelled).resolve_right calm
        exact ⟨_, still⟩
      · obtain ⟨network, at_left, done⟩ := t.own_advances standing rfl (polls ran)
        have torn : t.TornDown (events ++ [.resume t.call]) :=
          t.torn_down discards network done idle
        exact ⟨_, at_left, .spent (seen.mpr (.inr found)) rfl torn⟩
  | spent found same torn =>
      subst same
      have ran := heed_calm ⟨t.controller, t.channel, false, none⟩ (t.after events).blank (by simp)
      exact ⟨_, t.guarded_idle standing (.spent found rfl torn) rfl (polls ran) fun _ => found⟩

/-- From the return of its acquire on, the call has an operation going until it ends. -/
theorem stands (events : List Event) :
    (∃ i polled, t.At events (.operating i polled) ∧ t.Guarded events i) ∨
      ∃ ending, t.At events (.ended ending) := by
  induction events using List.reverseRecOn with
  | nil =>
      obtain ⟨i, standing, guarded⟩ := t.guarded_entry
      exact .inl ⟨i, true, standing, guarded⟩
  | append_singleton events e ih =>
      rcases ih with ⟨i, polled, standing, guarded⟩ | ⟨ending, ended⟩
      · by_cases own : e.call? = some t.call
        · cases e with
          | newController | begin | drop | outside => cases own
          | resume k =>
              cases own
              cases polled with
              | false =>
                  obtain ⟨j, next⟩ := t.guarded_resume standing guarded
                  exact .inl ⟨j, true, next⟩
              | true =>
                  have still :=
                    t.guarded_idle (e := .resume t.call) standing guarded rfl rfl fun seen => by
                    rcases (t.cancelled_snoc ..).mp seen with before | ⟨_, _, _, _, waiting, _⟩
                    · exact before
                    · cases standing.symm.trans waiting
                  exact .inl ⟨i, true, still⟩
          | suspend k =>
              cases own
              exact .inl ⟨i, false, t.guarded_idle standing guarded rfl rfl (t.unseen (by simp))⟩
          | conclude k outcome =>
              cases own
              cases polled with
              | false =>
                  exact .inl ⟨i, false,
                    t.guarded_idle standing guarded rfl rfl (t.unseen (by simp))⟩
              | true => exact .inr ⟨_, (t.own_advances standing rfl rfl).2.1⟩
          | abandon k =>
              cases own
              exact .inr ⟨_, (t.own_advances standing rfl rfl).2.1⟩
        · have rests := step_rests (List.getElem?_eq_some_iff.mp standing).1 own
          rw [← t.after_snoc] at rests
          have done : t.done (events ++ [e]) = t.done events := rests.done _
          have at_still : t.At (events ++ [e]) (.operating i polled) := rests.task.trans standing
          have apart : e ≠ .resume t.call := fun same => own (same ▸ rfl)
          exact .inl ⟨i, polled, at_still, guarded.lasts done (t.unseen apart)⟩
      · have rests := step_ended ended e
        rw [← t.after_snoc] at rests
        exact .inr ⟨ending, rests.task.trans ended⟩

theorem guarded_at {i : Invocation} {polled : Bool} (standing : t.At events (.operating i polled)) :
    t.Guarded events i := by
  rcases t.stands events with ⟨j, _, same, guarded⟩ | ⟨_, ended⟩
  · cases same.symm.trans standing
    exact guarded
  · cases ended.symm.trans standing

theorem Guarded.named {t : Tenure} {i : Invocation} (guarded : t.Guarded events i) :
    i.controller = t.controller ∧ i.channel = t.channel := by
  cases guarded with
  | armed _ same => exact same ▸ ⟨rfl, rfl⟩
  | spent _ same => exact same ▸ ⟨rfl, rfl⟩

theorem finish_spares (i : Invocation) (succeeded : Bool) (n : Network) :
    Interleaving.Spares i.controller i.channel n ((i.finish succeeded).run n).2 := by
  cases succeeded with
  | true => exact .refl ..
  | false => exact fire_spares i n

theorem go_spares {e : Event} {k : Nat} (own : e.call? = some k) (c : Nat) (i : Invocation)
    (polled : Bool) (n : Network) :
    Interleaving.Spares i.controller i.channel n ((e.go c (.operating i polled)).run n).2 := by
  cases e with
  | newController | begin | drop | outside => cases own
  | resume => cases polled with
      | true => exact .refl ..
      | false => exact heed_spares i n
  | suspend => exact .refl ..
  | conclude _ outcome => cases polled with
      | true => exact finish_spares i outcome.isOk n
      | false => exact .refl ..
  | abandon => exact fire_spares i n

theorem spares (events : List Event) : t.Spares events := by
  constructor
  · obtain ⟨i, n, heeded, advances⟩ := t.entry_advances
    have spares := heed_spares (.start t.controller t.channel t.token) t.network
    rwa [heeded, ← advances.network] at spares
  · intro first e rest _ own
    rcases t.stands first with ⟨i, polled, standing, guarded⟩ | ⟨ending, ended⟩
    · obtain ⟨⟨left, m⟩, ran⟩ :
          ∃ r, (e.go t.controller (.operating i polled)).run (t.after first).blank = r :=
        ⟨_, rfl⟩
      have spares := go_spares own t.controller i polled (t.after first).blank
      rw [guarded.named.1, guarded.named.2, ran] at spares
      rw [(t.own_advances standing own ran).1]
      exact spares.noted
    · rw [t.after_snoc, step_own own, proceed_over ended rfl]
      exact .refl ..

theorem torn_down_end {e : Event} {i : Invocation} {polled : Bool} {left : Stage}
    (standing : t.At events (.operating i polled)) (own : e.call? = some t.call)
    (ran : (e.go t.controller (.operating i polled)).run (t.after events).blank =
      (left, (i.fire.run (t.after events).blank).2)) :
    t.At (events ++ [e]) left ∧ t.TornDown (events ++ [e]) := by
  obtain ⟨network, at_left, done⟩ := t.own_advances standing own ran
  refine ⟨at_left, ?_⟩
  cases t.guarded_at standing with
  | armed _ same idle =>
      subst same
      obtain ⟨m, fired, discards⟩ := fire_armed (.start t.controller t.channel t.token)
        (t.after events).blank rfl
      rw [fired] at network done
      exact t.torn_down discards network done idle
  | spent _ same torn =>
      subst same
      exact torn.lasts done

theorem ended_lasts {ending : Ending} (finished : t.At events (.ended ending))
    (later : List Event) :
    t.At (events ++ later) (.ended ending) ∧ t.done (events ++ later) = t.done events := by
  induction later using List.reverseRecOn with
  | nil => simpa using finished
  | append_singleton later e ih =>
      have rests := step_ended ih.1 e
      rw [← t.after_snoc, List.append_assoc] at rests
      exact ⟨rests.task.trans ih.1, (rests.done _).trans ih.2⟩

theorem TornDown.after_end {t : Tenure} (torn : t.TornDown events) {ending : Ending}
    (finished : t.At events (.ended ending)) (later : List Event) :
    t.TornDown (events ++ later) := by
  induction later using List.reverseRecOn with
  | nil => simpa using torn
  | append_singleton later e ih =>
      have still :=
        (t.ended_lasts finished (later ++ [e])).2.trans (t.ended_lasts finished later).2.symm
      rw [← List.append_assoc] at still ⊢
      exact ih.lasts still

end Tenure

end Interleaving

end RemoteClient
