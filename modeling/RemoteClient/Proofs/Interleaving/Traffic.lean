import RemoteClient.Proofs.Interleaving.Tenure

/-!
Calls on channels, any number of them under way at once, among whatever else is done to the
channels. An abort is final for all of them: a call that has not been answered by then, or begins
later, is answered by the abort, and takes no error that was queued for it.
-/

namespace RemoteClient

namespace Channel

def Counted (ch : Channel) : Prop := ch.aborted ↔ 0 < ch.aborts

theorem fresh_counted (id : Nat) (endpoint : String) (faults : Faults) :
    (fresh id endpoint faults).Counted := by
  simp [Counted, fresh]

theorem call_refused {ch : Channel} (aborted : ch.aborted) (method : String) :
    (ch.call method).2.callError = ch.callError := by
  simp [call, refusal?, aborted]

theorem Worked.counted {ch after : Channel} (worked : Worked ch after) (counted : ch.Counted) :
    after.Counted := by
  cases worked with
  | opened => rwa [Counted, openNow_aborted, (openNow_spares ch).1]
  | closed => rwa [Counted, closeNow_aborted, (closeNow_spares ch).1]
  | called method => rwa [Counted, (call_same ch method).2, call_aborts]
  | aborted => exact iff_of_true rfl (Nat.succ_pos ch.aborts)
  | failingOpen | failingClose | failingCall | delayed => exact counted

/-- Aborts are counted, and never called off. An aborted channel keeps the error that is queued for
its next call, unless another one takes its place. -/
structure Seals (told : Option Error) (f : Channel → Channel) : Prop where
  id : ∀ ch, (f ch).id = ch.id
  counted : ∀ ch, ch.Counted → (f ch).Counted
  aborted : ∀ ch, ch.aborted → (f ch).aborted
  callError : ∀ ch, ch.aborted → (f ch).callError = told.or ch.callError

-- What is said of errors does not follow for all work alike: to make the next call fail is to queue
-- an error.
theorem Seals.of_worked {told : Option Error} {f : Channel → Channel}
    (worked : ∀ ch, Worked ch (f ch))
    (callError : ∀ ch, ch.aborted → (f ch).callError = told.or ch.callError) :
    Seals told f where
  id ch := (worked ch).id
  counted ch := (worked ch).counted
  aborted ch := (worked ch).aborted_lasts
  callError := callError

theorem force_seals (state : State) : Seals none (·.force state) :=
  ⟨fun _ => rfl, fun _ counted => counted, fun _ aborted => aborted, fun _ _ => rfl⟩

end Channel

namespace Interleaving

/-- The aborts of the channel were counted. If it was aborted before, it has not become fit for
calls again, and no error queued for one was taken; `told` is the error that was queued
meanwhile. -/
structure Sealed (ref : ChannelRef) (told : Option Channel.Error) (n m : Network) : Prop where
  counted : (n.channel ref).Counted → (m.channel ref).Counted
  aborted : (n.channel ref).aborted → (m.channel ref).aborted
  queued : (n.channel ref).aborted → (m.channel ref).callError = told.or (n.channel ref).callError

namespace Sealed

variable {ref : ChannelRef} {told later : Option Channel.Error} {n m l : Network}

theorem of_same (same : m.channel ref = n.channel ref) : Sealed ref none n m :=
  ⟨fun counted => same ▸ counted, fun aborted => same ▸ aborted,
    fun _ => congrArg Channel.callError same⟩

theorem refl (n : Network) : Sealed ref none n n := .of_same rfl

theorem noted (n : Network) (waits : Nat) (log : List Log.Event) (history : List Deed) :
    Sealed ref none n { n with waits := waits, log := log, history := history } :=
  of_same (by cases ref <;> rfl)

theorem trans (first : Sealed ref told n m) (second : Sealed ref later m l) :
    Sealed ref (later.or told) n l where
  counted before := second.counted (first.counted before)
  aborted before := second.aborted (first.aborted before)
  queued before := by
    rw [second.queued (first.aborted before), first.queued before, Option.or_assoc]

theorem put {f : Channel → Channel} (seals : Channel.Seals told f) (n : Network)
    (other : ChannelRef) :
    Sealed ref (if ref = other then told else none) n
      (n.putChannel other (f (n.channel other))) := by
  have named : (f (n.channel other)).id = other.id := (seals.id _).trans (n.channel_id other)
  by_cases same : ref = other
  · subst same
    rw [if_pos rfl]
    have here (aborted : (n.channel ref).aborted) :
        (n.putChannel ref (f (n.channel ref))).channel ref = f (n.channel ref) :=
      Network.channel_putChannel_same named (Network.has_of_aborted aborted)
    constructor
    · intro counted
      rcases Network.channel_putChannel_cases named ref with same | ⟨_, now⟩
      · rwa [same]
      · rw [now]
        exact seals.counted _ counted
    · intro aborted
      rw [here aborted]
      exact seals.aborted _ aborted
    · intro aborted
      rw [here aborted]
      exact seals.callError _ aborted
  · rw [if_neg same]
    exact of_same (Network.channel_putChannel_other named same)

end Sealed

section

variable {ref : ChannelRef} {told : Option Channel.Error} {α β : Type}

theorem sealed_still {act : Act α} (still : ∀ n, (act.run n).2.channel ref = n.channel ref) :
    Within (Sealed ref none) act := fun n => .of_same (still n)

theorem sealed_bind {act : Act α} {f : α → Act β} (first : Within (Sealed ref told) act)
    (second : ∀ a, Within (Sealed ref none) (f a)) : Within (Sealed ref told) (act >>= f) :=
  fun n => (first n).trans (second _ _)

theorem sealed_modify {f : Channel → Channel} (seals : Channel.Seals none f)
    (other : ChannelRef) : Within (Sealed ref none) (Act.modifyChannel other f) := by
  intro n
  have put :
      Sealed ref (if ref = other then none else none) n
        (n.putChannel other (f (n.channel other))) :=
    .put seals n other
  rwa [ite_self] at put

theorem sealed_work {f : Channel → Channel} (seals : Channel.Seals none f)
    (other : ChannelRef) {act : Act α} (works : ∀ n, ∃ log history, (act.run n).2 =
      { n.putChannel other (f (n.channel other)) with log := log, history := history }) :
    Within (Sealed ref none) act := by
  intro n
  obtain ⟨log, history, ran⟩ := works n
  rw [ran]
  exact (sealed_modify seals other n).trans (.noted _ _ log history)

theorem sealed_openNow (other : ChannelRef) : Within (Sealed ref none) (Act.openNow other) :=
  sealed_work (.of_worked (fun _ => .opened) fun ch _ => ch.openNow_spares.2) other fun n => by
    cases other <;> exact ⟨_, _, rfl⟩

theorem sealed_closeNow (other : ChannelRef) : Within (Sealed ref none) (Act.closeNow other) :=
  sealed_work (.of_worked (fun _ => .closed) fun ch _ => ch.closeNow_spares.2) other fun n => by
    cases other <;> exact ⟨_, _, rfl⟩

theorem sealed_abort (other : ChannelRef) : Within (Sealed ref none) (Act.abort other) :=
  sealed_work (.of_worked (fun _ => .aborted) fun _ _ => rfl) other fun n => by
    cases other <;> exact ⟨_, _, rfl⟩

theorem sealed_force (other : ChannelRef) (state : Channel.State) :
    Within (Sealed ref none) (Act.force other state) :=
  sealed_work (Channel.force_seals state) other fun n => by cases other <;> exact ⟨_, _, rfl⟩

theorem sealed_call (other : ChannelRef) (method : String) :
    Within (Sealed ref none) (Act.call other method) := by
  refine sealed_work
    (.of_worked (fun _ => .called method) fun _ aborted => Channel.call_refused aborted method)
    other fun n => ?_
  obtain ⟨log, history, ran⟩ := Act.run_call other method n
  exact ⟨log, history, congrArg Prod.snd ran⟩

theorem sealed_check (other : ChannelRef) (call : Call) :
    Within (Sealed ref none) (call.check other) := by
  refine sealed_bind (sealed_still fun _ => rfl) fun wake => ?_
  rcases wake with _ | _ | _
  · exact sealed_still fun _ => rfl
  · exact sealed_still fun _ => rfl
  · exact sealed_bind (sealed_call other call.method) fun _ => sealed_still fun _ => rfl

theorem sealed_start (other : ChannelRef) (method : String) (latency : Nat) :
    Within (Sealed ref none) (Call.start other method latency) := by
  refine sealed_bind (sealed_still fun _ => rfl) fun ch => ?_
  cases ch.refusal? with
  | some e => exact sealed_still fun _ => rfl
  | none =>
      refine sealed_bind (sealed_still fun _ => rfl) fun now => ?_
      exact sealed_bind (fun n => .noted n _ n.log n.history) fun _ => sealed_check other _

theorem sealed_shutdownChannel (other : ChannelRef) (alwaysAbort : Bool) :
    Within (Sealed ref none) (Act.shutdownChannel other alwaysAbort) := by
  have noted (event : Log.Event) : Within (Sealed ref none) (Act.note event) :=
    fun n => .noted n n.waits _ n.history
  refine sealed_bind (sealed_still fun _ => rfl) fun ch => ?_
  split
  · exact sealed_bind (sealed_abort other) fun _ => sealed_still fun _ => rfl
  · exact sealed_bind (fun n => .noted n n.waits n.log _) fun _ => sealed_still fun _ => rfl
  · refine sealed_bind (sealed_closeNow other) fun result => ?_
    cases result with
    | ok => exact sealed_still fun _ => rfl
    | error e =>
        refine sealed_bind (sealed_abort other) fun _ => ?_
        dsimp only
        split <;> exact sealed_bind (noted _) fun _ => sealed_still fun _ => rfl

theorem sealed_create : Within (Sealed ref none) Act.create := by
  intro n
  have known (aborted : (n.channel ref).aborted) : n.created.channel ref = n.channel ref :=
    Network.channel_created_known (Network.has_of_aborted aborted)
  have counted (before : (n.channel ref).Counted) : (n.created.channel ref).Counted := by
    rcases n.channel_created_cases ref with same | fresh
    · rwa [same]
    · rw [fresh]
      exact Channel.fresh_counted ..
  have made : Sealed ref none n n.created :=
    ⟨counted, fun aborted => by rwa [known aborted], fun aborted => by rw [known aborted]; rfl⟩
  exact made.trans (.noted n.created n.waits n.log _)

def Outside.queues? (ref : ChannelRef) : Outside → Option Channel.Error
  | .failCall other e => if ref = other then some e else none
  | _ => none

theorem sealed_outside (o : Outside) : Within (Sealed ref (o.queues? ref)) o.act := by
  cases o with
  | force other state => exact sealed_force other state
  | «open» other => exact sealed_openNow other
  | close other => exact sealed_closeNow other
  | abort other => exact sealed_abort other
  | call other method => exact sealed_call other method
  | shutdown other alwaysAbort => exact sealed_shutdownChannel other alwaysAbort
  | failOpen other e =>
      exact sealed_modify (.of_worked (fun _ => .failingOpen e) fun _ _ => rfl) other
  | failClose other e =>
      exact sealed_modify (.of_worked (fun _ => .failingClose e) fun _ _ => rfl) other
  | failCall other e =>
      exact fun n => .put (.of_worked (fun _ => .failingCall e) fun _ _ => rfl) n other
  | delay other latency =>
      exact sealed_modify (.of_worked (fun _ => .delayed latency) fun _ _ => rfl) other
  | create => exact sealed_create
  | cancel token =>
      refine sealed_still fun n => ?_
      change Network.channel (if n.cancelled.contains token then n else _) ref = _
      split
      · rfl
      · cases ref <;> rfl
  | failNextOpen | failCloses | delayHandshakes | stamp | elapse | settleTies =>
      exact sealed_still fun n => by cases ref <;> rfl

end

end Interleaving

namespace Traffic

/-- Where a call stands. One that is dropped is never answered. -/
inductive Standing where
  | waiting (call : Call)
  | answered (result : Except Channel.Error String)
  | dropped
  deriving DecidableEq, Repr

structure Exchange where
  channel : ChannelRef
  standing : Standing
  deriving DecidableEq, Repr

/-- What can happen next. A call whose reply takes time is polled when it begins, and then again any
number of times. -/
inductive Event where
  | call (ref : ChannelRef) (method : String)
  | begin (ref : ChannelRef) (method : String) (latency : Nat)
  | poll (k : Nat)
  | drop (k : Nat)
  | outside (o : Interleaving.Outside)

namespace Standing

def ofPoll : Progress Call (Except Channel.Error String) → Standing
  | .pending call => .waiting call
  | .done result => .answered result

def isOver : Standing → Bool
  | .waiting _ => false
  | .answered _ | .dropped => true

/-- What becomes of a call on an aborted channel at the next event that lets it go on or drops
it. -/
def after (call : Call) : Option Event → Standing
  | none => .waiting call
  | some (.drop _) => .dropped
  | some _ => .answered (.error .aborted)

end Standing

namespace Event

def concerns (k : Nat) : Event → Bool
  | .poll j | .drop j => j == k
  | .call _ _ | .begin _ _ _ | .outside _ => false

def queues? (ref : ChannelRef) : Event → Option Channel.Error
  | .outside o => o.queues? ref
  | .call _ _ | .begin _ _ _ | .poll _ | .drop _ => none

end Event

end Traffic

structure Traffic where
  network : Network
  exchanges : List Traffic.Exchange

namespace Traffic

def start (address : String) : Traffic := ⟨.start address, []⟩

def make (s : Traffic) (ref : ChannelRef) (act : Act Standing) : Traffic :=
  let (standing, n) := act.run s.network
  ⟨n, s.exchanges ++ [⟨ref, standing⟩]⟩

def proceed (s : Traffic) (k : Nat) (go : ChannelRef → Call → Act Standing) : Traffic :=
  match s.exchanges[k]? with
  | some ⟨ref, .waiting call⟩ =>
    let (standing, n) := (go ref call).run s.network
    ⟨n, s.exchanges.set k ⟨ref, standing⟩⟩
  | _ => s

def step (s : Traffic) : Event → Traffic
  | .call ref method => s.make ref do return .answered (← Act.call ref method)
  | .begin ref method latency => s.make ref do return .ofPoll (← Call.start ref method latency)
  | .poll k => s.proceed k fun ref call => do return .ofPoll (← call.check ref)
  | .drop k => s.proceed k fun _ _ => return .dropped
  | .outside o => { s with network := (o.act.run s.network).2 }

def run (address : String) (events : List Event) : Traffic := events.foldl step (start address)

/-- What has become of the calls on an aborted channel, and of the error queued for them, after some
events. -/
structure CutOff (ref : ChannelRef) (events : List Event) (s t : Traffic) : Prop where
  aborted : (t.network.channel ref).aborted
  queued : (t.network.channel ref).callError =
    (events.reverse.findSome? (·.queues? ref)).or (s.network.channel ref).callError
  kept : ∀ {k : Nat} {x : Exchange}, s.exchanges[k]? = some x →
    ∃ y : Exchange, t.exchanges[k]? = some y ∧ y.channel = x.channel ∧ (x.standing.isOver → y = x)
  waiting : ∀ {k : Nat} {call : Call}, s.exchanges[k]? = some ⟨ref, .waiting call⟩ →
    t.exchanges[k]? = some ⟨ref, .after call (events.find? (·.concerns k))⟩
  later : ∀ {k : Nat} {x : Exchange}, s.exchanges.length ≤ k → t.exchanges[k]? = some x →
    x.channel = ref →
    x.standing = .answered (.error .aborted)

section

open Interleaving
    (Within Sealed sealed_still sealed_bind sealed_call sealed_start sealed_check sealed_outside)

variable {ref : ChannelRef} {s t u : Traffic}

theorem after_isOver (call : Call) (e : Event) : (Standing.after call (some e)).isOver := by
  cases e <;> rfl

namespace CutOff

theorem refl (aborted : (s.network.channel ref).aborted) : CutOff ref [] s s where
  aborted := aborted
  queued := rfl
  kept found := ⟨_, found, rfl, fun _ => rfl⟩
  waiting found := found
  later beyond found _ := by
    rw [List.getElem?_eq_none beyond] at found
    cases found

theorem trans {events more : List Event} (first : CutOff ref events s t)
    (second : CutOff ref more t u) :
    CutOff ref (events ++ more) s u where
  aborted := second.aborted
  queued := by
    rw [second.queued, first.queued, List.reverse_append, List.findSome?_append, Option.or_assoc]
  kept found := by
    obtain ⟨y, there, same, settled⟩ := first.kept found
    obtain ⟨z, now, still, stays⟩ := second.kept there
    refine ⟨z, now, still.trans same, fun ended => ?_⟩
    cases settled ended
    exact stays ended
  waiting {k call} found := by
    have there := first.waiting found
    cases met : events.find? (·.concerns k) with
    | none =>
        rw [met] at there
        rw [List.find?_append, met]
        exact second.waiting there
    | some e =>
        rw [met] at there
        obtain ⟨y, now, _, stays⟩ := second.kept there
        rw [List.find?_append, met, now, stays (after_isOver call e)]
        rfl
  later {k x} beyond found on := by
    by_cases made : t.exchanges.length ≤ k
    · exact second.later made found on
    · obtain ⟨y, there⟩ : ∃ y, t.exchanges[k]? = some y := ⟨_, List.getElem?_eq_getElem (by omega)⟩
      obtain ⟨z, now, same, stays⟩ := second.kept there
      cases found.symm.trans now
      have answered := first.later beyond there (same.symm.trans on)
      rw [stays (by rw [answered]; rfl)]
      exact answered

end CutOff

theorem make_sealed {act : Act Standing} (sealed : Within (Sealed ref none) act)
    (other : ChannelRef) : Sealed ref none s.network (s.make other act).network :=
  sealed s.network

theorem proceed_sealed {go : ChannelRef → Call → Act Standing}
    (sealed : ∀ other call, Within (Sealed ref none) (go other call)) (k : Nat) :
    Sealed ref none s.network (s.proceed k go).network := by
  unfold proceed
  split
  · exact sealed _ _ s.network
  · exact .refl _

theorem step_sealed (s : Traffic) (e : Event) :
    Sealed ref (e.queues? ref) s.network (s.step e).network := by
  cases e with
  | call other method =>
      exact make_sealed (sealed_bind (sealed_call other method) fun _ =>
        sealed_still fun _ => rfl) other
  | begin other method latency =>
      exact make_sealed (sealed_bind (sealed_start other method latency) fun _ =>
        sealed_still fun _ => rfl) other
  | poll k =>
      exact proceed_sealed (fun other call => sealed_bind (sealed_check other call)
        fun _ => sealed_still fun _ => rfl) k
  | drop k => exact proceed_sealed (fun _ _ => sealed_still fun _ => rfl) k
  | outside o => exact sealed_outside o s.network

theorem CutOff.single {e : Event} (aborted : (s.network.channel ref).aborted)
    (sealed : Sealed ref (e.queues? ref) s.network t.network)
    (kept : ∀ {k : Nat} {x : Exchange}, s.exchanges[k]? = some x →
      ∃ y : Exchange, t.exchanges[k]? = some y ∧ y.channel = x.channel ∧
        (x.standing.isOver → y = x))
    (waiting : ∀ {k : Nat} {call : Call}, s.exchanges[k]? = some ⟨ref, .waiting call⟩ →
      t.exchanges[k]? = some ⟨ref, .after call (if e.concerns k then some e else none)⟩)
    (later : ∀ {k : Nat} {x : Exchange}, s.exchanges.length ≤ k → t.exchanges[k]? = some x →
      x.channel = ref →
      x.standing = .answered (.error .aborted)) :
    CutOff ref [e] s t where
  aborted := sealed.aborted aborted
  queued := by
    rw [sealed.queued aborted, List.reverse_singleton, List.findSome?_singleton]
  kept := kept
  waiting found := by
    rw [waiting found, List.find?_singleton]
  later := later

theorem make_cutOff {e : Event} {other : ChannelRef} {act : Act Standing}
    (aborted : (s.network.channel ref).aborted)
    (sealed : Sealed ref (e.queues? ref) s.network (s.make other act).network)
    (apart : ∀ k, e.concerns k = false)
    (refused : (s.network.channel other).aborted →
      (act.run s.network).1 = .answered (.error .aborted)) :
    CutOff ref [e] s (s.make other act) := by
  have old {k : Nat} {x : Exchange} (found : s.exchanges[k]? = some x) :
      (s.make other act).exchanges[k]? = some x := by
    rw [← found]
    exact List.getElem?_append_left (List.getElem?_eq_some_iff.mp found).1
  refine .single aborted sealed (fun found => ⟨_, old found, rfl, fun _ => rfl⟩) ?_ ?_
  · intro k call found
    rw [apart]
    exact old found
  · intro k x beyond found on
    have made : (s.make other act).exchanges = s.exchanges ++ [⟨other, (act.run s.network).1⟩] :=
      rfl
    rw [made, List.getElem?_append_right beyond, List.getElem?_singleton] at found
    split at found
    · cases found
      have same : other = ref := on
      subst same
      exact refused aborted
    · cases found

theorem proceed_cutOff {e : Event} {j : Nat} {go : ChannelRef → Call → Act Standing}
    (aborted : (s.network.channel ref).aborted)
    (sealed : Sealed ref (e.queues? ref) s.network (s.proceed j go).network)
    (own : ∀ k, e.concerns k = (j == k))
    (ends : ∀ call, ((go ref call).run s.network).1 = .after call (some e)) :
    CutOff ref [e] s (s.proceed j go) := by
  unfold proceed at sealed ⊢
  split at sealed
  next other call found =>
    have inside : j < s.exchanges.length := (List.getElem?_eq_some_iff.mp found).1
    refine .single aborted sealed ?_ ?_ ?_
    · intro k x there
      by_cases same : j = k
      · subst same
        cases found.symm.trans there
        exact ⟨_, List.getElem?_set_self inside, rfl, fun ended => nomatch ended⟩
      · exact ⟨x, (List.getElem?_set_ne same).trans there, rfl, fun _ => rfl⟩
    · intro k waiting there
      by_cases same : j = k
      · subst same
        cases found.symm.trans there
        rw [own, beq_self_eq_true, if_pos rfl, ← ends call]
        exact List.getElem?_set_self inside
      · rw [own, beq_false_of_ne same]
        exact (List.getElem?_set_ne same).trans there
    · intro k x beyond there
      have outside : (s.exchanges.set j ⟨other, ((go other call).run s.network).1⟩).length ≤ k := by
        rwa [List.length_set]
      exact nomatch (List.getElem?_eq_none outside).symm.trans there
  next idle =>
    refine .single aborted sealed (fun found => ⟨_, found, rfl, fun _ => rfl⟩) ?_ ?_
    · intro k call found
      have apart : j ≠ k := fun same => idle ref call (same ▸ found)
      rw [own, beq_false_of_ne apart]
      exact found
    · intro k x beyond found
      exact nomatch (List.getElem?_eq_none beyond).symm.trans found

theorem step_cutOff (aborted : (s.network.channel ref).aborted) (e : Event) :
    CutOff ref [e] s (s.step e) := by
  have sealed : Sealed ref (e.queues? ref) s.network (s.step e).network := step_sealed s e
  cases e with
  | call other method =>
      refine make_cutOff aborted sealed (fun _ => rfl) fun there => ?_
      exact congrArg Standing.answered (Call.call_aborted there method)
  | begin other method latency =>
      refine make_cutOff aborted sealed (fun _ => rfl) fun there => ?_
      exact congrArg Standing.ofPoll (Call.poll_aborted there method latency none)
  | poll j =>
      refine proceed_cutOff aborted sealed (fun _ => rfl) fun call => ?_
      exact congrArg Standing.ofPoll (Call.poll_aborted aborted call.method 0 (some call))
  | drop j => exact proceed_cutOff aborted sealed (fun _ => rfl) fun _ => rfl
  | outside o =>
      refine .single aborted sealed (fun found => ⟨_, found, rfl, fun _ => rfl⟩)
        (fun found => found) ?_
      intro k x beyond found
      exact nomatch (List.getElem?_eq_none beyond).symm.trans found

theorem foldl_cutOff (aborted : (s.network.channel ref).aborted) (events : List Event) :
    CutOff ref events s (events.foldl step s) := by
  induction events generalizing s with
  | nil => exact .refl aborted
  | cons e rest ih =>
      have first := step_cutOff aborted e
      exact first.trans (ih first.aborted)

theorem run_counted (address : String) (events : List Event) (ref : ChannelRef) :
    ((run address events).network.channel ref).Counted := by
  induction events using List.reverseRecOn with
  | nil => cases ref <;> exact Channel.fresh_counted ..
  | append_singleton events e ih =>
      rw [run, List.foldl_append]
      exact (step_sealed _ e).counted ih

theorem abort_aborts (has : s.network.Has ref) :
    ((s.step (.outside (.abort ref))).network.channel ref).aborted := by
  obtain ⟨log, ran⟩ := Interleaving.run_abort ref s.network
  have aborts : (s.step (.outside (.abort ref))).network = ((Act.abort ref).run s.network).2 := rfl
  have named : (s.network.channel ref).abort.id = ref.id := s.network.channel_id ref
  have put := Network.channel_putChannel_same named has
  rw [aborts, ran]
  cases ref <;> exact congrArg Channel.aborted put

/-- In every run, a channel is taken for aborted exactly if somebody has aborted it. From then on,
every call on it that waits for its reply ends with the abort as soon as it goes on, and so does
every call that begins later; an error that is queued for them stays where it is. -/
theorem abort_is_final (address : String) (before after : List Event) (ref : ChannelRef) :
    let s := run address before
    ((s.network.channel ref).aborted ↔ 0 < (s.network.channel ref).aborts) ∧
    (s.network.Has ref → ((s.step (.outside (.abort ref))).network.channel ref).aborted) ∧
    ((s.network.channel ref).aborted → CutOff ref after s (run address (before ++ after))) := by
  intro s
  refine ⟨run_counted address before ref, abort_aborts, fun aborted => ?_⟩
  rw [run, List.foldl_append]
  exact foldl_cutOff aborted after

/-- Two calls wait on a channel, and both replies are due when it is aborted. -/
def due : List Event :=
  [.outside .create, .outside (.open (.ofEndpoint 1)), .begin (.ofEndpoint 1) "rate" 5,
    .begin (.ofEndpoint 1) "stock" 5, .outside (.failCall (.ofEndpoint 1) (.timeout "late")),
      .outside (.elapse 5),
    .outside (.abort (.ofEndpoint 1))]

def resumed : List Event :=
  [.outside (.force (.ofEndpoint 1) .opened), .outside (.settleTies true), .poll 0,
    .outside (.settleTies false), .poll 1, .call (.ofEndpoint 1) "ping"]

theorem due_replies_lost :
    ((run "mem://orders" due).network.channel (.ofEndpoint 1)).aborted ∧
    CutOff (.ofEndpoint 1) resumed (run "mem://orders" due) (run "mem://orders" (due ++ resumed)) ∧
    (run "mem://orders" due).exchanges =
      [⟨.ofEndpoint 1, .waiting ⟨"rate", 5, 0⟩⟩, ⟨.ofEndpoint 1, .waiting ⟨"stock", 5, 1⟩⟩] ∧
    (run "mem://orders" (due ++ resumed)).exchanges =
      List.replicate 3 ⟨.ofEndpoint 1, .answered (.error .aborted)⟩ ∧
    ((run "mem://orders" (due ++ resumed)).network.channel (.ofEndpoint 1)).callError =
      some (.timeout "late") := by
  have aborted : ((run "mem://orders" due).network.channel (.ofEndpoint 1)).aborted := by
    decide +kernel
  have cutOff := (abort_is_final "mem://orders" due resumed (.ofEndpoint 1)).2.2 aborted
  exact ⟨aborted, cutOff, by decide +kernel, by decide +kernel, by decide +kernel⟩

end

end Traffic

end RemoteClient
