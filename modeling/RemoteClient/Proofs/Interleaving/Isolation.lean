import RemoteClient.Proofs.Interleaving.Courses
import RemoteClient.Proofs.Interleaving.Reuse

/-!
Controllers that share an endpoint. The calls on one of them do something only to its own slot and
to the channels that such calls have made, so that what they do leaves every other controller as it
was, with all its channels.
-/

namespace RemoteClient

namespace Deed

def about? : Deed → Option Nat
  | .created id | .installed _ id | .removed _ id => some id
  | .opened (.ofEndpoint id) | .openFailed (.ofEndpoint id) _ | .closed (.ofEndpoint id)
  | .closeFailed (.ofEndpoint id) _ | .aborted (.ofEndpoint id) | .spared (.ofEndpoint id) =>
    some id
  | _ => none

def slot? : Deed → Option Nat
  | .installed c _ | .removed c _ => some c
  | _ => none

theorem ofOpen_about (id : Nat) (result : Except Channel.Error Unit) :
    (ofOpen (.ofEndpoint id) result).about? = some id ∧
      (ofOpen (.ofEndpoint id) result).slot? = none := by
  cases result <;> exact ⟨rfl, rfl⟩

theorem ofClose_about (id : Nat) (result : Except Channel.Error Unit) :
    (ofClose (.ofEndpoint id) result).about? = some id ∧
      (ofClose (.ofEndpoint id) result).slot? = none := by
  cases result <;> exact ⟨rfl, rfl⟩

theorem shuts_about {deed : Deed} {id : Nat} (shuts : deed.shuts id) :
    deed.about? = some id ∧ deed.slot? = none := by
  cases deed <;> simp_all [Deed.shuts, about?, slot?]

end Deed

namespace Interleaving

namespace Hand

def channel? : Hand → Option Nat
  | .empty => none
  | .opening id | .ready id | .closing id _ => some id

theorem fresh_channel {h : Hand} {id : Nat} (fresh : h.fresh? = some id) :
    h.channel? = some id := by
  cases h <;> simp_all [fresh?, channel?]

end Hand

/-- The calls on each controller keep to its slot and to the channels they made. -/
structure Confined (l : Ledger) (hands : Actor → Hand) : Prop where
  told : ∀ {c k id : Nat} {deed : Deed}, l.Did (.call c k) deed → deed.about? = some id →
    l.Made c id
  slots : ∀ {c k d : Nat} {deed : Deed}, l.Did (.call c k) deed → deed.slot? = some d → d = c
  held : ∀ {c k id : Nat}, (hands (.call c k)).channel? = some id → l.Made c id

namespace Confined

variable {l after : Ledger} {hands : Actor → Hand} {actor : Actor}

theorem start : Confined ⟨[], 0, []⟩ fun _ => .empty where
  told did := by simp [Ledger.Did] at did
  slots did := by simp [Ledger.Did] at did
  held held := by simp [Hand.channel?] at held

theorem of_history (confined : Confined l hands) (same : after.history = l.history) :
    Confined after hands := by
  have did {actor : Actor} {deed : Deed} : after.Did actor deed ↔ l.Did actor deed := by
    rw [Ledger.Did, same, Ledger.Did]
  have made {c id : Nat} (made : l.Made c id) : after.Made c id := made.imp fun _ => did.mpr
  exact ⟨fun told about => made (confined.told (did.mp told) about),
    fun told => confined.slots (did.mp told),
    fun held => made (confined.held held)⟩

theorem add (confined : Confined l hands) (deed : Deed) (hand : Hand)
    (about : ∀ c k id, actor = .call c k → deed.about? = some id → (l.add ⟨actor, deed⟩).Made c id)
    (slot : ∀ c k d, actor = .call c k → deed.slot? = some d → d = c)
    (holds : ∀ c k id, actor = .call c k → hand.channel? = some id →
      (l.add ⟨actor, deed⟩).Made c id) :
    Confined (l.add ⟨actor, deed⟩) (Function.update hands actor hand) := by
  have later {c id : Nat} (made : l.Made c id) : (l.add ⟨actor, deed⟩).Made c id :=
    made.imp fun _ did => Ledger.did_later did
  constructor
  case told =>
    intro c k id other did tells
    rcases (Ledger.did_add ..).mp did with same | before
    · cases same
      exact about c k id rfl tells
    · exact later (confined.told before tells)
  case slots =>
    intro c k d other did fills
    rcases (Ledger.did_add ..).mp did with same | before
    · cases same
      exact slot c k d rfl fills
    · exact confined.slots before fills
  case held =>
    intro c k id held
    rcases update_cases Hand.channel? held with ⟨same, now⟩ | ⟨_, before⟩
    · exact holds c k id same.symm now
    · exact later (confined.held before)

theorem tell (confined : Confined l hands) {c k id : Nat} {deed : Deed} {hand : Hand}
    (made : (l.add ⟨.call c k, deed⟩).Made c id) (about : deed.about? = some id)
    (slot : deed.slot? = none ∨ deed.slot? = some c)
    (holds : hand.channel? = none ∨ hand.channel? = some id) :
    Confined (l.add ⟨.call c k, deed⟩) (Function.update hands (.call c k) hand) := by
  refine confined.add deed hand ?_ ?_ ?_
  · rintro _ _ other ⟨⟩ tells
    cases about.symm.trans tells
    exact made
  · rintro _ _ d ⟨⟩ fills
    rcases slot with none | own
    · cases none.symm.trans fills
    · cases own.symm.trans fills
      rfl
  · rintro _ _ other ⟨⟩ held
    rcases holds with none | same
    · cases none.symm.trans held
    · cases same.symm.trans held
      exact made

theorem add_outside (confined : Confined l hands) (deed : Deed) :
    Confined (l.add ⟨.outside, deed⟩) (Function.update hands .outside .empty) := by
  refine confined.add deed .empty ?_ ?_ ?_
  all_goals rintro _ _ _ ⟨⟩

theorem change (confined : Confined l hands) (hand : Hand)
    (holds : ∀ c k id, actor = .call c k → hand.channel? = some id → l.Made c id) :
    Confined l (Function.update hands actor hand) where
  told := confined.told
  slots := confined.slots
  held held := by
    rcases update_cases Hand.channel? held with ⟨same, now⟩ | ⟨_, before⟩
    · exact holds _ _ _ same.symm now
    · exact confined.held before

theorem free (confined : Confined l hands) : Confined l (Function.update hands actor .empty) := by
  refine confined.change .empty ?_
  rintro _ _ _ _ ⟨⟩

end Confined

theorem move_confined {l after : Ledger} {hands : Actor → Hand} {actor : Actor} {hand left : Hand}
    (st : Standing l hands) (confined : Confined l hands) (held : hands actor = hand)
    (move : Move actor (l, hand) (after, left)) :
    Confined after (Function.update hands actor left) := by
  have own {c k id : Nat} (same : actor = .call c k) (holds : hand.channel? = some id) :
      l.Made c id := by
    subst same
    exact confined.held (held ▸ holds)
  have later {c id : Nat} {r : Record} (made : l.Made c id) : (l.add r).Made c id :=
    made.imp fun _ did => Ledger.did_later did
  cases move with
  | meddle _ deed plain => exact confined.add_outside deed
  | supply =>
      have counted : Confined { l with made := l.made + 1 } hands := confined.of_history rfl
      exact counted.add_outside _
  | found =>
      have grown : Confined l.found hands := confined.of_history rfl
      exact grown.free
  | create c k =>
      have made : (l.supply (.call c k)).Made c (l.made + 1) := ⟨k, Ledger.did_now ..⟩
      have counted : Confined { l with made := l.made + 1 } hands := confined.of_history rfl
      exact counted.tell made rfl (.inl rfl) (.inr rfl)
  | opened c k _ id =>
      exact confined.tell (later (own rfl rfl)) rfl (.inl rfl) (.inr rfl)
  | openFailed c k _ id e =>
      exact confined.tell (later (own rfl rfl)) rfl (.inl rfl) (.inr rfl)
  | reject c k _ hand id fresh =>
      have made := own rfl (Hand.fresh_channel fresh)
      refine confined.change (.closing id true) ?_
      rintro _ _ _ ⟨⟩ ⟨⟩
      exact made
  | install c k _ id generation free =>
      have made := own rfl rfl
      have filled : Confined (l.put c ⟨some ⟨id, generation + 1⟩, generation + 1⟩) hands :=
        confined.of_history rfl
      exact filled.tell (later made) rfl (.inr rfl) (.inl rfl)
  | remove c k _ cached generation slot =>
      have filled : l.slot? c = some cached.channel := by simp [Ledger.slot?, slot]
      obtain ⟨_, j, did, _⟩ := st.cached filled
      have made : l.Made c cached.channel := ⟨j, did⟩
      have emptied : Confined (l.put c ⟨none, generation⟩) hands := confined.of_history rfl
      exact emptied.tell (later made) rfl (.inr rfl) (.inr rfl)
  | reach c k _ id actor installed absent =>
      obtain ⟨j, rfl, did⟩ := st.installed_own installed
      refine confined.change (.closing id false) ?_
      rintro _ _ _ ⟨⟩ ⟨⟩
      exact ⟨j, did⟩
  | shut c k _ id sole deed shuts =>
      obtain ⟨about, none⟩ := Deed.shuts_about shuts
      exact confined.tell (later (own rfl rfl)) about (.inl none) (.inr rfl)
  | release => exact confined.free

theorem moves_confined {l after : Ledger} {hands : Actor → Hand} {actor : Actor} {left : Hand}
    (st : Standing l hands) (confined : Confined l hands)
    (moves : Moves actor (l, hands actor) (after, left)) :
    Confined after (Function.update hands actor left) := by
  have both := moves_keep (P := fun l hands => Standing l hands ∧ Confined l hands)
    (fun both move => ⟨move_standing both.1 rfl move, move_confined both.1 both.2 rfl move⟩)
      ⟨st, confined⟩ moves
  exact both.2

theorem run_confined (address : String) (events : List Event) :
    Confined (run address events).ledger (run address events).hands := by
  induction events using List.reverseRecOn with
  | nil =>
      have hands : (run address []).hands = fun _ => .empty := by
        funext actor
        cases actor <;> rfl
      rw [hands]
      exact .start
  | append_singleton events e ih =>
      have sound := run_sound address events
      rw [run_snoc]
      obtain ⟨actor, hand, moves, hands⟩ := (step_follows sound e).moves
      rw [hands]
      exact moves_confined sound.standing ih moves

/-! ## What a deed leaves alone -/

section

variable {deed : Deed} {deeds : List Deed} {n m : Network} {c id : Nat}

theorem happens_channel (happens : Happens deed n m) (apart : deed.about? ≠ some id) :
    m.channel (.ofEndpoint id) = n.channel (.ofEndpoint id) := by
  have put {ref : ChannelRef} {ch : Channel} (named : ch.id = (n.channel ref).id)
    (other : .ofEndpoint id ≠ ref) :
      (n.putChannel ref ch).channel (.ofEndpoint id) = n.channel (.ofEndpoint id) :=
    Network.channel_putChannel_other (named.trans (n.channel_id ref)) other
  cases happens with
  | created => exact Network.channel_created_other fun same => apart (by cases same; rfl)
  | opened _ ref =>
      exact put (Channel.openNow_id _) fun same => apart (same ▸ (Deed.ofOpen_about id _).1)
  | closed _ ref =>
      exact put (Channel.closeNow_id _) fun same => apart (same ▸ (Deed.ofClose_about id _).1)
  | aborted _ ref => exact put rfl fun same => apart (by rw [← same]; rfl)
  | spared | installed | removed => rfl

theorem happens_controller (happens : Happens deed n m) (apart : deed.slot? ≠ some c) :
    m.controller c = n.controller c := by
  have put {d : Nat} {ctl : Controller} (other : c ≠ d) :
      (n.putController d ctl).controller c = n.controller c := by
    simp [Network.controller, Network.putController, Ne.symm other]
  cases happens with
  | created | spared => rfl
  | opened _ ref | closed _ ref | aborted _ ref => cases ref <;> rfl
  | installed _ d | removed _ d => exact put fun same => apart (by rw [same]; rfl)

theorem course_channel (course : Course deeds n m) (apart : ∀ deed ∈ deeds, deed.about? ≠ some id) :
    m.channel (.ofEndpoint id) = n.channel (.ofEndpoint id) :=
  course.unchanged (f := (·.channel (.ofEndpoint id))) (fun _ _ _ _ => rfl) happens_channel apart

theorem course_controller (course : Course deeds n m)
    (apart : ∀ deed ∈ deeds, deed.slot? ≠ some c) :
    m.controller c = n.controller c :=
  course.unchanged (f := (·.controller c)) (fun _ _ _ _ => rfl) happens_controller apart

end

/-- Nothing about the controller changed: not its slot, not how often it was filled, and no channel
that was made for it. -/
structure Untouched (s after : System) (c : Nat) : Prop where
  controller : after.network.controller c = s.network.controller c
  channel : ∀ id, s.ledger.Made c id →
    after.network.channel (.ofEndpoint id) = s.network.channel (.ofEndpoint id)

section

variable {s after : System} {c d k : Nat}

theorem signs_untouched {hands : Actor → Hand} (sound : Sound after)
    (confined : Confined after.ledger hands) (signs : Signs (.call c k) s after) (apart : d ≠ c) :
    Untouched s after d := by
  obtain ⟨deeds, added, course⟩ := signs
  have own {deed : Deed} (told : deed ∈ deeds) : after.ledger.Did (.call c k) deed := by
    change _ ∈ after.history
    rw [added]
    exact List.mem_append_left _ (List.mem_map.mpr ⟨deed, told, rfl⟩)
  constructor
  case controller =>
    exact course_controller course fun deed told fills => apart (confined.slots (own told) fills)
  case channel =>
    rintro id ⟨j, made⟩
    refine course_channel course fun deed told about => ?_
    obtain ⟨i, remade⟩ := confined.told (own told) about
    have still : after.ledger.Did (.call d j) (.created id) := by
      change _ ∈ after.history
      rw [added]
      exact List.mem_append_right _ made
    cases sound.standing.created_once still remade
    exact apart rfl

end

theorem Shuts.about {id : Nat} {result : Except Channel.Error Unit} {deeds : List Deed}
    (shuts : Shuts (.ofEndpoint id) result deeds) :
    ∀ deed ∈ deeds, deed.about? = some id ∧ deed.slot? = none := by
  cases shuts <;> simp [Deed.about?, Deed.slot?]

def Outside.target? : Outside → Option ChannelRef
  | .force ref _ | .open ref | .close ref | .abort ref | .call ref _ | .shutdown ref _
  | .failOpen ref _
  | .failClose ref _ | .failCall ref _ | .delay ref _ => some ref
  | .create | .failNextOpen _ | .failCloses _ | .delayHandshakes _ | .cancel _ | .stamp | .elapse _
  | .settleTies _ => none

structure Only (given : Nat) (n m : Network) : Prop where
  channel : ∀ id, id ≠ given → m.channel (.ofEndpoint id) = n.channel (.ofEndpoint id)
  controller : ∀ c, m.controller c = n.controller c

section

variable {given : Nat} {n : Network}

theorem only_put {ch : Channel} (named : ch.id = (n.channel (.ofEndpoint given)).id)
    (log : List Log.Event) (history : List Deed) :
    Only given n { n.putChannel (.ofEndpoint given) ch with log, history } where
  channel id apart := by
    have put : (n.putChannel (.ofEndpoint given) ch).channel (.ofEndpoint id) =
        n.channel (.ofEndpoint id) :=
      Network.channel_putChannel_other (named.trans (n.channel_id _)) fun same =>
        apart (by cases same; rfl)
    exact put
  controller _ := rfl

theorem only_modify {f : Channel → Channel} (named : ∀ ch, (f ch).id = ch.id) :
    Only given n ((Act.modifyChannel (.ofEndpoint given) f).run n).2 :=
  only_put (named _) n.log n.history

theorem only_told {α : Type} {act : Act α} {deeds : List Deed} (told : Told n (act.run n).2)
    (added : (act.run n).2.history = deeds ++ n.history)
    (about : ∀ deed ∈ deeds, deed.about? = some given ∧ deed.slot? = none) :
    Only given n (act.run n).2 := by
  obtain ⟨others, readded, course⟩ := told
  cases List.append_cancel_right (added.symm.trans readded)
  constructor
  case channel =>
    intro id apart
    refine course_channel course fun deed member tells => apart ?_
    exact Option.some.inj (tells.symm.trans (about deed member).1)
  case controller =>
    intro c
    refine course_controller course fun deed member fills => ?_
    cases (about deed member).2.symm.trans fills

theorem outside_only (o : Outside) (target : o.target? = some (.ofEndpoint given)) :
    Only given n (o.act.run n).2 := by
  cases o with
  | force ref state =>
      cases target
      have same : ((n.channel (.ofEndpoint given)).force state).id =
        (n.channel (.ofEndpoint given)).id := rfl
      exact only_put same _ n.history
  | «open» ref =>
      cases target
      obtain ⟨deeds, added, rfl, _⟩ := openNow_account (.ofEndpoint given) n
      exact only_told (told_openNow _ n) added (by simpa using Deed.ofOpen_about given _)
  | close ref =>
      cases target
      obtain ⟨deeds, added, rfl⟩ := closeNow_tells (.ofEndpoint given) n
      exact only_told (told_closeNow _ n) added (by simpa using Deed.ofClose_about given _)
  | abort ref =>
      cases target
      obtain ⟨deeds, added, rfl⟩ := abort_tells (.ofEndpoint given) n
      exact only_told (told_abort _ n) added (by simp [Deed.about?, Deed.slot?])
  | call ref method =>
      cases target
      obtain ⟨log, history, ran⟩ := Act.run_call (.ofEndpoint given) method n
      have all : ((Outside.call (.ofEndpoint given) method).act.run n).2 =
        ((Act.call (.ofEndpoint given) method).run n).2 := rfl
      rw [all, ran]
      exact only_put (Channel.call_same _ method).1 log history
  | shutdown ref alwaysAbort =>
      cases target
      obtain ⟨deeds, added, shuts⟩ := shutdownChannel_tells (.ofEndpoint given) alwaysAbort n
      exact only_told (told_calling.within_shutdownChannel _ alwaysAbort n) added shuts.about
  | failOpen ref e =>
      cases target
      exact only_modify fun _ => rfl
  | failClose ref e =>
      cases target
      exact only_modify fun _ => rfl
  | failCall ref e =>
      cases target
      exact only_modify fun _ => rfl
  | delay ref latency =>
      cases target
      exact only_modify fun _ => rfl
  | create | failNextOpen | failCloses | delayHandshakes | cancel | stamp | elapse | settleTies =>
      cases target

end

/-- An event in which a call on the controller does something, be it the operation that runs in one
and acts on the channel it was given. -/
inductive ActsOn (s : System) (c : Nat) : Event → Prop
  | begins (op : Operation) : ActsOn s c (.begin c op)
  | drops : ActsOn s c (.drop c)
  | goes {e : Event} {k : Nat} {stage : Stage} (own : e.call? = some k)
      (found : s.tasks[k]? = some ⟨c, stage⟩) : ActsOn s c e
  | operates {o : Outside} {k : Nat} {i : Invocation} {polled : Bool}
      (found : s.tasks[k]? = some ⟨c, .operating i polled⟩)
      (given : o.target? = some (.ofEndpoint i.channel)) : ActsOn s c (.outside o)

/-- The controller gives the channel out, or is about to: a call on it has settled on the channel,
or the channel is in its slot. -/
inductive Gives (s : System) (c id : Nat) : Prop
  | settled {k : Nat} {stage : Stage} (found : s.tasks[k]? = some ⟨c, stage⟩)
      (gives : stage.chosen? = some id)
  | kept (kept : Keeps s.network c id)

theorem Gives.made {address : String} {events : List Event} {c id : Nat}
    (gives : Gives (run address events) c id) :
    (run address events).ledger.Made c id := by
  cases gives with
  | settled found gives => exact Career.chosen_made found gives
  | kept kept => exact kept_made (run_sound address events) kept

theorem acts_untouched {address : String} {events : List Event} {c d : Nat} {e : Event}
    (apart : d ≠ c) (acts : ActsOn (run address events) c e) :
    Untouched (run address events) ((run address events).step e) d := by
  have sound := run_sound address (events ++ [e])
  have confined := run_confined address (events ++ [e])
  rw [run_snoc] at sound confined
  cases acts with
  | begins op => exact signs_untouched sound confined (begin_signs _ c op) apart
  | drops => exact signs_untouched sound confined (drop_signs _ c) apart
  | goes own found => exact signs_untouched sound confined (step_signs _ own found) apart
  | @operates o k i polled found given =>
      have only : Only i.channel (run address events).network
          ((run address events).step (.outside o)).network :=
        ⟨fun id other => (outside_only o given).channel id other,
          fun c => (outside_only o given).controller c⟩
      have own : (run address events).ledger.Made c i.channel := Career.chosen_made found rfl
      refine ⟨only.controller d, fun id made => only.channel id fun same => ?_⟩
      obtain ⟨j, did⟩ := same ▸ made
      obtain ⟨k, again⟩ := own
      cases (run_sound address events).standing.created_once did again
      exact apart rfl

/-- Whatever a call on one controller does, or the operation in it, no other controller notices: its
slot and its generation stay as they are, and so do all channels that were made for it. And no
channel is ever given out by two controllers. -/
theorem controllers_never_interfere (address : String) (events : List Event) {c d : Nat}
    (apart : d ≠ c) :
    (∀ e, ActsOn (run address events) c e →
      Untouched (run address events) (run address (events ++ [e])) d) ∧
    ∀ later id, Gives (run address events) c id → ¬ Gives (run address (events ++ later)) d id := by
  constructor
  · intro e acts
    rw [run_snoc]
    exact acts_untouched apart acts
  · intro later id first second
    obtain ⟨j, made⟩ := first.made
    obtain ⟨k, remade⟩ := second.made
    have sound := run_sound address (events ++ later)
    cases sound.standing.created_once (run_records made later) remade
    exact apart rfl

/-- Two controllers have a channel each, and the operation on the first one's closes it. -/
theorem neighbours_stay_apart :
    let events : List Event :=
  [.newController, .newController, .begin 0 .invoke, .begin 1 .acquireAsync, .resume 1]
    let close : Event := .outside (.close (.ofEndpoint 1))
    0 ≠ 1 ∧
    ActsOn (run "mem://a" events) 0 close ∧
    Untouched (run "mem://a" events) (run "mem://a" (events ++ [close])) 1 ∧
    Gives (run "mem://a" events) 0 1 ∧ ¬ Gives (run "mem://a" (events ++ [close])) 1 1 ∧
    (run "mem://a" (events ++ [close])).network.endpoint.channels.map (·.state) =
      [.closed, .opened] := by
  intro events close
  have apart : 1 ≠ 0 := by decide
  have acts : ActsOn (run "mem://a" events) 0 close :=
    .operates (k := 0) (i := .start 0 1 none) rfl rfl
  have gives : Gives (run "mem://a" events) 0 1 := .kept (by decide)
  obtain ⟨untouched, alone⟩ := controllers_never_interfere "mem://a" events apart
  exact ⟨by decide, acts, untouched close acts, gives, alone [close] 1 gives, by decide⟩

end Interleaving

end RemoteClient
