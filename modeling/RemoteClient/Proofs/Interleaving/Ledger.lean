import RemoteClient.Proofs.Interleaving.System
import Mathlib.Data.List.Nodup
import Mathlib.Logic.Function.Basic
import Mathlib.Logic.Relation

/-!
What the calls do to channels, without how they do it. The ledger is what the slots and the history
tell of a network, a hand is what one call holds at a time, and a move is the least thing that
somebody does.
-/

namespace RemoteClient

namespace Deed

def tearsDown (id : Nat) : Deed → Bool
  | .aborted ref | .closed ref | .spared ref => ref == .ofEndpoint id
  | _ => false

def attacks (id : Nat) : Deed → Bool
  | .aborted ref | .closed ref | .closeFailed ref _ => ref == .ofEndpoint id
  | _ => false

def shuts (id : Nat) : Deed → Bool
  | .aborted ref | .closed ref | .closeFailed ref _ | .spared ref => ref == .ofEndpoint id
  | _ => false

def isPlain : Deed → Bool
  | .created _ | .installed _ _ => false
  | _ => true

def installed? : Deed → Option (Nat × Nat)
  | .installed c id => some (c, id)
  | _ => none

theorem shuts_plain {deed : Deed} {id : Nat} (shuts : deed.shuts id) : deed.isPlain := by
  cases deed <;> simp_all [Deed.shuts, isPlain]

theorem ofOpen_plain (ref : ChannelRef) (result : Except Channel.Error Unit) :
    (Deed.ofOpen ref result).isPlain := by
  cases result <;> rfl

theorem ofClose_plain (ref : ChannelRef) (result : Except Channel.Error Unit) :
    (Deed.ofClose ref result).isPlain := by
  cases result <;> rfl

theorem shuts_only {deed : Deed} {id other : Nat} (shuts : deed.shuts id)
    (attacks : deed.attacks other) : other = id := by
  cases deed <;> simp_all [Deed.shuts, Deed.attacks]

end Deed

namespace Interleaving

def installs (history : List Record) : List (Nat × Nat) := history.filterMap (·.deed.installed?)

structure Ledger where
  slots : List Controller
  made : Nat
  history : List Record

/-- What a call holds: a channel of its own making that is not open yet, one that is and belongs in
the slot, or one to be shut down. A channel that was let go of elsewhere is not the `sole` charge of
the call that shuts it down again. -/
inductive Hand where
  | empty
  | opening (id : Nat)
  | ready (id : Nat)
  | closing (id : Nat) (sole : Bool)
  deriving DecidableEq, Repr

namespace Hand

def fresh? : Hand → Option Nat
  | .opening id | .ready id => some id
  | .empty | .closing _ _ => none

def own? : Hand → Option Nat
  | .opening id | .ready id | .closing id true => some id
  | .empty | .closing _ false => none

theorem fresh_own {h : Hand} {id : Nat} (fresh : h.fresh? = some id) : h.own? = some id := by
  cases h <;> simp_all [fresh?, own?]

theorem own_cases {h : Hand} {id : Nat} (own : h.own? = some id) :
    h.fresh? = some id ∨ h = .closing id true := by
  rcases h with _ | _ | _ | ⟨_, _ | _⟩ <;> simp_all [fresh?, own?]

end Hand

theorem getElem?_concat_other {α : Type} (l : List α) (a : α) {j : Nat} (apart : j ≠ l.length) :
    (l ++ [a])[j]? = l[j]? := by
  rcases Nat.lt_or_gt_of_ne apart with inside | outside
  · exact List.getElem?_append_left inside
  · rw [List.getElem?_eq_none (Nat.le_of_lt outside), List.getElem?_eq_none]
    rw [List.length_append]
    exact outside

namespace Ledger

def slot? (l : Ledger) (c : Nat) : Option Nat := (l.slots[c]?.bind (·.slot)).map (·.channel)

def generation (l : Ledger) (c : Nat) : Nat := (l.slots[c]?.map (·.generation)).getD 0

def add (l : Ledger) (r : Record) : Ledger := { l with history := r :: l.history }

def put (l : Ledger) (c : Nat) (ctl : Controller) : Ledger := { l with slots := l.slots.set c ctl }

def supply (l : Ledger) (actor : Actor) : Ledger :=
  { l with made := l.made + 1 }.add ⟨actor, .created (l.made + 1)⟩

def found (l : Ledger) : Ledger := { l with slots := l.slots ++ [.empty] }

def Did (l : Ledger) (actor : Actor) (deed : Deed) : Prop := ⟨actor, deed⟩ ∈ l.history

def Installed (l : Ledger) (id : Nat) : Prop := ∃ actor c, l.Did actor (.installed c id)

def TornDown (l : Ledger) (id : Nat) : Prop := ∃ r ∈ l.history, r.deed.tearsDown id

def Attacked (l : Ledger) (c id : Nat) : Prop := ∃ k deed, l.Did (.call c k) deed ∧ deed.attacks id

def Took (l : Ledger) (c k id : Nat) : Prop :=
  l.Did (.call c k) (.created id) ∨ l.Did (.call c k) (.removed c id)

@[simp] theorem slot_add (l : Ledger) (r : Record) (c : Nat) : (l.add r).slot? c = l.slot? c := rfl

@[simp] theorem generation_add (l : Ledger) (r : Record) (c : Nat) :
    (l.add r).generation c = l.generation c := rfl

@[simp] theorem slots_add (l : Ledger) (r : Record) : (l.add r).slots = l.slots := rfl

@[simp] theorem history_add (l : Ledger) (r : Record) : (l.add r).history = r :: l.history := rfl

@[simp] theorem did_add (l : Ledger) (r : Record) (actor : Actor) (deed : Deed) :
    (l.add r).Did actor deed ↔ r = ⟨actor, deed⟩ ∨ l.Did actor deed := by
  simp [Did, add, eq_comm]

@[simp] theorem did_put (l : Ledger) (c : Nat) (ctl : Controller) (actor : Actor) (deed : Deed) :
    (l.put c ctl).Did actor deed ↔ l.Did actor deed := Iff.rfl

@[simp] theorem did_found (l : Ledger) (actor : Actor) (deed : Deed) :
    l.found.Did actor deed ↔ l.Did actor deed := Iff.rfl

@[simp] theorem tornDown_add (l : Ledger) (r : Record) (id : Nat) :
    (l.add r).TornDown id ↔ r.deed.tearsDown id ∨ l.TornDown id := by
  simp [TornDown, add]

theorem slot_put_same (l : Ledger) (c : Nat) (ctl : Controller) (known : c < l.slots.length) :
    (l.put c ctl).slot? c = ctl.slot.map (·.channel) := by
  simp [slot?, put, known]

theorem slot_put_other (l : Ledger) {c other : Nat} (ctl : Controller) (apart : other ≠ c) :
    (l.put c ctl).slot? other = l.slot? other := by
  simp [slot?, put, apart.symm]

theorem generation_put_same (l : Ledger) (c : Nat) (ctl : Controller) (known : c < l.slots.length) :
    (l.put c ctl).generation c = ctl.generation := by
  simp [generation, put, known]

theorem generation_put_other (l : Ledger) {c other : Nat} (ctl : Controller) (apart : other ≠ c) :
    (l.put c ctl).generation other = l.generation other := by
  simp [generation, put, apart.symm]

theorem read_found {α : Type} (read : Option Controller → α)
    (blank : read (some .empty) = read none) (l : Ledger) (c : Nat) :
    read l.found.slots[c]? = read l.slots[c]? := by
  by_cases last : c = l.slots.length
  · rw [last, found, List.getElem?_concat_length, blank, List.getElem?_eq_none (Nat.le_refl _)]
  · rw [found, getElem?_concat_other _ _ last]

theorem slot_found (l : Ledger) (c : Nat) : l.found.slot? c = l.slot? c :=
  read_found (fun ctl => (ctl.bind Controller.slot).map Cached.channel) rfl l c

theorem generation_found (l : Ledger) (c : Nat) : l.found.generation c = l.generation c :=
  read_found (fun ctl => (ctl.map Controller.generation).getD 0) rfl l c

end Ledger

theorem installs_cons (r : Record) (history : List Record) :
    installs (r :: history) = r.deed.installed?.toList ++ installs history := by
  cases found : r.deed.installed? <;> simp [installs, found]

theorem installs_plain {r : Record} (plain : r.deed.isPlain) (history : List Record) :
    installs (r :: history) = installs history := by
  rw [installs_cons]
  cases deed : r.deed <;> simp_all [Deed.isPlain, Deed.installed?]

theorem mem_installs {history : List Record} {c id : Nat} :
    (c, id) ∈ installs history ↔ ∃ actor, ⟨actor, .installed c id⟩ ∈ history := by
  simp only [installs, List.mem_filterMap]
  constructor
  · rintro ⟨⟨actor, deed⟩, member, found⟩
    cases deed <;> simp_all [Deed.installed?]
    exact ⟨actor, member⟩
  · rintro ⟨actor, member⟩
    exact ⟨_, member, rfl⟩

/-- The least steps of an actor. A call is the `k`-th one, on the controller `c`. -/
inductive Move : Actor → Ledger × Hand → Ledger × Hand → Prop
  | meddle (l : Ledger) (deed : Deed) (plain : deed.isPlain) :
      Move .outside (l, .empty) (l.add ⟨.outside, deed⟩, .empty)
  | supply (l : Ledger) : Move .outside (l, .empty) (l.supply .outside, .empty)
  | found (l : Ledger) : Move .outside (l, .empty) (l.found, .empty)
  | create (c k : Nat) (l : Ledger) :
      Move (.call c k) (l, .empty) (l.supply (.call c k), .opening (l.made + 1))
  | opened (c k : Nat) (l : Ledger) (id : Nat) :
      Move (.call c k) (l, .opening id) (l.add ⟨.call c k, .opened (.ofEndpoint id)⟩, .ready id)
  | openFailed (c k : Nat) (l : Ledger) (id : Nat) (e : Channel.Error) :
      Move (.call c k) (l, .opening id)
        (l.add ⟨.call c k, .openFailed (.ofEndpoint id) e⟩, .opening id)
  | reject (c k : Nat) (l : Ledger) (hand : Hand) (id : Nat) (fresh : hand.fresh? = some id) :
      Move (.call c k) (l, hand) (l, .closing id true)
  | install (c k : Nat) (l : Ledger) (id generation : Nat)
      (free : l.slots[c]? = some ⟨none, generation⟩) :
      Move (.call c k) (l, .ready id)
        ((l.put c ⟨some ⟨id, generation + 1⟩, generation + 1⟩).add ⟨.call c k, .installed c id⟩,
          .empty)
  | remove (c k : Nat) (l : Ledger) (held : Cached) (generation : Nat)
      (cached : l.slots[c]? = some ⟨some held, generation⟩) :
      Move (.call c k) (l, .empty)
        ((l.put c ⟨none, generation⟩).add ⟨.call c k, .removed c held.channel⟩,
          .closing held.channel true)
  /-- A channel that has left the slot can still be shut down by whoever kept its handle. -/
  | reach (c k : Nat) (l : Ledger) (id : Nat) (actor : Actor)
      (installed : l.Did actor (.installed c id))
      (absent : l.slot? c ≠ some id) :
      Move (.call c k) (l, .empty) (l, .closing id false)
  | shut (c k : Nat) (l : Ledger) (id : Nat) (sole : Bool) (deed : Deed) (shuts : deed.shuts id) :
      Move (.call c k) (l, .closing id sole) (l.add ⟨.call c k, deed⟩, .closing id sole)
  | release (c k : Nat) (l : Ledger) (id : Nat) (sole : Bool) (done : sole → l.TornDown id) :
      Move (.call c k) (l, .closing id sole) (l, .empty)

abbrev Moves (actor : Actor) : Ledger × Hand → Ledger × Hand → Prop :=
  Relation.ReflTransGen (Move actor)

/-- What is kept of a controller from one ledger to a later one: its installs are counted on, and
without an install its empty slot stays empty. -/
structure Later (c : Nat) (l after : Ledger) : Prop where
  generation : l.generation c ≤ after.generation c
  slot : after.generation c = l.generation c → l.slot? c = none → after.slot? c = none

namespace Later

theorem same {c : Nat} {l after : Ledger} (generation : after.generation c = l.generation c)
    (slot : after.slot? c = l.slot? c) : Later c l after :=
  ⟨Nat.le_of_eq generation.symm, fun _ free => slot.trans free⟩

theorem trans {c : Nat} {l middle after : Ledger} (first : Later c l middle)
    (second : Later c middle after) : Later c l after := by
  refine ⟨Nat.le_trans first.generation second.generation, fun level free => ?_⟩
  have early := first.generation
  have late := second.generation
  exact second.slot (by omega) (first.slot (by omega) free)

theorem put {c d : Nat} {l : Ledger} {ctl : Controller} (known : d < l.slots.length)
    (counted : l.generation d ≤ ctl.generation)
    (kept : ctl.generation = l.generation d → ctl.slot = none) : Later c l (l.put d ctl) := by
  by_cases same : c = d
  · subst same
    refine ⟨(Ledger.generation_put_same l c ctl known).symm ▸ counted, fun level _ => ?_⟩
    rw [Ledger.generation_put_same l c ctl known] at level
    rw [Ledger.slot_put_same l c ctl known, kept level]
    rfl
  · exact .same (Ledger.generation_put_other l ctl same) (Ledger.slot_put_other l ctl same)

end Later

theorem move_did {by' : Actor} {before after : Ledger × Hand} (move : Move by' before after)
    {actor : Actor} {deed : Deed} (did : before.1.Did actor deed) : after.1.Did actor deed := by
  cases move <;> simp [Ledger.supply, did] <;> exact .inr did

theorem move_later {actor : Actor} {before after : Ledger × Hand} (move : Move actor before after)
    (c : Nat) : Later c before.1 after.1 := by
  cases move with
  | found l => exact .same (Ledger.generation_found l c) (Ledger.slot_found l c)
  | install d k l id generation free =>
      have known : d < l.slots.length := (List.getElem?_eq_some_iff.mp free).1
      have level : l.generation d = generation := by simp [Ledger.generation, free]
      have put : Later c l (l.put d ⟨some ⟨id, generation + 1⟩, generation + 1⟩) :=
        .put known (by simp [level]) (by simp [level])
      exact ⟨put.generation, put.slot⟩
  | remove d k l held generation cached =>
      have known : d < l.slots.length := (List.getElem?_eq_some_iff.mp cached).1
      have level : l.generation d = generation := by simp [Ledger.generation, cached]
      have put : Later c l (l.put d ⟨none, generation⟩) :=
        .put known (by simp [level]) fun _ => rfl
      exact ⟨put.generation, put.slot⟩
  | _ => exact .same rfl rfl

theorem move_elsewhere {actor : Actor} {c : Nat} {before after : Ledger × Hand}
    (move : Move actor before after) (stranger : ∀ k, actor ≠ .call c k) :
    after.1.slot? c = before.1.slot? c := by
  cases move with
  | found l => exact Ledger.slot_found l c
  | install d k | remove d k =>
      have apart : c ≠ d := fun same => stranger k (same ▸ rfl)
      exact Ledger.slot_put_other _ _ apart
  | _ => rfl

theorem move_slots {actor : Actor} {before after : Ledger × Hand} (move : Move actor before after) :
    before.1.slots.length ≤ after.1.slots.length := by
  cases move <;> simp [Ledger.supply, Ledger.put, Ledger.found]

section

variable {by' : Actor} {before after : Ledger × Hand}

theorem moves_did (moves : Moves by' before after) {actor : Actor} {deed : Deed}
    (did : before.1.Did actor deed) : after.1.Did actor deed := by
  induction moves with
  | refl => exact did
  | tail _ move ih => exact move_did move ih

theorem moves_later (moves : Moves by' before after) (c : Nat) : Later c before.1 after.1 := by
  induction moves with
  | refl => exact .same rfl rfl
  | tail _ move ih => exact ih.trans (move_later move c)

theorem moves_elsewhere {c : Nat} (moves : Moves by' before after)
    (stranger : ∀ k, by' ≠ .call c k) :
    after.1.slot? c = before.1.slot? c := by
  induction moves with
  | refl => rfl
  | tail _ move ih => exact (move_elsewhere move stranger).trans ih

theorem moves_slots (moves : Moves by' before after) :
    before.1.slots.length ≤ after.1.slots.length := by
  induction moves with
  | refl => exact Nat.le_refl _
  | tail _ move ih => exact Nat.le_trans ih (move_slots move)

end

theorem move_adds {actor : Actor} {before after : Ledger × Hand} (move : Move actor before after) :
    before.1.made ≤ after.1.made ∧
      (∀ id, after.2 = .opening id → before.2 = .opening id ∨ before.1.made < id) ∧
      ∃ deeds, after.1.history = deeds ++ before.1.history ∧
        ∀ c k id, ⟨.call c k, .opened (.ofEndpoint id)⟩ ∈ deeds →
          actor = .call c k ∧ before.2 = .opening id := by
  cases move with
  | found | reject | reach | release => exact ⟨Nat.le_refl _, by simp, [], rfl, by simp⟩
  | supply => exact ⟨Nat.le_succ _, by simp, [_], rfl, by simp⟩
  | create c k l => exact ⟨Nat.le_succ _, by simp, [_], rfl, by simp⟩
  | opened c k l id =>
      refine ⟨Nat.le_refl _, by simp, [_], rfl, fun d j other member => ?_⟩
      cases List.mem_singleton.mp member
      exact ⟨rfl, rfl⟩
  | openFailed c k l id e => exact ⟨Nat.le_refl _, by simp, [_], rfl, by simp⟩
  | meddle | install | remove => exact ⟨Nat.le_refl _, by simp, [_], rfl, by simp⟩
  | shut c k l id sole deed shuts =>
      refine ⟨Nat.le_refl _, by simp, [_], rfl, fun d j other member => ?_⟩
      cases List.mem_singleton.mp member
      cases shuts

theorem moves_made {actor : Actor} {before after : Ledger × Hand}
    (moves : Moves actor before after) :
    before.1.made ≤ after.1.made := by
  induction moves with
  | refl => exact Nat.le_refl _
  | tail _ move ih => exact Nat.le_trans ih (move_adds move).1

theorem moves_adds {actor : Actor} {before after : Ledger × Hand}
    (moves : Moves actor before after) :
    ∃ deeds, after.1.history = deeds ++ before.1.history ∧
      ∀ c k id, ⟨.call c k, .opened (.ofEndpoint id)⟩ ∈ deeds →
        actor = .call c k ∧ (before.2 = .opening id ∨ before.1.made < id) := by
  induction moves using Relation.ReflTransGen.head_induction_on with
  | refl => exact ⟨[], rfl, by simp⟩
  | head move _ ih =>
      obtain ⟨grows, opening, first, added, firsts⟩ := move_adds move
      obtain ⟨rest, readded, rests⟩ := ih
      refine ⟨rest ++ first, by rw [readded, added, List.append_assoc], fun c k id member => ?_⟩
      rcases List.mem_append.mp member with later | now
      · obtain ⟨same, held | unmade⟩ := rests c k id later
        · exact ⟨same, opening id held⟩
        · exact ⟨same, .inr (Nat.lt_of_le_of_lt grows unmade)⟩
      · obtain ⟨same, held⟩ := firsts c k id now
        exact ⟨same, .inl held⟩

end Interleaving

end RemoteClient
