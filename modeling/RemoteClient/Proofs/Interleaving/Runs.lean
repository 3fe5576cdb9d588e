import RemoteClient.Proofs.Interleaving.Calls
import RemoteClient.Proofs.Interleaving.Slots
import Mathlib.Data.List.Induction

namespace RemoteClient.Interleaving

namespace System

def ledger (s : System) : Ledger :=
  ⟨s.network.controllers, s.network.endpoint.channels.length, s.history⟩

def hands (s : System) : Actor → Hand
  | .outside => .empty
  | .call c k =>
    match s.tasks[k]? with
    | some task => if task.controller = c then task.stage.hand else .empty
    | none => .empty

end System

theorem slot_network (s : System) (c : Nat) :
    s.ledger.slot? c = (s.network.controller c).slot.map (·.channel) := by
  cases found : s.network.controllers[c]? <;>
    simp [Ledger.slot?, System.ledger, Network.controller, found, Controller.empty]

theorem generation_network (s : System) (c : Nat) :
    s.ledger.generation c = (s.network.controller c).generation := by
  cases found : s.network.controllers[c]? <;>
    simp [Ledger.generation, System.ledger, Network.controller, found, Controller.empty]

structure Sound (s : System) : Prop where
  standing : Standing s.ledger s.hands
  placed : ∀ {k : Nat} {task : Task}, s.tasks[k]? = some task →
    task.controller < s.ledger.slots.length ∧ task.stage.Backed task.controller s.ledger
  retired : ∀ {c : Nat}, c ∈ s.dropped → s.isIdle c ∧ s.ledger.slot? c = none

theorem Sound.prompt {s : System} (sound : Sound s) {k : Nat} {task : Task}
    (found : s.tasks[k]? = some task) : task.stage.retires = false :=
  (sound.placed found).2.prompt

/-- What an event makes of a sound system. -/
structure Follows (s after : System) : Prop where
  sound : Sound after
  moves : ∃ actor hand, Moves actor (s.ledger, s.hands actor) (after.ledger, hand) ∧
    after.hands = Function.update s.hands actor hand

theorem Follows.idle {s : System} (sound : Sound s) : Follows s s :=
  ⟨sound, .outside, s.hands .outside, .refl, (Function.update_eq_self ..).symm⟩

theorem idle_iff {s : System} {c : Nat} : s.isIdle c ↔
    ∀ {k : Nat} {task : Task}, s.tasks[k]? = some task → task.controller = c →
      task.stage.isOver := by
  simp only [System.isIdle, List.all_eq_true, Bool.or_eq_true, bne_iff_ne]
  constructor
  · intro idle k task found same
    exact (idle task (List.mem_of_getElem? found)).resolve_left fun apart => apart same
  · intro idle task member
    obtain ⟨k, found⟩ := List.getElem?_of_mem member
    by_cases same : task.controller = c
    · exact .inr (idle found same)
    · exact .inl same

section

variable {s after : System} {actor : Actor} {pre : Ledger → Hand → Prop}

theorem hands_call {c k : Nat} {task : Task} (found : s.tasks[k]? = some task)
    (same : task.controller = c) : s.hands (.call c k) = task.stage.hand := by
  simp [System.hands, found, same]

theorem hands_none {c k : Nat} (absent : s.tasks[k]? = none) : s.hands (.call c k) = .empty := by
  simp [System.hands, absent]

theorem hands_placed {c k : Nat} {stage : Stage}
    (owned : ∀ task, s.tasks[k]? = some task → task.controller = c)
    (new : after.tasks[k]? = some ⟨c, stage⟩) (old : ∀ j, j ≠ k → after.tasks[j]? = s.tasks[j]?) :
    after.hands = Function.update s.hands (.call c k) stage.hand := by
  funext actor
  cases actor with
  | outside => rfl
  | call d j =>
      by_cases same : Actor.call d j = .call c k
      · cases same
        rw [Function.update_self, hands_call new rfl]
      · rw [Function.update_of_ne same]
        by_cases here : j = k
        · subst here
          have apart : c ≠ d := fun equal => same (equal ▸ rfl)
          cases found : s.tasks[j]? with
          | none => simp [System.hands, new, found, apart]
          | some task =>
              have other : task.controller ≠ d :=
                fun equal => apart ((owned task found).symm.trans equal)
              simp [System.hands, new, found, apart, other]
        · simp [System.hands, old j here]

theorem perform_upholds {α : Type} {act : Act α} {post : α → Ledger → Hand → Prop} (sound : Sound s)
    (known : s.ledger.Knows actor) (upholds : Upholds actor pre act post)
    (held : pre s.ledger (s.hands actor)) :
    ∃ hand, post (s.perform actor act).1 (s.perform actor act).2.ledger hand ∧
      Moves actor (s.ledger, s.hands actor) ((s.perform actor act).2.ledger, hand) :=
  upholds s.history { s.network with history := [] } s.hands sound.standing known held

theorem call_follows {c k : Nat} {act : Act Stage} {tasks : List Task} (sound : Sound s)
    (known : c < s.ledger.slots.length) (alive : c ∉ s.dropped)
    (upholds : Upholds (.call c k) pre act (stands c)) (held : pre s.ledger (s.hands (.call c k)))
    (owned : ∀ task, s.tasks[k]? = some task → task.controller = c)
    (new : tasks[k]? = some ⟨c, (s.perform (.call c k) act).1⟩)
    (old : ∀ j, j ≠ k → tasks[j]? = s.tasks[j]?) :
    Follows s { (s.perform (.call c k) act).2 with tasks } := by
  have knows : s.ledger.Knows (.call c k) := known
  obtain ⟨hand, stood, moves⟩ := perform_upholds sound knows upholds held
  set stage := (s.perform (.call c k) act).1
  set after : System := { (s.perform (.call c k) act).2 with tasks } with after_eq
  have hands : after.hands = Function.update s.hands (.call c k) stage.hand :=
    hands_placed owned new old
  refine ⟨⟨?_, fun {j task} found => ?_, fun {d} gone => ?_⟩, .call c k, hand, moves,
    stood.1 ▸ hands⟩
  · rw [hands, ← stood.1]
    exact moves_standing sound.standing moves
  · by_cases here : j = k
    · subst here
      cases new.symm.trans found
      exact ⟨Nat.lt_of_lt_of_le known (moves_slots moves), stood.2⟩
    · obtain ⟨inside, backed⟩ := sound.placed ((old j here).symm.trans found)
      exact ⟨Nat.lt_of_lt_of_le inside (moves_slots moves), Stage.backed_moves backed moves⟩
  · obtain ⟨idle, empty⟩ := sound.retired gone
    have apart : d ≠ c := fun same => alive (same ▸ gone)
    have slot : after.ledger.slot? d = s.ledger.slot? d :=
      moves_elsewhere moves fun j same => apart (by cases same; rfl)
    refine ⟨idle_iff.mpr fun {j task} found same => ?_, slot.trans empty⟩
    by_cases here : j = k
    · subst here
      cases new.symm.trans found
      exact absurd same.symm apart
    · exact idle_iff.mp idle ((old j here).symm.trans found) same

theorem begin_ready {c : Nat} {op : Operation} (present : s.hasController c)
    (admitted : s.admits c op) : c < s.ledger.slots.length ∧ c ∉ s.dropped ∧
      s.hands (.call c s.tasks.length) = .empty ∧ op.Backed c s.ledger := by
  simp only [System.hasController, Bool.and_eq_true, decide_eq_true_eq, Bool.not_eq_true',
    List.contains_eq_mem, decide_eq_false_iff_not] at present
  obtain ⟨known, alive⟩ := present
  refine ⟨known, alive, hands_none (by simp), ?_⟩
  cases op with
  | invalidate id alwaysAbort =>
      obtain ⟨⟨maker, deed⟩, member, told⟩ := List.any_eq_true.mp admitted
      exact ⟨maker, by rwa [Ledger.Did, ← eq_of_beq told]⟩
  | _ => trivial

theorem begin_follows (sound : Sound s) (c : Nat) (op : Operation) : Follows s (s.begin c op) := by
  unfold System.begin
  split
  next admitted =>
    obtain ⟨present, admits⟩ := Bool.and_eq_true_iff.mp admitted
    obtain ⟨known, alive, held⟩ := begin_ready present admits
    refine call_follows sound known alive (start_upholds op) held ?_ ?_ ?_
    · simp
    · exact List.getElem?_concat_length
    · exact fun j apart => getElem?_concat_other _ _ apart
  next => exact .idle sound

theorem proceed_follows (sound : Sound s) (k : Nat) (go : Nat → Stage → Act Stage)
    (upholds : ∀ c stage, Upholds (.call c k) (stands c stage) (go c stage) (stands c)) :
    Follows s (s.proceed k go) := by
  have idles : Follows s s := .idle sound
  unfold System.proceed
  split
  next => exact idles
  next task found =>
    split
    next => exact idles
    next going =>
      obtain ⟨known, backed⟩ := sound.placed found
      have inside : k < s.tasks.length := (List.getElem?_eq_some_iff.mp found).1
      refine call_follows sound known ?_ (upholds _ _) ⟨hands_call found rfl, backed⟩ ?_ ?_ ?_
      · intro gone
        exact going (idle_iff.mp (sound.retired gone).1 found rfl)
      · intro other again
        cases found.symm.trans again
        rfl
      · exact List.getElem?_set_self inside
      · exact fun j apart => List.getElem?_set_ne (Ne.symm apart)

theorem outside_follows {α : Type} {act : Act α} (sound : Sound s)
    (upholds : Upholds .outside (holds .empty) act fun _ => holds .empty) :
    Follows s (s.perform .outside act).2 := by
  have knows : s.ledger.Knows .outside := trivial
  obtain ⟨hand, free, moves⟩ := perform_upholds sound knows upholds rfl
  have hands : (s.perform .outside act).2.hands = Function.update s.hands .outside hand := by
    rw [show hand = .empty from free]
    exact (Function.update_eq_self (f := s.hands) .outside).symm
  refine ⟨⟨?_, fun {k task} found => ?_, fun {c} gone => ?_⟩, .outside, hand, moves, hands⟩
  · rw [hands]
    exact moves_standing sound.standing moves
  · obtain ⟨inside, backed⟩ := sound.placed found
    exact ⟨Nat.lt_of_lt_of_le inside (moves_slots moves), Stage.backed_moves backed moves⟩
  · obtain ⟨idle, empty⟩ := sound.retired gone
    exact ⟨idle, (moves_elsewhere moves (by simp)).trans empty⟩

theorem begin_vacates {c : Nat} {op : Operation} (present : s.hasController c)
    (disposes : op = .dispose ∨ op = .disposeAsync) : (s.begin c op).ledger.slot? c = none := by
  have admits : s.admits c op := by rcases disposes with rfl | rfl <;> rfl
  have vacant := dispose_vacates disposes c { s.network with history := [] } trivial
  rw [slot_network]
  simp only [System.begin, present, admits, Bool.and_self, if_true]
  exact congrArg (Option.map (·.channel)) vacant

theorem begin_dispose_idle {c : Nat} (present : s.hasController c) (idle : s.isIdle c) :
    (s.begin c .dispose).isIdle c := by
  have admits : s.admits c .dispose := rfl
  simp only [System.begin, present, admits, Bool.and_self, if_true, System.isIdle, System.perform,
    List.all_append, List.all_cons, List.all_nil]
  simp only [Bool.and_true, Bool.and_eq_true]
  exact ⟨idle, Bool.or_eq_true_iff.mpr (.inr rfl)⟩

theorem drop_follows (sound : Sound s) (c : Nat) : Follows s (s.drop c) := by
  unfold System.drop
  split
  next admitted =>
    obtain ⟨present, idle⟩ := Bool.and_eq_true_iff.mp admitted
    obtain ⟨begun, moves⟩ := begin_follows sound c .dispose
    refine ⟨⟨begun.standing, begun.placed, fun {d} gone => ?_⟩, moves⟩
    rcases List.mem_cons.mp gone with rfl | gone
    · exact ⟨begin_dispose_idle present idle, begin_vacates present (.inl rfl)⟩
    · exact begun.retired gone
  next => exact .idle sound

theorem step_follows (sound : Sound s) (e : Event) : Follows s (s.step e) := by
  cases e with
  | newController => exact outside_follows sound addController_upholds
  | begin c op => exact begin_follows sound c op
  | drop c => exact drop_follows sound c
  | resume k => exact proceed_follows sound k _ fun _ => resume_upholds
  | suspend k => exact proceed_follows sound k _ fun _ => suspend_upholds
  | conclude k outcome => exact proceed_follows sound k _ fun _ => conclude_upholds outcome
  | abandon k => exact proceed_follows sound k _ fun _ => abandon_stage_upholds
  | outside o => exact outside_follows sound (outside_upholds o)

end

theorem start_sound (address : String) : Sound (.start address) where
  standing := by
    have hands : (System.start address).hands = fun _ => .empty := by
      funext actor
      cases actor <;> rfl
    rw [hands]
    exact Standing.start
  placed := fun found => by simp [System.start] at found
  retired := fun gone => by simp [System.start] at gone

theorem run_sound (address : String) (events : List Event) : Sound (run address events) := by
  induction events using List.reverseRecOn with
  | nil => exact start_sound address
  | append_singleton events e ih =>
      rw [run, List.foldl_append]
      exact (step_follows ih e).sound

theorem run_later (address : String) (earlier later : List Event) (c : Nat) :
    Later c (run address earlier).ledger (run address (earlier ++ later)).ledger := by
  induction later using List.reverseRecOn with
  | nil =>
      rw [List.append_nil]
      exact .same rfl rfl
  | append_singleton later e ih =>
      have next : run address (earlier ++ (later ++ [e])) =
          (run address (earlier ++ later)).step e := by
        simp only [run, List.foldl_append, List.foldl_cons, List.foldl_nil]
      obtain ⟨actor, hand, moves, _⟩ :=
        (step_follows (run_sound address (earlier ++ later)) e).moves
      rw [next]
      exact ih.trans (moves_later moves c)

end RemoteClient.Interleaving
