import RemoteClient.Proofs.Interleaving.Errors

namespace RemoteClient

namespace Deed

def creates : Deed → Bool
  | .created _ => true
  | _ => false

def fills : Deed → Bool
  | .installed _ _ => true
  | _ => false

def isDown : Deed → Bool
  | .closed _ | .closeFailed _ _ | .aborted _ | .spared _ | .removed _ _ => true
  | .created _ | .opened _ | .openFailed _ _ | .installed _ _ => false

end Deed

namespace Interleaving

def Actor.isOn (c : Nat) : Actor → Bool
  | .call d _ => d == c
  | .outside => false

namespace System

def deedsOn (s : System) (c : Nat) : List Deed := (s.history.filter (·.actor.isOn c)).map (·.deed)

/-- How many calls on the controller have failed to open a channel. -/
def failures (s : System) (c : Nat) : Nat :=
  s.tasks.countP fun task => task.controller == c && task.stage.acquireError?.isSome

end System

def total (f : Nat → Nat) : Nat → Nat
  | 0 => 0
  | k + 1 => total f k + f k

section

variable {f g : Nat → Nat} {bound : Nat}

theorem total_congr (same : ∀ k < bound, f k = g k) : total f bound = total g bound := by
  induction bound with
  | zero => rfl
  | succ bound ih =>
      rw [total, total, same bound (Nat.lt_succ_self _),
        ih fun k inside => same k (Nat.lt_succ_of_lt inside)]

theorem total_add : total (fun k => f k + g k) bound = total f bound + total g bound := by
  induction bound with
  | zero => rfl
  | succ bound ih =>
      simp only [total, ih]
      omega

theorem total_once (j bound : Nat) :
    total (fun k => if j = k then 1 else 0) bound = if j < bound then 1 else 0 := by
  induction bound with
  | zero => rfl
  | succ bound ih =>
      rw [total, ih]
      split <;> split <;> split <;> omega

theorem total_none : total (fun _ => 0) bound = 0 := by
  induction bound with
  | zero => rfl
  | succ bound ih => exact ih

end

section

variable {s : System} {c : Nat}

theorem count_signed {history : List Record} {bound : Nat}
    (known : ∀ r ∈ history, ∀ k, r.actor = .call c k → k < bound) (p : Deed → Bool) :
    history.countP (fun r => r.actor.isOn c && p r.deed) =
      total (fun k => history.countP fun r => decide (r.actor = .call c k) && p r.deed) bound := by
  induction history with
  | nil => exact total_none.symm
  | cons r history ih =>
      have once :
        total (fun k => if (decide (r.actor = .call c k) && p r.deed) = true then 1 else 0) bound =
          if (r.actor.isOn c && p r.deed) = true then 1 else 0 := by
        obtain ⟨actor, deed⟩ := r
        cases actor with
        | outside => simp [Actor.isOn, total_none]
        | call d j =>
            by_cases here : d = c
            · subst here
              have inside := known ⟨.call d j, deed⟩ (by simp) j rfl
              cases p deed <;> simp [Actor.isOn, inside, total_none, total_once]
            · simp [Actor.isOn, here, total_none]
      simp only [List.countP_cons]
      rw [total_add, once, ih fun r told => known r (List.mem_cons_of_mem _ told)]

theorem count_deeds (unborn : Unborn s) {bound : Nat}
    (known : ∀ (k : Nat) (stage : Stage), s.tasks[k]? = some ⟨c, stage⟩ → k < bound)
    (p : Deed → Bool) :
    (s.deedsOn c).countP p = total (fun k => (s.doneBy c k).countP p) bound := by
  have signed (k : Nat) : (s.doneBy c k).countP p =
      s.history.countP fun r => decide (r.actor = .call c k) && p r.deed := by
    rw [System.doneBy, List.countP_map, List.countP_filter]
    exact List.countP_congr fun r _ => by simp [and_comm]
  simp only [signed]
  rw [← count_signed, System.deedsOn, List.countP_map, List.countP_filter]
  · exact List.countP_congr fun r _ => by simp [and_comm]
  · rintro ⟨actor, deed⟩ told k rfl
    by_contra outside
    have nothing := unborn c k fun stage found => outside (known k stage found)
    have did : deed ∈ s.doneBy c k := mem_doneBy.mpr told
    rw [nothing] at did
    cases did

theorem count_tasks (tasks : List Task) (p : Task → Bool) :
    tasks.countP p = total (fun k => if tasks[k]?.any p then 1 else 0) tasks.length := by
  induction tasks using List.reverseRecOn with
  | nil => rfl
  | append_singleton tasks task ih =>
      rw [List.countP_append, List.length_append, List.length_singleton, total, ih]
      congr 1
      · refine total_congr fun k inside => ?_
        rw [List.getElem?_append_left inside]
      · simp [List.countP_cons]

theorem generation_filled (sound : Sound s) (c : Nat) :
    (s.network.controller c).generation = (s.deedsOn c).countP Deed.fills := by
  rw [← generation_network, show s.ledger.generation c = _ from sound.standing.counted c,
    List.count, List.countP_map, installs, List.countP_filterMap, System.deedsOn, List.countP_map,
    List.countP_filter]
  refine List.countP_congr ?_
  rintro ⟨actor, deed⟩ told
  cases deed with
  | installed d id =>
      obtain ⟨k, rfl, _⟩ := sound.standing.installed_own told
      simp [Deed.installed?, Deed.fills, Actor.isOn]
  | _ => simp [Deed.installed?, Deed.fills]

end

/-- All the channels that were made were put into a slot, but for so many. -/
def Balances (deeds : List Deed) (failed : Nat) : Prop :=
  deeds.countP Deed.creates = deeds.countP Deed.fills + failed

section

variable {met : Meets} {n : Network} {c : Nat} {deeds more : List Deed}

theorem Balances.append {failed others : Nat} (left : Balances more others)
    (right : Balances deeds failed) :
    Balances (more ++ deeds) (others + failed) := by
  unfold Balances at *
  rw [List.countP_append, List.countP_append, left, right]
  omega

theorem down_fills (down : ∀ deed ∈ deeds, deed.isDown) : deeds.countP Deed.fills = 0 := by
  refine List.countP_eq_zero.mpr fun deed did => ?_
  have down := down deed did
  cases deed <;> simp_all [Deed.isDown, Deed.fills]

theorem balances_down (down : ∀ deed ∈ deeds, deed.isDown) : Balances deeds 0 := by
  rw [Balances, down_fills down]
  refine List.countP_eq_zero.mpr fun deed did => ?_
  have down := down deed did
  cases deed <;> simp_all [Deed.isDown, Deed.creates]

theorem Shuts.down {ref : ChannelRef} {result : Except Channel.Error Unit}
    (shuts : Shuts ref result deeds) :
    ∀ deed ∈ deeds, deed.isDown := by
  cases shuts <;> simp [Deed.isDown]

theorem Guards.down {id : Nat} {armed : Bool} (guards : Guards c id armed deeds) :
    ∀ deed ∈ deeds, deed.isDown := by
  cases guards with
  | armed => exact fun _ did => nomatch did
  | torn only => rcases only with rfl | rfl <;> simp [Deed.isDown]

theorem Clears.down (clears : Clears n c deeds) : ∀ deed ∈ deeds, deed.isDown := by
  cases clears <;> simp [Deed.isDown]

theorem Empties.down {result : Except Channel.Error Unit} (empties : Empties n c result deeds) :
    ∀ deed ∈ deeds, deed.isDown := by
  cases empties with
  | vacant => exact fun _ did => nomatch did
  | shut _ shuts =>
      intro deed did
      rcases List.mem_append.mp did with shut | removed
      · exact shuts.down deed shut
      · cases List.mem_singleton.mp removed
        rfl

theorem Vacates.down {stage : Stage} (vacates : Vacates n c stage deeds) :
    (∀ deed ∈ deeds, deed.isDown) ∧ stage.acquireError? = none ∧ stage.chosen? = none := by
  cases vacates with
  | settled empties | disposed empties => exact ⟨empties.down, rfl, rfl⟩
  | shutting | disposing | abandoned => exact ⟨by simp [Deed.isDown], rfl, rfl⟩

theorem Obtains.balances (alone : ∀ id, ¬ met.rival id) {result : Except Channel.Error Nat}
    (obtains : Obtains met c result deeds) : Balances deeds (if result.isOk then 0 else 1) := by
  cases obtains with
  | lost seen => exact absurd seen (alone _)
  | reused | refused | interrupted | won => rfl

/-- Without a rival a call that is seen through puts every channel it makes into the slot, or fails
to open it. -/
theorem Attains.balances (alone : ∀ id, ¬ met.rival id) (stays : ¬ met.givenUp) {stage : Stage}
    (finished : stage.isOver) (attains : Attains met c stage deeds) :
    Balances deeds (if stage.acquireError?.isSome then 1 else 0) := by
  cases attains with
  | acquiring | entering | operating => cases finished
  | @acquired result _ obtains =>
      have balances := obtains.balances alone
      cases result <;> exact balances
  | refused obtains => exact obtains.balances alone
  | operated guards _ obtains => exact (balances_down guards.down).append (obtains.balances alone)
  | interrupted left | abandoned left => exact absurd left stays

end

theorem Operation.kinds (op : Operation) :
    op.acquires ∨ op.vacates ∨ ∃ id alwaysAbort, op = .invalidate id alwaysAbort := by
  cases op <;> simp [Operation.acquires, Operation.vacates]

namespace Career

variable {t : Career} {events : List Event} {stage : Stage}

theorem brings_down (stands : t.At events stage) (other : ¬ t.op.acquires) :
    (∀ deed ∈ t.done events, deed.isDown) ∧ stage.acquireError? = none ∧ stage.chosen? = none := by
  rcases t.op.kinds with acquires | vacates | ⟨id, alwaysAbort, invalidates⟩
  · exact absurd acquires other
  · obtain ⟨_, same, account⟩ := shutdown_account vacates events
    cases same.symm.trans stands
    exact account.down
  · obtain ⟨_, same, result, shut, rfl, done, shuts⟩ := invalidate_account invalidates events
    cases same.symm.trans stands
    refine ⟨fun deed did => ?_, rfl, rfl⟩
    rw [done] at did
    rcases List.mem_append.mp did with down | removed
    · exact shuts.down deed down
    · split at removed
      · cases List.mem_singleton.mp removed
        rfl
      · cases removed

theorem balances (stands : t.At events stage) (finished : stage.isOver)
    (alone : ∀ id, ¬ t.Beaten events id) (stays : ¬ t.GivenUp events) :
    Balances (t.done events) (if stage.acquireError?.isSome then 1 else 0) := by
  by_cases acquires : t.op.acquires
  · obtain ⟨_, same, own, stale, done, clears, attains⟩ := acquire_account acquires events
    cases same.symm.trans stands
    rw [done]
    exact (attains.balances alone stays finished).append (balances_down clears.down)
  · obtain ⟨down, errs, _⟩ := brings_down stands acquires
    rw [errs]
    exact balances_down down

end Career

end Interleaving

end RemoteClient
