import RemoteClient.Proofs.Interleaving.Accounts
import RemoteClient.Proofs.Interleaving.Tenure

namespace RemoteClient.Interleaving

section

variable {s : System} {c k : Nat}

/-- No call has done anything before it began, and none acts on another controller than its own. -/
def Unborn (s : System) : Prop :=
  ∀ c k, (∀ stage, s.tasks[k]? ≠ some ⟨c, stage⟩) → s.doneBy c k = []

theorem perform_unborn {α : Type} (unborn : Unborn s) (act : Act α) {actor : Actor}
    {tasks : List Task} {dropped : List Nat}
    (kept : ∀ (d j : Nat) (stage : Stage), s.tasks[j]? = some ⟨d, stage⟩ →
      ∃ left, tasks[j]? = some ⟨d, left⟩)
    (known : ∀ d j, actor = .call d j → ∃ stage, tasks[j]? = some ⟨d, stage⟩) :
    Unborn { (s.perform actor act).2 with tasks, dropped } := by
  intro d j absent
  have apart : actor ≠ .call d j := fun same => (known d j same).elim absent
  have done := doneBy_append s (s.perform actor act).2 d j rfl
  rw [other_deeds apart] at done
  exact done.trans (unborn d j fun stage found => (kept d j stage found).elim absent)

theorem begin_unborn (unborn : Unborn s) (c : Nat) (op : Operation) : Unborn (s.begin c op) := by
  unfold System.begin
  split
  · refine perform_unborn unborn _ (fun d j stage found => ⟨stage, ?_⟩) fun d j same => ?_
    · rwa [List.getElem?_append_left (List.getElem?_eq_some_iff.mp found).1]
    · cases same
      exact ⟨_, List.getElem?_concat_length⟩
  · exact unborn

theorem step_unborn (unborn : Unborn s) (e : Event) : Unborn (s.step e) := by
  have outside {α : Type} (act : Act α) : Unborn (s.perform .outside act).2 :=
    perform_unborn unborn act (fun _ _ stage found => ⟨stage, found⟩) fun _ _ same => nomatch same
  cases own : e.call? with
  | some k =>
      rw [step_own own]
      unfold System.proceed
      split
      · exact unborn
      next task found =>
        split
        · exact unborn
        · have inside : k < s.tasks.length := (List.getElem?_eq_some_iff.mp found).1
          have here (stage : Stage) : (s.tasks.set k ⟨task.controller, stage⟩)[k]? =
            some ⟨task.controller, stage⟩ := List.getElem?_set_self inside
          refine perform_unborn unborn _ (fun d j stage known => ?_) fun d j same => ?_
          · by_cases same : k = j
            · subst same
              cases found.symm.trans known
              exact ⟨_, here _⟩
            · exact ⟨stage, (List.getElem?_set_ne same).trans known⟩
          · cases same
            exact ⟨_, here _⟩
  | none =>
      cases e with
      | newController => exact outside Act.addController
      | outside o => exact outside o.act
      | begin c op => exact begin_unborn unborn c op
      | drop c =>
          change Unborn (s.drop c)
          unfold System.drop
          split
          · exact begin_unborn unborn c .dispose
          · exact unborn
      | resume | suspend | conclude | abandon => cases own

end

theorem run_unborn (address : String) (events : List Event) : Unborn (run address events) := by
  induction events using List.reverseRecOn with
  | nil => exact fun _ _ _ => rfl
  | append_singleton events e ih =>
      rw [run_snoc]
      exact step_unborn ih e

theorem run_ended {address : String} {events : List Event} {c k : Nat} {ending : Ending}
    (found : (run address events).tasks[k]? = some ⟨c, .ended ending⟩) (later : List Event) :
    Rests (run address events) (run address (events ++ later)) k := by
  induction later using List.reverseRecOn with
  | nil =>
      rw [List.append_nil]
      exact ⟨rfl, fun _ => rfl⟩
  | append_singleton later e ih =>
      rw [← List.append_assoc, run_snoc]
      have rests := step_ended (ih.task.trans found) e
      exact ⟨rests.task.trans ih.task, fun c => (rests.done c).trans (ih.done c)⟩

theorem step_keeps {s : System} {c k : Nat} {stage : Stage}
    (found : s.tasks[k]? = some ⟨c, stage⟩) (e : Event) :
    ∃ left, (s.step e).tasks[k]? = some ⟨c, left⟩ := by
  have inside : k < s.tasks.length := (List.getElem?_eq_some_iff.mp found).1
  by_cases own : e.call? = some k
  · rw [step_own own]
    cases going : stage.isOver with
    | true => exact ⟨stage, by rw [proceed_over found going, found]⟩
    | false => exact ⟨_, by rw [proceed_eq found going rfl, List.getElem?_set_self inside]⟩
  · exact ⟨stage, (step_rests inside own).task.trans found⟩

theorem run_keeps {address : String} {events : List Event} {c k : Nat} {stage : Stage}
    (found : (run address events).tasks[k]? = some ⟨c, stage⟩) (later : List Event) :
    ∃ left, (run address (events ++ later)).tasks[k]? = some ⟨c, left⟩ := by
  induction later using List.reverseRecOn with
  | nil => exact ⟨stage, by rwa [List.append_nil]⟩
  | append_singleton later e ih =>
      obtain ⟨left, known⟩ := ih
      rw [← List.append_assoc, run_snoc]
      exact step_keeps known e

theorem run_records {address : String} {events : List Event} {r : Record}
    (told : r ∈ (run address events).history) (later : List Event) :
    r ∈ (run address (events ++ later)).history := by
  induction later using List.reverseRecOn with
  | nil => rwa [List.append_nil]
  | append_singleton later e ih =>
      rw [← List.append_assoc, run_snoc]
      exact step_records (run_sound ..) e ih

/-- A call that was admitted, with the events before it. -/
structure Career where
  address : String
  earlier : List Event
  controller : Nat
  op : Operation
  present : (run address earlier).hasController controller
  admitted : (run address earlier).admits controller op

namespace Career

variable (t : Career) (events : List Event)

def found : System := run t.address t.earlier

def call : Nat := t.found.tasks.length

def past : List Event := t.earlier ++ .begin t.controller t.op :: events

def after : System := run t.address (t.past events)

def done : List Deed := (t.after events).doneBy t.controller t.call

def At (stage : Stage) : Prop := (t.after events).tasks[t.call]? = some ⟨t.controller, stage⟩

theorem fresh : t.found.doneBy t.controller t.call = [] := by
  refine run_unborn t.address t.earlier t.controller t.call fun stage found => ?_
  exact Nat.lt_irrefl _ (List.getElem?_eq_some_iff.mp found).1

theorem past_snoc (e : Event) : t.past (events ++ [e]) = t.past events ++ [e] := by
  simp [past]

theorem after_snoc (e : Event) : t.after (events ++ [e]) = (t.after events).step e := by
  rw [after, past_snoc, run_snoc, after]

theorem after_begun : t.after [] = t.found.begin t.controller t.op := by
  rw [after, past, run_snoc]
  rfl

/-- Whatever events come, the call is at some stage, and what is kept by all of them holds of it. -/
theorem goes_on {P : List Event → Stage → List Deed → Prop}
    (begins : Tells t.found.blank (t.op.start t.controller) fun stage deeds _ => P [] stage deeds)
    (rests : ∀ events e stage deeds, P events stage deeds → P (events ++ [e]) stage deeds)
    (goes : ∀ events e stage, e.call? = some t.call → stage.isOver = false → t.At events stage →
      P events stage (t.done events) → Tells (t.after events).blank (e.go t.controller stage)
        fun next deeds _ => P (events ++ [e]) next (deeds ++ t.done events)) :
    ∃ stage, t.At events stage ∧ P events stage (t.done events) := by
  induction events using List.reverseRecOn with
  | nil =>
      obtain ⟨⟨stage, n⟩, ran⟩ : ∃ ran, (t.op.start t.controller).run t.found.blank = ran :=
        ⟨_, rfl⟩
      obtain ⟨deeds, added, holds⟩ := begins
      rw [ran] at added holds
      have advances := begin_advances t.present t.admitted rfl ran
      rw [← found, ← t.after_begun] at advances
      have done : t.done [] = deeds := by
        have done := advances.done
        rw [show n.history = deeds ++ [] from added, List.append_nil] at done
        exact done.trans (by rw [← call, t.fresh, List.append_nil])
      exact ⟨stage, advances.task, done ▸ holds⟩
  | append_singleton events e ih =>
      obtain ⟨stage, here, holds⟩ := ih
      have kept (rests' : Rests (t.after events) (t.after (events ++ [e])) t.call) :
          ∃ stage, t.At (events ++ [e]) stage ∧
            P (events ++ [e]) stage (t.done (events ++ [e])) := by
        refine ⟨stage, rests'.task.trans here, ?_⟩
        rw [done, rests'.done]
        exact rests events e stage _ holds
      rw [t.after_snoc] at kept
      by_cases own : e.call? = some t.call
      · cases going : stage.isOver with
        | true =>
            refine kept ?_
            rw [step_own own, proceed_over here going]
            exact ⟨rfl, fun _ => rfl⟩
        | false =>
            obtain ⟨deeds, added, holds⟩ := goes events e stage own going here holds
            obtain ⟨⟨next, n⟩, ran⟩ :
              ∃ ran, (e.go t.controller stage).run (t.after events).blank = ran :=
              ⟨_, rfl⟩
            rw [ran] at added holds
            have advances := proceed_advances here going ran
            rw [← step_own own, ← t.after_snoc] at advances
            have done : t.done (events ++ [e]) = deeds ++ t.done events := by
              rw [Career.done, advances.done, show n.history = deeds ++ [] from added,
                List.append_nil, ← Career.done]
            exact ⟨next, advances.task, done ▸ holds⟩
      · exact kept (step_rests (List.getElem?_eq_some_iff.mp here).1 own)

end Career

section

variable {s : System} {c k : Nat} {stage : Stage}

theorem begin_calls {d : Nat} {op : Operation}
    (found : (s.begin d op).tasks[k]? = some ⟨c, stage⟩) :
    (∃ left, s.tasks[k]? = some ⟨c, left⟩) ∨
      k = s.tasks.length ∧ d = c ∧ s.hasController c ∧ s.admits c op := by
  by_cases admitted : s.hasController d && s.admits d op
  · obtain ⟨present, admits⟩ := Bool.and_eq_true_iff.mp admitted
    rw [begin_eq present admits rfl] at found
    rcases Nat.lt_trichotomy k s.tasks.length with inside | rfl | outside
    · rw [List.getElem?_append_left inside] at found
      exact .inl ⟨stage, found⟩
    · rw [List.getElem?_concat_length] at found
      cases found
      exact .inr ⟨rfl, rfl, present, admits⟩
    · rw [List.getElem?_eq_none (by rw [List.length_append]; exact outside)] at found
      cases found
  · rw [System.begin, if_neg admitted] at found
    exact .inl ⟨stage, found⟩

theorem step_calls {e : Event} (found : (s.step e).tasks[k]? = some ⟨c, stage⟩) :
    (∃ left, s.tasks[k]? = some ⟨c, left⟩) ∨ k = s.tasks.length ∧ s.hasController c ∧
      ((∃ op, e = .begin c op ∧ s.admits c op) ∨ e = .drop c ∧ s.isIdle c) := by
  cases own : e.call? with
  | some j =>
      rw [step_own own] at found
      by_cases here : j = k
      · subst here
        unfold System.proceed at found
        split at found
        · exact .inl ⟨stage, found⟩
        next task known =>
          split at found
          · exact .inl ⟨stage, found⟩
          · have inside : j < s.tasks.length := (List.getElem?_eq_some_iff.mp known).1
            cases (List.getElem?_set_self inside).symm.trans found
            exact .inl ⟨_, known⟩
      · rw [(proceed_rests e.go here).task] at found
        exact .inl ⟨stage, found⟩
  | none =>
      cases e with
      | newController | outside o => exact .inl ⟨stage, found⟩
      | begin d op =>
          refine (begin_calls found).imp_right fun ⟨last, same, present, admits⟩ => ?_
          subst same
          exact ⟨last, present, .inl ⟨op, rfl, admits⟩⟩
      | drop d =>
          by_cases admitted : s.hasController d && s.isIdle d
          · obtain ⟨_, idle⟩ := Bool.and_eq_true_iff.mp admitted
            change (s.drop d).tasks[k]? = _ at found
            rw [System.drop, if_pos admitted] at found
            refine (begin_calls found).imp_right fun ⟨last, same, present, _⟩ => ?_
            subst same
            exact ⟨last, present, .inr ⟨rfl, idle⟩⟩
          · change (s.drop d).tasks[k]? = _ at found
            rw [System.drop, if_neg admitted] at found
            exact .inl ⟨stage, found⟩
      | resume | suspend | conclude | abandon => cases own

end

namespace Career

/-- Every call has a career. What a controller does when it is dropped, it does in one when it is
disposed of. -/
theorem traced {address : String} {events : List Event} {c k : Nat} {stage : Stage}
    (found : (run address events).tasks[k]? = some ⟨c, stage⟩) :
    ∃ (t : Career) (later : List Event), t.address = address ∧ t.controller = c ∧ t.call = k ∧
      t.At later stage ∧ t.done later = (run address events).doneBy c k ∧
      (t.past later = events ∨ t.op = .dispose ∧ stage.isOver) := by
  induction events using List.reverseRecOn generalizing stage with
  | nil => simp [run, System.start] at found
  | append_singleton events e ih =>
      rw [run_snoc] at found
      rcases step_calls found with ⟨left, known⟩ | ⟨rfl, present, ⟨op, rfl, admitted⟩ | ⟨rfl, idle⟩⟩
      · obtain ⟨t, later, rfl, rfl, rfl, stands, done, rfl | ⟨disposes, finished⟩⟩ := ih known
        · rw [← run_snoc, ← t.past_snoc] at found
          exact ⟨t, later ++ [e], rfl, rfl, rfl, found, by rw [← past_snoc]; rfl,
            .inl (t.past_snoc later e)⟩
        · obtain ⟨ending, rfl⟩ : ∃ ending, left = .ended ending := by
            cases left <;> first | exact ⟨_, rfl⟩ | cases finished
          have rests := step_ended known e
          cases known.symm.trans (rests.task.symm.trans found)
          refine ⟨t, later, rfl, rfl, rfl, stands, ?_, .inr ⟨disposes, finished⟩⟩
          rw [run_snoc, rests.done, done]
      · rw [← run_snoc] at found
        exact ⟨⟨address, events, c, op, present, admitted⟩, [], rfl, rfl, rfl, found, rfl, .inl rfl⟩
      · have dropped : (run address events).step (.drop c) =
            { (run address events).begin c .dispose with
              dropped := c :: ((run address events).begin c .dispose).dropped } :=
          if_pos (Bool.and_eq_true_iff.mpr ⟨present, idle⟩)
        let t : Career := ⟨address, events, c, .dispose, present, rfl⟩
        have begun : t.after [] = (run address events).begin c .dispose := t.after_begun
        rw [dropped] at found
        have stands : t.At [] stage := by rw [At, begun]; exact found
        refine ⟨t, [], rfl, rfl, rfl, stands, ?_, .inr ⟨rfl, ?_⟩⟩
        · rw [done, begun, run_snoc, dropped]
          rfl
        · obtain ⟨⟨last, n⟩, ran⟩ :
            ∃ ran, (Operation.dispose.start c).run (run address events).blank = ran :=
            ⟨_, rfl⟩
          have disposed : last = .ended .disposed := (congrArg Prod.fst ran).symm
          cases (begin_advances present rfl rfl ran).task.symm.trans found
          rw [disposed]
          rfl

end Career

end RemoteClient.Interleaving
