import RemoteClient.Proofs.Interleaving.Runs

namespace RemoteClient

namespace Interleaving

namespace Stage

def chosen? : Stage → Option Nat
  | .acquiring a | .entering _ a => a.winner?
  | .operating i _ => some i.channel
  | .ended (.acquired (.ok id)) => some id
  | _ => none

end Stage

section

theorem within_detach (c id : Nat) : Within remembers (Act.detach c id) := by
  have put (ctl : Controller) : Within remembers (do
      Act.putController c ctl
      Act.record (.removed c id)) := fun n => List.suffix_cons _ n.history
  refine remembers_working.within_bind (fun n => remembers_tolerant.refl n) fun ctl => ?_
  split
  · split
    · exact remembers_working.within_bind (fun n => remembers_tolerant.note n _) fun _ => put _
    · exact remembers_working.within_pure _
  · exact remembers_working.within_pure _

variable {P : Network → Prop}

theorem fire_leads (lasting : ∀ n m, remembers n m → P n → P m) (i : Invocation) :
    Leads P i.fire fun after n => after.channel = i.channel ∧ P n := by
  unfold Invocation.fire
  split
  · have invalidates : Within remembers (discard (Act.invalidate i.controller i.channel true)) :=
      remembers_working.within_bind (within_detach _ _) fun _ =>
        remembers_working.within_shutdownChannel _ true
    exact leads_bind (leads_within invalidates lasting) fun _ => leads_pure _ fun _ kept =>
      ⟨rfl, kept⟩
  · exact leads_pure _ fun _ kept => ⟨rfl, kept⟩

theorem heed_leads (lasting : ∀ n m, remembers n m → P n → P m) (i : Invocation) :
    Leads P i.heed fun after n => after.channel = i.channel ∧ P n := by
  unfold Invocation.heed
  split
  · exact leads_pure _ fun _ kept => ⟨rfl, kept⟩
  · refine leads_bind (leads_within (remembers_tolerant.refl ·) lasting) fun cancelled => ?_
    split
    · refine leads_bind (leads_within (remembers_tolerant.note · _) lasting) fun _ => ?_
      exact leads_bind (fire_leads lasting i) fun _ => leads_pure _ fun _ kept => kept
    · exact leads_pure _ fun _ kept => ⟨rfl, kept⟩

theorem ofAcquire_chosen (progress : Progress Acquiring (Except Channel.Error Nat)) :
    (Stage.ofAcquire progress).chosen? = picked? progress := by
  rcases progress with _ | _ | _ <;> rfl

theorem enter_leads {F : Nat → Network → Prop} (lasting : ∀ id n m, remembers n m → F id n → F id m)
    (c : Nat) (token : Option String) (progress : Progress Acquiring (Except Channel.Error Nat)) :
    Leads (fun n => ∀ id, picked? progress = some id → F id n) (Stage.enter c token progress)
      fun after n => ∀ id, after.chosen? = some id → F id n := by
  rcases progress with a | e | picked
  · exact leads_pure _ fun _ found => found
  · exact leads_pure _ fun _ found => found
  · have heeds := heed_leads (lasting picked) (Invocation.start c picked token)
    refine leads_bind (leads_weaken heeds (fun _ found => found picked rfl) fun _ _ done => done) ?_
    refine fun i => leads_pure _ fun _ kept id chosen => ?_
    cases show some i.channel = some id from chosen
    rw [kept.1]
    exact kept.2

end

section

variable {c : Nat} (m : Network)

def Found (m : Network) (c id : Nat) (n : Network) : Prop :=
  Keeps m c id ∨ .opened (.ofEndpoint id) ∈ n.history

theorem found_lasting (id : Nat) (n n' : Network) (remembers : remembers n n')
    (found : Found m c id n) : Found m c id n' :=
  found.imp_right fun opened => remembers.subset opened

theorem settleLoser_leads (winner loser : Nat)
    (progress : Progress Handshake (Except Channel.Error Unit)) :
    Leads (fun _ => True) (Act.settleLoser winner loser progress) fun result _ =>
      picked? result = some winner := by
  cases progress with
  | pending h => exact leads_pure _ fun _ _ => rfl
  | done result => exact leads_bind (leads_any _) fun _ => leads_pure _ fun _ _ => rfl

theorem settleOpened_leads (fresh : Nat) :
    Leads (fun n => sameSlots m n ∧ .opened (.ofEndpoint fresh) ∈ n.history)
      (Act.settleOpened c fresh)
      fun result n => ∀ id, picked? result = some id → Found m c id n := by
  refine leads_bind (install_leads m (.opened (.ofEndpoint fresh))) fun outcome => ?_
  cases outcome with
  | won =>
      refine leads_pure _ fun n told id picked => ?_
      cases picked
      exact .inr told
  | lostTo winner =>
      intro n kept id picked
      have lost : Leads (fun _ => True) (do
          Act.settleLoser winner fresh (← Act.startShutdownChannel (.ofEndpoint fresh) false))
          fun result _ => picked? result = some winner :=
        leads_bind (leads_any _) (settleLoser_leads winner fresh)
      cases (lost n trivial).symm.trans picked
      exact .inl kept

theorem resumeOpen_leads (ref : ChannelRef) (h : Handshake) :
    Leads (sameSlots m) (Act.resumeOpen ref h) fun progress n =>
      sameSlots m n ∧ (progress = .done (.ok ()) → .opened ref ∈ n.history) := by
  have same (n n' : Network) (within : sameSlots n n') (before : sameSlots m n) : sameSlots m n' :=
    sameSlots_tolerant.trans before within
  refine leads_bind (leads_within (sameSlots_working.within_resume ref h) same) fun progress => ?_
  rcases progress with rest | e | _
  · exact leads_pure _ fun _ kept => ⟨kept, fun done => by cases done⟩
  · exact leads_pure _ fun _ kept => ⟨kept, fun done => by cases done⟩
  · refine leads_bind (openNow_leads m ref) fun result => leads_pure _ fun _ kept => ⟨kept.1, ?_⟩
    exact fun done => kept.2 (by cases done; rfl)

theorem resumeAcquire_leads (a : Acquiring) (prompt : a.retires = false)
    (unpicked : a.winner? = none) :
    Leads (sameSlots m) (Act.resumeAcquire c a) fun result n =>
      ∀ id, picked? result = some id → Found m c id n := by
  cases a with
  | retiring => cases prompt
  | discarding winner loser h => cases unpicked
  | opening fresh h =>
      refine leads_bind (resumeOpen_leads m (.ofEndpoint fresh) h) fun progress => ?_
      rcases progress with rest | e | _
      · exact leads_pure _ fun _ _ id picked => by cases picked
      · refine leads_bind (leads_any _) fun _ => leads_bind (leads_any _) fun _ => ?_
        exact leads_pure _ fun _ _ id picked => by cases picked
      · exact leads_weaken (settleOpened_leads m fresh) (fun _ kept => ⟨kept.1, kept.2 rfl⟩)
          fun _ _ done => done

theorem ofShutdown_unchosen (progress : Progress Closing (Except Channel.Error Unit)) :
    (Stage.ofShutdown progress).chosen? = none := by
  cases progress <;> rfl

theorem ofDispose_unchosen (progress : Progress Closing (Except Channel.Error Unit)) :
    Leads (fun _ => True) (Stage.ofDispose progress) fun after _ =>
      ∀ id, after.chosen? ≠ some id := by
  cases progress with
  | pending rest => exact leads_pure _ fun _ _ id chosen => by cases chosen
  | done result =>
      exact leads_bind (leads_any _) fun _ => leads_pure _ fun _ _ id chosen => by cases chosen

theorem resume_leads (stage : Stage) (prompt : stage.retires = false)
    (undecided : stage.chosen? = none) :
    Leads (sameSlots m) (stage.resume c) fun after n =>
      ∀ id, after.chosen? = some id → (∃ fresh, stage.opens? = some fresh) ∧ Found m c id n := by
  have opens (a : Acquiring) (prompt : a.retires = false) (unpicked : a.winner? = none) :
      ∃ fresh, (Stage.acquiring a).opens? = some fresh := by
    cases a with
    | retiring => cases prompt
    | opening fresh h => exact ⟨fresh, rfl⟩
    | discarding => cases unpicked
  cases stage with
  | acquiring a =>
      refine leads_bind (resumeAcquire_leads m a prompt undecided) fun progress => ?_
      refine leads_pure _ fun n found id chosen => ⟨opens a prompt undecided, found id ?_⟩
      rwa [← ofAcquire_chosen]
  | entering token a =>
      refine leads_bind (resumeAcquire_leads m a prompt undecided) fun progress => ?_
      have enters := enter_leads (found_lasting (c := c) m) c token progress
      refine leads_weaken enters (fun _ found => found) fun after n found id chosen => ?_
      refine ⟨?_, found id chosen⟩
      obtain ⟨fresh, same⟩ := opens a prompt undecided
      exact ⟨fresh, by cases a <;> exact same⟩
  | operating i polled => cases undecided
  | shutting s =>
      refine leads_bind (leads_any _) fun progress => leads_pure _ fun _ _ id chosen => ?_
      exact absurd chosen (by simp [ofShutdown_unchosen])
  | disposing s =>
      refine leads_bind (leads_any _) fun progress => ?_
      exact leads_weaken (ofDispose_unchosen progress) (fun _ _ => trivial)
        fun _ _ unchosen id chosen => absurd chosen (unchosen id)
  | ended ending =>
      refine leads_pure _ fun _ _ id chosen => ?_
      rw [undecided] at chosen
      cases chosen

theorem start_leads (op : Operation) :
    Leads (fun n => n = m) (op.start c) fun after n =>
      ∀ id, after.chosen? = some id → Reuses m c id ∨ .opened (.ofEndpoint id) ∈ n.history := by
  have acquires : Leads (fun n => n = m) (Act.acquire c) fun result n =>
      ∀ id, picked? (.done result) = some id →
        Reuses m c id ∨ .opened (.ofEndpoint id) ∈ n.history := by
    rintro n rfl id picked
    refine acquire_picks ?_
    cases result : ((Act.acquire c).run n).1 <;> rw [result] at picked <;> cases picked
    rfl
  have starts : Leads (fun n => n = m) (Act.startAcquire c) fun progress n =>
      ∀ id, picked? progress = some id → Reuses m c id ∨ .opened (.ofEndpoint id) ∈ n.history := by
    rintro n rfl id picked
    exact .inl (startAcquire_picks picked)
  have lasting (id : Nat) (n n' : Network) (remembers : remembers n n')
      (found : Reuses m c id ∨ .opened (.ofEndpoint id) ∈ n.history) :
      Reuses m c id ∨ .opened (.ofEndpoint id) ∈ n'.history :=
    found.imp_right fun opened => remembers.subset opened
  cases op with
  | acquire =>
      refine leads_bind acquires fun result => leads_pure _ fun _ found id chosen => found id ?_
      cases result <;> exact chosen
  | acquireAsync =>
      refine leads_bind starts fun progress => leads_pure _ fun _ found id chosen => found id ?_
      rwa [← ofAcquire_chosen]
  | invoke => exact leads_bind acquires fun result => enter_leads lasting c none (.done result)
  | invokeAsync token =>
      exact leads_bind starts fun progress => enter_leads lasting c token progress
  | invalidate id alwaysAbort | shutdown alwaysAbort | dispose =>
      exact leads_bind (leads_any _) fun _ => leads_pure _ fun _ _ id chosen => by cases chosen
  | shutdownAsync alwaysAbort =>
      refine leads_bind (leads_any _) fun progress => leads_pure _ fun _ _ id chosen => ?_
      exact absurd chosen (by simp [ofShutdown_unchosen])
  | disposeAsync =>
      refine leads_bind (leads_any _) fun progress => ?_
      exact leads_weaken (ofDispose_unchosen progress) (fun _ _ => trivial)
        fun _ _ unchosen id chosen => absurd chosen (unchosen id)

end

namespace System

def chosen? (s : System) (k : Nat) : Option Nat := s.tasks[k]?.bind (·.stage.chosen?)

/-- The `k`-th call settles on a channel at the event. -/
def Settles (s : System) (e : Event) (k id : Nat) : Prop :=
  s.chosen? k = none ∧ (s.step e).chosen? k = some id

/-- The `k`-th call has itself opened the channel between the two systems. -/
def Opened (s after : System) (k id : Nat) : Prop :=
  ∃ c deeds, after.history = deeds ++ s.history ∧ ⟨.call c k, .opened (.ofEndpoint id)⟩ ∈ deeds

/-- The call is still opening a channel of its own, while another one is in the slot and stale. -/
def LosesToStale (s : System) (k id : Nat) : Prop :=
  ∃ c stage fresh, s.tasks[k]? = some ⟨c, stage⟩ ∧ stage.opens? = some fresh ∧
    Keeps s.network c id ∧
    (s.network.channel (.ofEndpoint id)).state.isStale

end System

section

variable {s : System} {k id : Nat}

theorem perform_opened {c : Nat} {act : Act Stage} {tasks : List Task}
    (told : .opened (.ofEndpoint id) ∈ (act.run { s.network with history := [] }).2.history) :
    s.Opened { (s.perform (.call c k) act).2 with tasks } k id :=
  ⟨c, _, rfl, List.mem_map.mpr ⟨_, told, rfl⟩⟩

theorem begin_settles {c : Nat} {op : Operation} (before : s.chosen? k = none)
    (after : (s.begin c op).chosen? k = some id) :
    Reuses s.network c id ∨ s.Opened (s.begin c op) k id := by
  unfold System.begin at after ⊢
  split at after
  next admitted =>
    rw [if_pos admitted]
    have picks := start_leads (c := c) { s.network with history := [] } op _ rfl
    change (s.tasks ++ [(⟨c, (s.perform (.call c s.tasks.length) (op.start c)).1⟩ : Task)])[k]?.bind
      (·.stage.chosen?) = some id at after
    rcases Nat.lt_trichotomy k s.tasks.length with inside | last | outside
    · rw [List.getElem?_append_left inside] at after
      rw [System.chosen?, after] at before
      cases before
    · subst last
      rw [List.getElem?_concat_length] at after
      exact (picks id after).imp_right perform_opened
    · rw [List.getElem?_eq_none (by rw [List.length_append]; exact outside)] at after
      cases after
  next =>
    rw [before] at after
    cases after

theorem proceed_settles {go : Nat → Stage → Act Stage} {j : Nat}
    (prompt : ∀ {task : Task}, s.tasks[j]? = some task → task.stage.retires = false)
    (goes : ∀ c m stage, stage.retires = false → stage.chosen? = none →
      Leads (sameSlots m) (go c stage) fun after n =>
      ∀ id, after.chosen? = some id → (∃ fresh, stage.opens? = some fresh) ∧ Found m c id n)
    (before : s.chosen? k = none) (after : (s.proceed j go).chosen? k = some id) :
    s.Opened (s.proceed j go) k id ∨ ∃ c stage fresh, s.tasks[k]? = some ⟨c, stage⟩ ∧
      stage.opens? = some fresh ∧ Keeps s.network c id := by
  unfold System.proceed at after ⊢
  split
  next absent =>
    simp only [absent] at after
    rw [before] at after
    cases after
  next task found =>
    simp only [found] at after
    split
    next ended =>
      rw [if_pos ended, before] at after
      cases after
    next going =>
      rw [if_neg going] at after
      obtain ⟨c, stage⟩ := task
      have inside : j < s.tasks.length := (List.getElem?_eq_some_iff.mp found).1
      change (s.tasks.set j ⟨c, (s.perform (.call c j) (go c stage)).1⟩)[k]?.bind
        (·.stage.chosen?) = some id at after
      by_cases here : j = k
      · subst here
        rw [List.getElem?_set_self inside] at after
        rw [System.chosen?, found] at before
        obtain ⟨⟨fresh, opens⟩, kept | told⟩ :=
          goes c { s.network with history := [] } stage (prompt found) before _ rfl id after
        · exact .inr ⟨c, stage, fresh, found, opens, kept⟩
        · exact .inl (perform_opened told)
      · rw [List.getElem?_set_ne here] at after
        rw [System.chosen?, after] at before
        cases before

theorem ended_leads {c : Nat} {m : Network} {go : Stage → Act Stage}
    (ends : ∀ n stage, stage.chosen? = none → ((go stage).run n).1.chosen? = none) (stage : Stage)
    (_ : stage.retires = false) (undecided : stage.chosen? = none) :
    Leads (sameSlots m) (go stage) fun after n =>
      ∀ id, after.chosen? = some id → (∃ fresh, stage.opens? = some fresh) ∧ Found m c id n := by
  intro n _ id chosen
  rw [ends n stage undecided] at chosen
  cases chosen

theorem suspend_undecided (n : Network) (stage : Stage) (undecided : stage.chosen? = none) :
    (stage.suspend.run n).1.chosen? = none := by
  cases stage <;> exact undecided

theorem conclude_undecided (outcome : Scenario.Outcome) (n : Network) (stage : Stage)
    (undecided : stage.chosen? = none) : ((stage.conclude outcome).run n).1.chosen? = none := by
  cases stage with
  | operating i polled => cases undecided
  | acquiring | entering | shutting | disposing | ended => exact undecided

theorem abandon_undecided (n : Network) (stage : Stage) (undecided : stage.chosen? = none) :
    (stage.abandon.run n).1.chosen? = none := by
  cases stage with
  | ended ending => exact undecided
  | acquiring | entering | operating | shutting | disposing => rfl

/-- How a call comes to settle on a channel: it reuses one or opens one, or it was opening one of
its own when it found the slot taken. -/
theorem settles_cases (sound : Sound s) {e : Event} (settles : s.Settles e k id) :
    (∃ c, Reuses s.network c id) ∨ s.Opened (s.step e) k id ∨ ∃ c stage fresh,
      s.tasks[k]? = some ⟨c, stage⟩ ∧ stage.opens? = some fresh ∧ Keeps s.network c id := by
  obtain ⟨before, after⟩ := settles
  have begins {c : Nat} {op : Operation} (now : (s.begin c op).chosen? k = some id) :
      (∃ c, Reuses s.network c id) ∨ s.Opened (s.begin c op) k id :=
    (begin_settles before now).imp_left fun reuses => ⟨c, reuses⟩
  cases e with
  | newController | outside o =>
      change s.chosen? k = some id at after
      rw [before] at after
      cases after
  | begin c op => exact (begins after).imp_right .inl
  | drop c =>
      change (s.drop c).chosen? k = some id at after
      change _ ∨ s.Opened (s.drop c) k id ∨ _
      unfold System.drop at after ⊢
      split
      next admitted =>
        rw [if_pos admitted] at after
        exact (begins after).imp_right .inl
      next refused =>
        rw [if_neg refused, before] at after
        cases after
  | resume j => exact .inr (proceed_settles sound.prompt (fun c m => resume_leads m) before after)
  | suspend j =>
      exact .inr (proceed_settles sound.prompt
        (fun _ _ => ended_leads suspend_undecided) before after)
  | conclude j outcome =>
      exact .inr (proceed_settles sound.prompt
        (fun _ _ => ended_leads (conclude_undecided outcome)) before after)
  | abandon j =>
      exact .inr (proceed_settles sound.prompt
        (fun _ _ => ended_leads abandon_undecided) before after)

theorem kept_unopened (sound : Sound s) (e : Event) {c : Nat} (kept : Keeps s.network c id) :
    ¬ s.Opened (s.step e) k id := by
  rintro ⟨d, deeds, added, told⟩
  obtain ⟨actor, hand, moves, _⟩ := (step_follows sound e).moves
  obtain ⟨others, readded, onlys⟩ := moves_adds moves
  have same : deeds = others := List.append_cancel_right (added.symm.trans readded)
  subst same
  have cached : s.ledger.slot? c = some id := (slot_network s c).trans kept
  obtain ⟨rfl, held | unmade⟩ := onlys d k id told
  · have fresh : (s.hands (.call d k)).fresh? = some id := by
      rw [show s.hands (.call d k) = .opening id from held]
      rfl
    exact (sound.standing.fresh fresh).1 (sound.standing.slot_installed cached)
  · obtain ⟨_, _, made, _⟩ := sound.standing.cached cached
    exact Nat.lt_irrefl _ (Nat.lt_of_lt_of_le unmade (sound.standing.created_le made))

end

theorem settled_channel_usable_iff (address : String) (events : List Event) (e : Event) (k id : Nat)
    (settles : (run address events).Settles e k id) :
    (((run address events).network.channel (.ofEndpoint id)).state.isUsable ∨
        (run address events).Opened ((run address events).step e) k id) ↔
      ¬ (run address events).LosesToStale k id := by
  constructor
  · rintro sound ⟨c, stage, fresh, found, opens, kept, stale⟩
    rcases sound with usable | opened
    · simp [Channel.State.isUsable, stale] at usable
    · exact kept_unopened (run_sound address events) e kept opened
  · intro wins
    rcases settles_cases (run_sound address events) settles with
      ⟨c, reuses⟩ | opened | ⟨c, stage, fresh, found, opens, kept⟩
    · exact .inl reuses.2
    · exact .inr opened
    · refine .inl ?_
      by_contra stale
      exact wins ⟨c, stage, fresh, found, opens, kept,
        by simpa [Channel.State.isUsable] using stale⟩

theorem healthy_winner_settles :
    (run "mem://a" [.newController, .begin 0 .acquireAsync, .begin 0 .acquireAsync,
        .resume 0]).Settles (.resume 1) 1 1 ∧
      ¬ (run "mem://a" [.newController, .begin 0 .acquireAsync, .begin 0 .acquireAsync,
        .resume 0]).LosesToStale 1 1 := by
  have settles : (run "mem://a" [.newController, .begin 0 .acquireAsync, .begin 0 .acquireAsync,
      .resume 0]).Settles (.resume 1) 1 1 := ⟨by decide, by decide⟩
  exact ⟨settles, (settled_channel_usable_iff _ _ _ 1 1 settles).mp (.inl (by decide))⟩

/-- The winner of the race may fault before the loser is done opening. It is handed out all the
same. -/
theorem settled_channel_not_always_usable :
    ¬ ∀ (address : String) (events : List Event) (e : Event) (k id : Nat),
      (run address events).Settles e k id →
        ((run address events).network.channel (.ofEndpoint id)).state.isUsable ∨
          (run address events).Opened ((run address events).step e) k id := by
  intro always
  rcases always "mem://a" [.newController, .begin 0 .acquireAsync, .begin 0 .acquireAsync,
    .resume 0,
    .outside (.force (.ofEndpoint 1) .faulted)] (.resume 1) 1 1 ⟨by decide, by decide⟩ with
    usable | opened
  · revert usable
    decide
  · refine kept_unopened (c := 0) (run_sound _ _) (.resume 1) ?_ opened
    decide

end Interleaving

end RemoteClient
