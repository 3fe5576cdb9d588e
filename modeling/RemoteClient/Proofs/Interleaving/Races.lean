import RemoteClient.Proofs.Interleaving.Attempts
import RemoteClient.Proofs.Interleaving.Installs
import RemoteClient.Proofs.Interleaving.Tenure

/-!
Acquires that race for the slot of one controller, and nothing else: however they are interleaved,
given up or made to fail, one channel at most is ever put into the slot, and every other one ends up
closed.
-/

namespace RemoteClient.Interleaving

namespace Outside

def injects : Outside → Bool
  | .failOpen _ _ | .failClose _ _ | .delay _ _ | .failNextOpen _ | .failCloses _
  | .delayHandshakes _
  | .stamp | .elapse _ | .settleTies _ => true
  | .force _ _ | .open _ | .close _ | .abort _ | .call _ _ | .shutdown _ _ | .failCall _ _ | .create
  | .cancel _ => false

end Outside

namespace Event

/-- An acquire on the first controller begins, goes on or is dropped, or something is injected. -/
def races : Event → Bool
  | .begin c op => c == 0 && match op with | .acquireAsync => true | _ => false
  | .resume _ | .abandon _ => true
  | .outside o => o.injects
  | .newController | .drop _ | .suspend _ | .conclude _ _ => false

end Event

/-- The channel was told to fail with the error when it is opened, by itself or as the next one to
be created. -/
def Injected (events : List Event) (id : Nat) (e : Channel.Error) : Prop :=
  .outside (.failOpen (.ofEndpoint id) e) ∈ events ∨ .outside (.failNextOpen e) ∈ events

def Competes (events : List Event) (s : System) (k : Nat) : Stage → Prop
  | .acquiring (.opening id _) => s.network.Has (.ofEndpoint id) ∧
      (s.network.channel (.ofEndpoint id)).aborted = false ∧
      (s.network.channel (.ofEndpoint id)).state = .created
  | .acquiring (.discarding winner id _) => s.network.Has (.ofEndpoint id) ∧
      (s.network.channel (.ofEndpoint id)).aborted = false ∧ Keeps s.network 0 winner
  | .ended (.acquired (.ok id)) => Keeps s.network 0 id
  | .ended (.acquired (.error e)) => ∃ id, ⟨.call 0 k, .created id⟩ ∈ s.history ∧
      ⟨.call 0 k, .openFailed (.ofEndpoint id) e⟩ ∈ s.history ∧ Injected events id e
  | .ended .abandoned => True
  | _ => False

structure Racing (events : List Event) (s : System) : Prop where
  generation : (s.network.controller 0).generation =
    if (s.network.controller 0).slot.isSome then 1 else 0
  opened : ∀ {id : Nat}, Keeps s.network 0 id → (s.network.channel (.ofEndpoint id)).state = .opened
  tasks : ∀ {k : Nat} {task : Task}, s.tasks[k]? = some task →
    task.controller = 0 ∧ Competes events s k task.stage
  settled : ∀ {id : Nat}, s.network.Has (.ofEndpoint id) → Keeps s.network 0 id ∨
    (s.network.channel (.ofEndpoint id)).state = .closed ∨
      ∃ (k : Nat) (a : Acquiring), s.tasks[k]? = some ⟨0, .acquiring a⟩ ∧ a.channel = id
  pending : ∀ {e : Channel.Error}, s.network.endpoint.pending.openError = some e →
    .outside (.failNextOpen e) ∈ events
  injected : ∀ {id : Nat} {e : Channel.Error},
    (s.network.channel (.ofEndpoint id)).faults.openError = some e → Injected events id e

/-- One of the racing calls has had its turn. Only its own channel has changed, which nobody else
holds. -/
structure Turn (events : List Event) (s after : System) (k id : Nat) (stage : Stage) : Prop where
  task : after.tasks[k]? = some ⟨0, stage⟩
  rests : ∀ {j : Nat}, j ≠ k → after.tasks[j]? = s.tasks[j]?
  records : ∀ {r : Record}, r ∈ s.history → r ∈ after.history
  others : ∀ {ref : ChannelRef}, ref ≠ .ofEndpoint id →
    after.network.channel ref = s.network.channel ref
  has : ∀ {ref : ChannelRef}, ref ≠ .ofEndpoint id → (after.network.Has ref ↔ s.network.Has ref)
  keeps : ∀ {winner : Nat}, Keeps s.network 0 winner → Keeps after.network 0 winner
  errors : ∀ {e : Channel.Error},
    (after.network.channel (.ofEndpoint id)).faults.openError = some e → Injected events id e
  pending : ∀ {e : Channel.Error}, after.network.endpoint.pending.openError = some e →
    s.network.endpoint.pending.openError = some e
  uncached : ¬ Keeps s.network 0 id
  own : ∀ {j : Nat} {a : Acquiring}, s.tasks[j]? = some ⟨0, .acquiring a⟩ → (a.channel = id ↔ j = k)

section

variable {events : List Event} {s after : System} {k id : Nat} {stage : Stage}

theorem Competes.kept {more : List Event} (competes : Competes events s k stage)
    (channel : ∀ a, stage = .acquiring a →
      (after.network.Has (.ofEndpoint a.channel) ↔ s.network.Has (.ofEndpoint a.channel)) ∧
      (after.network.channel (.ofEndpoint a.channel)).aborted =
        (s.network.channel (.ofEndpoint a.channel)).aborted ∧
      (after.network.channel (.ofEndpoint a.channel)).state =
        (s.network.channel (.ofEndpoint a.channel)).state)
    (keeps : ∀ {winner : Nat}, Keeps s.network 0 winner → Keeps after.network 0 winner)
    (records : ∀ {r : Record}, r ∈ s.history → r ∈ after.history)
    (injected : ∀ {id : Nat} {e : Channel.Error}, Injected events id e → Injected more id e) :
    Competes more after k stage := by
  match stage, competes with
  | .acquiring (.opening _ _), ⟨has, fine, fresh⟩ =>
      obtain ⟨still, aborted, state⟩ := channel _ rfl
      exact ⟨still.mpr has, aborted.trans fine, state.trans fresh⟩
  | .acquiring (.discarding _ _ _), ⟨has, fine, kept⟩ =>
      obtain ⟨still, aborted, _⟩ := channel _ rfl
      exact ⟨still.mpr has, aborted.trans fine, keeps kept⟩
  | .ended (.acquired (.ok _)), kept => exact keeps kept
  | .ended (.acquired (.error _)), ⟨mine, created, failed, met⟩ =>
      exact ⟨mine, records created, records failed, injected met⟩
  | .ended .abandoned, _ => trivial

theorem Competes.has {a : Acquiring} (competes : Competes events s k (.acquiring a)) :
    s.network.Has (.ofEndpoint a.channel) := by
  cases a with
  | retiring => exact competes.elim
  | opening | discarding => exact competes.1

theorem Turn.apart (turn : Turn events s after k id stage) {j : Nat} {a : Acquiring}
    (other : j ≠ k) (found : s.tasks[j]? = some ⟨0, .acquiring a⟩) :
    ChannelRef.ofEndpoint a.channel ≠ .ofEndpoint id := by
  intro same
  exact other ((turn.own found).mp (ChannelRef.ofEndpoint.inj same))

theorem Turn.competes (turn : Turn events s after k id stage) {j : Nat} {waiting : Stage}
    (other : j ≠ k) (found : s.tasks[j]? = some ⟨0, waiting⟩)
    (competes : Competes events s j waiting) :
    Competes events after j waiting := by
  refine competes.kept (fun a acquires => ?_) turn.keeps turn.records fun met => met
  subst acquires
  have apart := turn.apart other found
  rw [turn.others apart]
  exact ⟨turn.has apart, rfl, rfl⟩

theorem Turn.racing (turn : Turn events s after k id stage) (racing : Racing events s)
    (competes : Competes events after k stage)
    (generation : (after.network.controller 0).generation =
      if (after.network.controller 0).slot.isSome then 1 else 0)
    (kept : ∀ {other : Nat}, Keeps after.network 0 other → Keeps s.network 0 other ∨
      other = id ∧ (after.network.channel (.ofEndpoint id)).state = .opened)
    (settled : after.network.Has (.ofEndpoint id) → Keeps after.network 0 id ∨
      (after.network.channel (.ofEndpoint id)).state = .closed ∨
        ∃ a, stage = .acquiring a ∧ a.channel = id) : Racing events after where
  generation := generation
  opened {other} now := by
    rcases kept now with before | ⟨rfl, opened⟩
    · have apart : ChannelRef.ofEndpoint other ≠ .ofEndpoint id := by
        rintro ⟨⟩
        exact turn.uncached before
      rw [turn.others apart]
      exact racing.opened before
    · exact opened
  tasks {j task} found := by
    by_cases mine : j = k
    · subst mine
      cases turn.task.symm.trans found
      exact ⟨rfl, competes⟩
    · rw [turn.rests mine] at found
      obtain ⟨c, waiting⟩ := task
      obtain ⟨rfl, before⟩ := racing.tasks found
      exact ⟨rfl, turn.competes mine found before⟩
  settled {other} has := by
    by_cases mine : other = id
    · subst mine
      rcases settled has with now | closed | ⟨a, rfl, holds⟩
      · exact .inl now
      · exact .inr (.inl closed)
      · exact .inr (.inr ⟨k, a, turn.task, holds⟩)
    · have apart : ChannelRef.ofEndpoint other ≠ .ofEndpoint id := fun same =>
        mine (ChannelRef.ofEndpoint.inj same)
      rcases racing.settled ((turn.has apart).mp has) with before | closed | ⟨j, a, found, holds⟩
      · exact .inl (turn.keeps before)
      · exact .inr (.inl ((turn.others apart).symm ▸ closed))
      · have other : j ≠ k := by
          intro same
          exact mine (holds.symm.trans ((turn.own found).mpr same))
        exact .inr (.inr ⟨j, a, (turn.rests other).trans found, holds⟩)
  pending held := racing.pending (turn.pending held)
  injected {other e} held := by
    by_cases mine : other = id
    · subst mine
      exact turn.errors held
    · have apart : ChannelRef.ofEndpoint other ≠ .ofEndpoint id := fun same =>
        mine (ChannelRef.ofEndpoint.inj same)
      rw [turn.others apart] at held
      exact racing.injected held

theorem acquiring_own (a : Acquiring) : a.hand.own? = some a.channel := by cases a <;> rfl

theorem proceed_records (go : Nat → Stage → Act Stage) {r : Record} (told : r ∈ s.history) :
    r ∈ (s.proceed k go).history := by
  unfold System.proceed
  split
  · exact told
  · split
    · exact told
    · exact List.mem_append_right _ told

section

variable {go : Nat → Stage → Act Stage} {a : Acquiring} {l m : Network}

/-- A call that goes on has the channel it is busy with for itself. -/
theorem held_turn (sound : Sound s) (racing : Racing events s)
    (found : s.tasks[k]? = some ⟨0, .acquiring a⟩)
    (ran : (go 0 (.acquiring a)).run s.blank = (stage, m)) (amends : Amends a.channel s.blank l)
    (endpoint : m.endpoint = l.endpoint) (standalone : m.standalone = l.standalone)
    (keeps : ∀ {winner : Nat}, Keeps s.network 0 winner → Keeps m 0 winner) :
    Turn events s (s.proceed k go) k a.channel stage := by
  have own : (s.hands (.call 0 k)).own? = some a.channel := by
    rw [hands_call found rfl]
    exact acquiring_own a
  have advances := proceed_advances found rfl ran
  have amends : Amends a.channel s.network l :=
    (Amends.told _ s.network s.network.waits _ []).trans amends
  have channels (ref : ChannelRef) : (s.proceed k go).network.channel ref = l.channel ref := by
    rw [advances.network]
    cases ref <;> simp [Network.channel, endpoint, standalone]
  constructor
  case task => exact advances.task
  case rests => exact fun other => (proceed_rests go (Ne.symm other)).task
  case records => exact proceed_records go
  case others =>
    intro ref apart
    rw [channels]
    exact amends.others apart
  case has =>
    intro ref _
    rw [← amends.has ref, advances.network]
    cases ref with
    | ofEndpoint id => rw [Network.Has, Network.Has, endpoint]
    | standalone id => exact Iff.rfl
  case keeps =>
    intro winner kept
    rw [advances.network]
    exact keeps kept
  case errors =>
    intro e held
    rw [channels] at held
    exact racing.injected (amends.errors held)
  case pending =>
    intro e held
    rwa [advances.network, endpoint, amends.pending] at held
  case uncached => exact fun kept =>
    sound.standing.owned_uncached own ((slot_network s 0).trans kept)
  case own =>
    intro j b there
    constructor
    · intro same
      have owned : (s.hands (.call 0 j)).own? = some a.channel := by
        rw [hands_call there rfl, ← same]
        exact acquiring_own b
      cases sound.standing.sole owned own
      rfl
    · rintro rfl
      cases found.symm.trans there
      rfl

/-- A call goes on without a change to the slot: its channel is closed now, or it still has it. -/
theorem quiet_racing (sound : Sound s) (racing : Racing events s)
    (found : s.tasks[k]? = some ⟨0, .acquiring a⟩)
    (ran : (go 0 (.acquiring a)).run s.blank = (stage, m)) (amends : Amends a.channel s.blank m)
    (competes : Competes events (s.proceed k go) k stage)
    (settled : (m.channel (.ofEndpoint a.channel)).state = .closed ∨
      ∃ b, stage = .acquiring b ∧ b.channel = a.channel) :
    Racing events (s.proceed k go) := by
  have slots : m.controller 0 = s.network.controller 0 := by
    rw [Network.controller, amends.slots]
    rfl
  have turn := held_turn sound racing found ran amends rfl rfl fun kept => by rwa [Keeps, slots]
  have network := (proceed_advances found rfl ran).network
  apply turn.racing racing competes
  case generation =>
    rw [network, slots]
    exact racing.generation
  case kept =>
    intro other kept
    rw [network, Keeps, slots] at kept
    exact .inl kept
  case settled =>
    intro _
    rw [network]
    exact .inr settled

theorem winning_racing {id : Nat} {h : Handshake} (sound : Sound s) (racing : Racing events s)
    (found : s.tasks[k]? = some ⟨0, .acquiring (.opening id h)⟩)
    (ran : (go 0 (.acquiring (.opening id h))).run s.blank = (.ended (.acquired (.ok id)), m))
    (vacant : Vacant 0 s.blank) (amends : Amends id s.blank l)
    (opened : (l.channel (.ofEndpoint id)).state = .opened) (endpoint : m.endpoint = l.endpoint)
    (standalone : m.standalone = l.standalone)
    (slots : m.controllers = s.blank.controllers.set 0
      ⟨some ⟨id, (s.blank.controller 0).generation + 1⟩, (s.blank.controller 0).generation + 1⟩) :
    Racing events (s.proceed k go) := by
  have empty : (s.network.controller 0).slot = none := vacant
  have first : (s.network.controller 0).generation = 0 := by simpa [empty] using racing.generation
  have known : 0 < s.network.controllers.length := (sound.placed found).1
  have filled : m.controller 0 = ⟨some ⟨id, 1⟩, 1⟩ := by
    have generation : (s.blank.controller 0).generation = 0 := first
    rw [generation] at slots
    simp [Network.controller, slots, System.blank, known]
  have turn := held_turn sound racing found ran amends endpoint standalone fun kept => by
    simp [Keeps, empty] at kept
  have network := (proceed_advances found rfl ran).network
  have now : (m.channel (.ofEndpoint id)).state = .opened := by
    rw [← opened]
    simp [Network.channel, endpoint]
  have kept : Keeps m 0 id := by simp [Keeps, filled]
  apply turn.racing racing
  case competes => rwa [Competes, network]
  case generation => simp [network, filled]
  case kept =>
    intro other there
    have same : id = other := by simpa [network, Keeps, filled] using there
    rw [network]
    exact .inr ⟨same.symm, now⟩
  case settled =>
    intro _
    rw [network]
    exact .inl kept

end

theorem proceed_racing (racing : Racing events s) (k : Nat) (go : Nat → Stage → Act Stage)
    (goes : ∀ a, s.tasks[k]? = some ⟨0, .acquiring a⟩ → Competes events s k (.acquiring a) →
      Racing events (s.proceed k go)) : Racing events (s.proceed k go) := by
  cases found : s.tasks[k]? with
  | none => simpa [System.proceed, found] using racing
  | some task =>
      obtain ⟨c, waiting⟩ := task
      obtain ⟨rfl, competes⟩ := racing.tasks found
      cases waiting with
      | entering | operating | shutting | disposing => cases competes
      | ended ending =>
          rw [proceed_over found rfl]
          exact racing
      | acquiring a => exact goes a found competes

theorem fresh_created {go : Nat → Stage → Act Stage} {h : Handshake} (sound : Sound s)
    (found : s.tasks[k]? = some ⟨0, .acquiring (.opening id h)⟩) :
    ⟨.call 0 k, .created id⟩ ∈ (s.proceed k go).history := by
  have held : (s.hands (.call 0 k)).fresh? = some id := by
    rw [hands_call found rfl]
    rfl
  obtain ⟨_, _, _, _, created, _⟩ := sound.standing.fresh held
  exact proceed_records _ created

theorem resume_opening_racing {h : Handshake} (sound : Sound s) (racing : Racing events s)
    (found : s.tasks[k]? = some ⟨0, .acquiring (.opening id h)⟩)
    (competes : Competes events s k (.acquiring (.opening id h))) :
    Racing events (s.proceed k Stage.resume) := by
  obtain ⟨has, fine, fresh⟩ := competes
  obtain ⟨progress, m, ran, opens⟩ := resume_opening (n := s.blank) has fresh fine 0 h
  have goes : (Stage.resume 0 (.acquiring (.opening id h))).run s.blank =
      (.ofAcquire progress, m) := by
    rw [Stage.resume, Act.run_bind, ran]
    rfl
  have network := (proceed_advances found rfl goes).network
  cases opens with
  | waits amends same =>
      apply quiet_racing sound racing found goes amends _ (.inr ⟨_, rfl, rfl⟩)
      have still : m.channel (.ofEndpoint id) = s.network.channel (.ofEndpoint id) := same
      rw [Stage.ofAcquire, Competes, network, still]
      exact ⟨(amends.has _).mpr has, fine, fresh⟩
  | fails amends met closed told =>
      apply quiet_racing sound racing found goes amends _ (.inl closed)
      have failed := (proceed_advances found rfl goes).done ▸ List.mem_append_left _ told
      exact ⟨id, fresh_created sound found, mem_doneBy.mp failed, racing.injected met⟩
  | wins vacant amends opened endpoint standalone slots =>
      exact winning_racing sound racing found goes vacant amends opened endpoint standalone slots
  | loses kept amends opened still =>
      apply quiet_racing sound racing found goes amends _ (.inr ⟨_, rfl, rfl⟩)
      rw [Stage.ofAcquire, Competes, network, Keeps, Network.controller, amends.slots]
      exact ⟨(amends.has _).mpr has, still, kept⟩

theorem resume_discarding_racing {winner : Nat} {h : Handshake} (sound : Sound s)
    (racing : Racing events s)
    (found : s.tasks[k]? = some ⟨0, .acquiring (.discarding winner id h)⟩)
    (competes : Competes events s k (.acquiring (.discarding winner id h))) :
    Racing events (s.proceed k Stage.resume) := by
  obtain ⟨has, fine, kept⟩ := competes
  obtain ⟨progress, m, ran, closes⟩ := resume_discarding (n := s.blank) has fine 0 winner h
  have goes : (Stage.resume 0 (.acquiring (.discarding winner id h))).run s.blank =
      (.ofAcquire progress, m) := by
    rw [Stage.resume, Act.run_bind, ran]
    rfl
  have network := (proceed_advances found rfl goes).network
  cases closes with
  | waits amends same =>
      apply quiet_racing sound racing found goes amends _ (.inr ⟨_, rfl, rfl⟩)
      have still : m.channel (.ofEndpoint id) = s.network.channel (.ofEndpoint id) := same
      rw [Stage.ofAcquire, Competes, network, still, Keeps, Network.controller, amends.slots]
      exact ⟨(amends.has _).mpr has, fine, kept⟩
  | settles amends closed =>
      apply quiet_racing sound racing found goes amends _ (.inl closed)
      rw [Stage.ofAcquire, Competes, network, Keeps, Network.controller, amends.slots]
      exact kept

theorem resume_racing (sound : Sound s) (racing : Racing events s) (k : Nat) :
    Racing events (s.step (.resume k)) := by
  refine proceed_racing racing k Stage.resume fun a found competes => ?_
  cases a with
  | retiring => exact competes.elim
  | opening => exact resume_opening_racing sound racing found competes
  | discarding => exact resume_discarding_racing sound racing found competes

theorem abandon_racing (sound : Sound s) (racing : Racing events s) (k : Nat) :
    Racing events (s.step (.abandon k)) := by
  refine proceed_racing racing k (fun _ => Stage.abandon) fun a found competes => ?_
  obtain ⟨m, ran, amends, closed, _⟩ := abandon_closes (n := s.blank) competes.has
  have goes : (Stage.abandon (.acquiring a)).run s.blank = (.ended .abandoned, m) := by
    rw [Stage.abandon, Act.run_bind, Act.abandonAcquire, ran]
    rfl
  exact quiet_racing sound racing found goes amends trivial (.inl closed)

theorem fresh_turn {m : Network} (sound : Sound s) (numbered : s.network.endpoint.Numbered)
    (racing : Racing events s) (present : s.hasController 0)
    (ran : (Operation.start 0 .acquireAsync).run s.blank = (stage, m))
    (others : ∀ {ref : ChannelRef}, ref ≠ .ofEndpoint (s.network.endpoint.channels.length + 1) →
      m.channel ref = s.network.channel ref ∧ (m.Has ref ↔ s.network.Has ref))
    (slots : m.controllers = s.network.controllers)
    (errors : ∀ {e : Channel.Error},
      (m.channel (.ofEndpoint (s.network.endpoint.channels.length + 1))).faults.openError = some e →
        Injected events (s.network.endpoint.channels.length + 1) e)
    (pending : ∀ {e : Channel.Error}, m.endpoint.pending.openError = some e →
      s.network.endpoint.pending.openError = some e) :
    Turn events s (s.begin 0 .acquireAsync) s.tasks.length
      (s.network.endpoint.channels.length + 1) stage := by
  have begun := begin_eq present rfl ran
  have network : (s.begin 0 .acquireAsync).network = m := by rw [begun]
  constructor
  case task => simp [begun]
  case rests =>
    intro j other
    rw [begun, getElem?_concat_other _ _ other]
  case records =>
    intro r told
    rw [begun]
    exact List.mem_append_right _ told
  case others => exact fun apart => network ▸ (others apart).1
  case has => exact fun apart => network ▸ (others apart).2
  case keeps =>
    intro winner kept
    rwa [network, Keeps, Network.controller, slots]
  case errors => exact network ▸ errors
  case pending => exact network ▸ pending
  case uncached =>
    intro kept
    obtain ⟨_, _, created, _⟩ := sound.standing.cached ((slot_network s 0).trans kept)
    have made := sound.standing.created_le created
    simp only [System.ledger] at made
    omega
  case own =>
    intro j a found
    have inside : j < s.tasks.length := (List.getElem?_eq_some_iff.mp found).1
    have known : a.channel ≤ s.network.endpoint.channels.length :=
      ((Endpoint.numbered_isSome numbered).mp (racing.tasks found).2.has).2
    omega

theorem begin_reusing_racing (sound : Sound s) (numbered : s.network.endpoint.Numbered)
    (racing : Racing events s) (present : s.hasController 0) (kept : Keeps s.network 0 id) :
    Racing events (s.begin 0 .acquireAsync) := by
  have reuses : Reuses s.blank 0 id := by
    refine ⟨kept, ?_⟩
    have opened := racing.opened kept
    change (s.network.channel (.ofEndpoint id)).state.isUsable
    rw [opened]
    rfl
  have ran :
      (Operation.start 0 .acquireAsync).run s.blank = (.ended (.acquired (.ok id)), s.blank) := by
    rw [Operation.start, Act.run_bind, run_startAcquire_reuse reuses]
    rfl
  have same (ref : ChannelRef) : s.blank.channel ref = s.network.channel ref := by cases ref <;> rfl
  have turn := fresh_turn sound numbered racing present ran
    (fun {ref} _ => ⟨same ref, by cases ref <;> exact Iff.rfl⟩) rfl
    (fun held => racing.injected held) fun held => held
  have network : (s.begin 0 .acquireAsync).network = s.blank := by rw [begin_eq present rfl ran]
  apply turn.racing racing
  case competes =>
    rw [Competes, network]
    exact kept
  case generation =>
    rw [network]
    exact racing.generation
  case kept =>
    intro other there
    rw [network] at there
    exact .inl there
  case settled =>
    intro has
    rw [network] at has
    have known := ((Endpoint.numbered_isSome numbered).mp has).2
    omega

theorem begin_creating_racing (sound : Sound s) (numbered : s.network.endpoint.Numbered)
    (racing : Racing events s) (present : s.hasController 0) (vacant : Vacant 0 s.network) :
    Racing events (s.begin 0 .acquireAsync) := by
  have ran : (Operation.start 0 .acquireAsync).run s.blank =
      (.acquiring (.opening (s.network.endpoint.channels.length + 1) .turn),
        { s.blank.created with history :=
          [.created (s.network.endpoint.channels.length + 1)] }) := by
    rw [Operation.start, Act.run_bind, run_startAcquire_vacant (n := s.blank) vacant]
    rfl
  have network := congrArg System.network (begin_eq present rfl ran)
  have made : s.blank.created.channel (.ofEndpoint (s.network.endpoint.channels.length + 1)) =
      .fresh (s.network.endpoint.channels.length + 1) s.network.endpoint.address
        s.network.endpoint.pending :=
    Network.channel_created numbered
  have turn := fresh_turn sound numbered racing present ran
    (fun {ref} apart => by
      have same : s.blank.created.channel ref = s.blank.channel ref :=
        Network.channel_created_other apart
      have has : s.blank.created.Has ref ↔ s.blank.Has ref := Network.has_created_other apart
      exact ⟨by cases ref <;> exact same, by cases ref <;> exact has⟩)
    rfl
    (fun {e} held => by
      have pending : s.network.endpoint.pending.openError = some e := by
        have met := congrArg (·.faults.openError) made
        exact met.symm.trans held
      exact .inr (racing.pending pending))
    fun held => by cases held
  apply turn.racing racing
  case competes =>
    rw [Competes, network]
    refine ⟨?_, congrArg Channel.aborted made, congrArg Channel.state made⟩
    change (s.network.endpoint.create.2.find? _).isSome
    rw [Endpoint.find_create numbered]
    rfl
  case generation =>
    rw [network]
    exact racing.generation
  case kept =>
    intro other there
    rw [network] at there
    exact .inl there
  case settled => exact fun _ => .inr (.inr ⟨_, rfl, rfl⟩)

theorem begin_racing (sound : Sound s) (numbered : s.network.endpoint.Numbered)
    (racing : Racing events s) :
    Racing events (s.begin 0 .acquireAsync) := by
  by_cases present : s.hasController 0
  · cases slot : (s.network.controller 0).slot with
    | some held =>
        have kept : Keeps s.network 0 held.channel := by simp [Keeps, slot]
        exact begin_reusing_racing sound numbered racing present kept
    | none => exact begin_creating_racing sound numbered racing present slot
  · simpa [System.begin, present] using racing

end

structure Injects (o : Outside) (n m : Network) : Prop where
  states : ∀ ref, (m.channel ref).state = (n.channel ref).state ∧
    (m.channel ref).aborted = (n.channel ref).aborted
  has : ∀ ref, m.Has ref ↔ n.Has ref
  slots : m.controllers = n.controllers
  errors : ∀ {id : Nat} {e : Channel.Error},
    (m.channel (.ofEndpoint id)).faults.openError = some e →
    (n.channel (.ofEndpoint id)).faults.openError = some e ∨ o = .failOpen (.ofEndpoint id) e
  pending : ∀ {e : Channel.Error}, m.endpoint.pending.openError = some e →
    n.endpoint.pending.openError = some e ∨ o = .failNextOpen e

theorem modify_injects {o : Outside} {n : Network} {ref : ChannelRef} {ch : Channel}
    (named : ch.id = ref.id)
    (states : ch.state = (n.channel ref).state ∧ ch.aborted = (n.channel ref).aborted)
    (errors : ∀ {id : Nat} {e : Channel.Error}, ref = .ofEndpoint id →
      ch.faults.openError = some e →
      (n.channel ref).faults.openError = some e ∨ o = .failOpen (.ofEndpoint id) e) :
    Injects o n (n.putChannel ref ch) where
  states other := by
    rcases Network.channel_putChannel_cases (n := n) named other with same | ⟨rfl, now⟩
    · simp [same]
    · rwa [now]
  has := n.has_putChannel ref ch
  slots := by cases ref <;> rfl
  errors {id e} held := by
    rcases Network.channel_putChannel_cases (n := n) named (.ofEndpoint id) with same | ⟨rfl, now⟩
    · rw [same] at held
      exact .inl held
    · rw [now] at held
      exact errors rfl held
  pending held := by cases ref <;> exact .inl held

theorem injects_quietly {o : Outside} (injects : o.injects) (n : Network) :
    Injects o n (o.act.run n).2 := by
  have still (m : Network) (endpoint : m.endpoint.channels = n.endpoint.channels)
      (address : m.endpoint.address = n.endpoint.address) (standalone : m.standalone = n.standalone)
      (slots : m.controllers = n.controllers)
      (pending : ∀ {e : Channel.Error}, m.endpoint.pending.openError = some e →
        n.endpoint.pending.openError = some e ∨ o = .failNextOpen e) : Injects o n m := by
    have same (ref : ChannelRef) : m.channel ref = n.channel ref := by
      cases ref <;> simp [Network.channel, Endpoint.find?, endpoint, address, standalone]
    constructor
    case states => simp [same]
    case has => intro ref; cases ref <;> simp [Network.Has, Endpoint.find?, endpoint]
    case slots => exact slots
    case errors =>
      intro id e held
      rw [same] at held
      exact .inl held
    case pending => exact pending
  cases o with
  | failOpen ref e =>
      refine modify_injects (n.channel_id ref) ⟨rfl, rfl⟩ fun {id other} here held => .inr ?_
      cases held
      rw [here]
  | failClose ref e | delay ref latency =>
      exact modify_injects (n.channel_id ref) ⟨rfl, rfl⟩ fun _ held => .inl held
  | failNextOpen e =>
      refine still _ rfl rfl rfl rfl fun held => .inr ?_
      cases held
      rfl
  | failCloses | delayHandshakes | stamp | elapse | settleTies =>
      exact still _ rfl rfl rfl rfl fun held => .inl held
  | force | «open» | close | abort | call | shutdown | failCall | create | cancel => cases injects

section

variable {events : List Event} {s : System}

theorem Injected.more {id : Nat} {e : Channel.Error} (injected : Injected events id e)
    (next : Event) :
    Injected (events ++ [next]) id e := by
  rcases injected with own | next
  · exact .inl (List.mem_append_left _ own)
  · exact .inr (List.mem_append_left _ next)

theorem Competes.more {k : Nat} {stage : Stage} (competes : Competes events s k stage)
    (next : Event) :
    Competes (events ++ [next]) s k stage :=
  competes.kept (fun _ _ => ⟨Iff.rfl, rfl, rfl⟩) (fun kept => kept) (fun told => told) fun met =>
    met.more next

theorem Racing.more (racing : Racing events s) (next : Event) : Racing (events ++ [next]) s where
  generation := racing.generation
  opened := racing.opened
  tasks found := (racing.tasks found).imp_right fun competes => competes.more next
  settled := racing.settled
  pending held := List.mem_append_left _ (racing.pending held)
  injected held := (racing.injected held).more next

theorem inject_racing (racing : Racing events s) {o : Outside} (injects : o.injects) :
    Racing (events ++ [.outside o]) (s.step (.outside o)) := by
  obtain ⟨after, step⟩ : ∃ after, s.step (.outside o) = after := ⟨_, rfl⟩
  have quiet : Injects o s.blank after.network := step ▸ injects_quietly injects s.blank
  have tasks : after.tasks = s.tasks := step ▸ rfl
  have records {r : Record} (told : r ∈ s.history) : r ∈ after.history :=
    step ▸ List.mem_append_right _ told
  have slot : after.network.controller 0 = s.network.controller 0 := by
    rw [Network.controller, quiet.slots]
    rfl
  have keeps (id : Nat) : Keeps after.network 0 id ↔ Keeps s.network 0 id := by
    rw [Keeps, slot, Keeps]
  have state (id : Nat) : (after.network.channel (.ofEndpoint id)).state =
      (s.network.channel (.ofEndpoint id)).state := (quiet.states (.ofEndpoint id)).1
  have aborted (id : Nat) : (after.network.channel (.ofEndpoint id)).aborted =
      (s.network.channel (.ofEndpoint id)).aborted := (quiet.states (.ofEndpoint id)).2
  have has (id : Nat) : after.network.Has (.ofEndpoint id) ↔ s.network.Has (.ofEndpoint id) :=
    quiet.has _
  rw [step]
  constructor
  case generation =>
    rw [slot]
    exact racing.generation
  case opened =>
    intro id kept
    rw [state]
    exact racing.opened ((keeps id).mp kept)
  case tasks =>
    intro k task found
    rw [tasks] at found
    obtain ⟨first, competes⟩ := racing.tasks found
    refine ⟨first, competes.kept (fun a _ => ?_) (keeps _).mpr records fun met => met.more _⟩
    exact ⟨has a.channel, aborted a.channel, state a.channel⟩
  case settled =>
    intro id made
    rw [keeps, state, tasks]
    exact racing.settled ((has id).mp made)
  case pending =>
    intro e held
    rcases quiet.pending held with before | rfl
    · exact List.mem_append_left _ (racing.pending before)
    · simp
  case injected =>
    intro id e held
    rcases quiet.errors held with before | rfl
    · exact (racing.injected before).more _
    · exact .inl (by simp)

theorem step_racing (sound : Sound s) (numbered : s.network.endpoint.Numbered)
    (racing : Racing events s) {e : Event} (races : e.races) :
    Racing (events ++ [e]) (s.step e) := by
  cases e with
  | begin c op =>
      simp only [Event.races, Bool.and_eq_true, beq_iff_eq] at races
      obtain ⟨rfl, plain⟩ := races
      cases op with
      | acquireAsync => exact (begin_racing sound numbered racing).more _
      | _ => cases plain
  | resume k => exact (resume_racing sound racing k).more _
  | abandon k => exact (abandon_racing sound racing k).more _
  | outside o => exact inject_racing racing races
  | newController | drop | suspend | conclude => cases races

theorem run_racing (address : String) (events : List Event) (races : ∀ e ∈ events, e.races) :
    Racing events (run address (.newController :: events)) := by
  induction events using List.reverseRecOn with
  | nil =>
      constructor
      case generation => rfl
      case opened => intro id kept; cases kept
      case tasks => intro k task found; cases found
      case settled => intro id has; cases has
      case pending => intro e held; cases held
      case injected => intro id e held; cases held
  | append_singleton events e ih =>
      have before := ih fun other member => races other (List.mem_append_left _ member)
      rw [← List.cons_append, run_snoc]
      exact step_racing (run_sound ..) (run_numbered ..) before (races e (by simp))

/-- What is in the slot is all that was ever put into it. -/
theorem racing_installed (sound : Sound s) (racing : Racing events s) :
    s.installed 0 = ((s.network.controller 0).slot.map (·.channel)).toList := by
  have counted : (s.installed 0).length = (s.network.controller 0).generation := by
    rw [installed_length, ← generation_network]
    exact (sound.standing.counted 0).symm
  rw [racing.generation] at counted
  cases slot : (s.network.controller 0).slot with
  | none =>
      have empty : (s.installed 0).length = 0 := by simpa [slot] using counted
      simpa using empty
  | some held =>
      have one : (s.installed 0).length = 1 := by simpa [slot] using counted
      have kept : s.ledger.slot? 0 = some held.channel := by simp [slot_network, slot]
      obtain ⟨_, k, _, _, installed⟩ := sound.standing.cached kept
      have member : held.channel ∈ s.installed 0 := by
        have pair := mem_installs.mpr ⟨_, installed⟩
        simp only [System.installed, List.mem_map, List.mem_filter, beq_iff_eq]
        exact ⟨_, ⟨pair, rfl⟩, rfl⟩
      obtain ⟨only, same⟩ := List.length_eq_one_iff.mp one
      rw [same] at member ⊢
      simpa using (List.mem_singleton.mp member).symm

end

/-- The system with one controller, which is empty at first, after the events. -/
def raced (address : String) (events : List Event) : System :=
  run address (.newController :: events)

theorem racing_acquires_converge (address : String) (events : List Event)
    (races : ∀ e ∈ events, e.races) :
    ((raced address events).network.controller 0).generation ≤ 1 ∧
      ((raced address events).installed 0).length ≤ 1 ∧
      (∀ k id : Nat, (raced address events).tasks[k]? = some ⟨0, .ended (.acquired (.ok id))⟩ →
        (raced address events).installed 0 = [id]) ∧
      (∀ (k : Nat) e, (raced address events).tasks[k]? = some ⟨0, .ended (.acquired (.error e))⟩ →
        ∃ id, ⟨.call 0 k, .created id⟩ ∈ (raced address events).history ∧
          ⟨.call 0 k, .openFailed (.ofEndpoint id) e⟩ ∈ (raced address events).history ∧
          Injected events id e) ∧
      ((raced address events).isIdle 0 →
        ∀ actor id, ⟨actor, .created id⟩ ∈ (raced address events).history →
          if id ∈ (raced address events).installed 0 then
            Keeps (raced address events).network 0 id ∧
              ((raced address events).network.channel (.ofEndpoint id)).state = .opened
          else ((raced address events).network.channel (.ofEndpoint id)).state = .closed) := by
  have sound : Sound (raced address events) := run_sound ..
  have racing : Racing events (raced address events) := run_racing address events races
  have installed := racing_installed sound racing
  have member {id : Nat} : id ∈ (raced address events).installed 0 ↔
      Keeps (raced address events).network 0 id := by
    rw [installed, Option.mem_toList]
    rfl
  refine ⟨?generation, ?once, ?wins, fun k e ended => (racing.tasks ended).2, ?idle⟩
  case generation =>
    rw [racing.generation]
    split <;> simp
  case once =>
    rw [installed]
    exact Option.length_toList_le
  case wins =>
    intro k id ended
    have kept : Keeps (raced address events).network 0 id := (racing.tasks ended).2
    rw [installed, show _ = some id from kept]
    rfl
  case idle =>
    intro idle actor id created
    split
    next here => exact ⟨member.mp here, racing.opened (member.mp here)⟩
    next absent =>
      rcases racing.settled (run_has _ _ created) with kept | closed | ⟨k, a, found, _⟩
      · exact absurd (member.mpr kept) absent
      · exact closed
      · cases idle_iff.mp idle found rfl

/-- Three acquires: the first one's open fails, the second one's channel gets into the slot, and the
third one loses and cannot close its channel. -/
def threeRacers : List Event :=
  [.outside (.failNextOpen .aborted), .begin 0 .acquireAsync, .begin 0 .acquireAsync,
    .begin 0 .acquireAsync, .outside (.failClose (.ofEndpoint 3) .faulted),
    .resume 1, .resume 2, .resume 0, .resume 2]

theorem three_racers_converge : (∀ e ∈ threeRacers, e.races) ∧
    (raced "mem://a" threeRacers).installed 0 = [2] := by
  have races : ∀ e ∈ threeRacers, e.races := by simp [threeRacers, Event.races, Outside.injects]
  exact ⟨races, (racing_acquires_converge "mem://a" threeRacers races).2.2.1 2 2 rfl⟩

end RemoteClient.Interleaving
