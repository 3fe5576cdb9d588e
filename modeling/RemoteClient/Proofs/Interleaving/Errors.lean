import RemoteClient.Proofs.Interleaving.Careers

namespace RemoteClient

namespace Deed

def closes (id : Nat) : Deed → Bool
  | .closed ref | .closeFailed ref _ => ref == .ofEndpoint id
  | _ => false

def works (id : Nat) : Deed → Bool
  | .opened ref | .closed ref | .closeFailed ref _ => ref == .ofEndpoint id
  | _ => false

theorem closes_works {deed : Deed} {id : Nat} (closes : deed.closes id) : deed.works id := by
  cases deed <;> first | exact closes | cases closes

end Deed

namespace Interleaving

/-- How a call looks after its channel: not at all while it is armed, and then it aborts it, once,
and takes it out of the slot if it is there. -/
inductive Guards (c id : Nat) : Bool → List Deed → Prop
  | armed : Guards c id true []
  | torn {removed : List Deed} (only : removed = [] ∨ removed = [.removed c id]) :
      Guards c id false (.aborted (.ofEndpoint id) :: removed)

namespace Stage

inductive Opening (id : Nat) (h : Handshake) : Stage → Prop
  | acquiring : Opening id h (.acquiring (.opening id h))
  | entering {token : Option String} : Opening id h (.entering token (.opening id h))

def acquireError? : Stage → Option Channel.Error
  | .ended (.acquired (.error e)) | .ended (.refused e) => some e
  | _ => none

end Stage

/-- What a call that acquires a channel has done at each of its stages, apart from what it did about
the channel it found in the slot. -/
inductive Attains (met : Meets) (c : Nat) : Stage → List Deed → Prop
  | acquiring {a : Acquiring} (seen : ∀ winner, a.winner? = some winner → met.rival winner) :
      Attains met c (.acquiring a) (paid a)
  | entering {token : Option String} {a : Acquiring}
      (seen : ∀ winner, a.winner? = some winner → met.rival winner) :
        Attains met c (.entering token a) (paid a)
  | acquired {result : Except Channel.Error Nat} {deeds : List Deed}
      (obtains : Obtains met c result deeds) :
      Attains met c (.ended (.acquired result)) deeds
  | refused {e : Channel.Error} {deeds : List Deed} (obtains : Obtains met c (.error e) deeds) :
      Attains met c (.ended (.refused e)) deeds
  | operating {i : Invocation} {polled : Bool} {more deeds : List Deed} (same : i.controller = c)
      (guards : Guards c i.channel i.armed more) (obtains : Obtains met c (.ok i.channel) deeds) :
      Attains met c (.operating i polled) (more ++ deeds)
  | operated {outcome : Scenario.Outcome} {id : Nat} {armed : Bool} {more deeds : List Deed}
      (guards : Guards c id armed more) (well : armed → outcome.isOk)
        (obtains : Obtains met c (.ok id) deeds) :
      Attains met c (.ended (.operated outcome)) (more ++ deeds)
  | interrupted {a : Acquiring} (left : met.givenUp) :
      Attains met c (.ended .abandoned) (.aborted (.ofEndpoint a.channel) :: paid a)
  | abandoned {id : Nat} {more deeds : List Deed} (left : met.givenUp)
      (guards : Guards c id false more)
      (obtains : Obtains met c (.ok id) deeds) : Attains met c (.ended .abandoned) (more ++ deeds)

/-- What a call that shuts its controller down, or disposes of it, has done at each of its
stages. -/
inductive Vacates (n : Network) (c : Nat) : Stage → List Deed → Prop
  | shutting {s : Closing} (kept : Keeps n c s.channel) :
      Vacates n c (.shutting s) [.removed c s.channel]
  | disposing {s : Closing} (kept : Keeps n c s.channel) :
      Vacates n c (.disposing s) [.removed c s.channel]
  | disposed {result : Except Channel.Error Unit} {deeds : List Deed}
      (empties : Empties n c result deeds) :
      Vacates n c (.ended .disposed) deeds
  | settled {result : Except Channel.Error Unit} {deeds : List Deed}
      (empties : Empties n c result deeds) :
      Vacates n c (.ended (.settled result)) deeds
  | abandoned {s : Closing} (kept : Keeps n c s.channel) :
      Vacates n c (.ended .abandoned) [.aborted (.ofEndpoint s.channel), .removed c s.channel]

section

variable {met seen : Meets} {c : Nat}

structure Meets.Grows (met seen : Meets) : Prop where
  usable : ∀ id, met.usable id → seen.usable id
  aborted : ∀ id, met.aborted id → seen.aborted id
  rival : ∀ id, met.rival id → seen.rival id
  givenUp : met.givenUp → seen.givenUp

theorem Obtains.mono (grows : met.Grows seen) {result : Except Channel.Error Nat}
    {deeds : List Deed} (obtains : Obtains met c result deeds) :
    Obtains seen c result deeds := by
  cases obtains with
  | reused known => exact .reused (grows.usable _ known)
  | refused => exact .refused
  | interrupted found => exact .interrupted (grows.aborted _ found)
  | won => exact .won
  | lost known shuts => exact .lost (grows.rival _ known) shuts

theorem Attains.mono (grows : met.Grows seen) {stage : Stage} {deeds : List Deed}
    (attains : Attains met c stage deeds) : Attains seen c stage deeds := by
  cases attains with
  | acquiring known => exact .acquiring fun winner won => grows.rival _ (known winner won)
  | entering known => exact .entering fun winner won => grows.rival _ (known winner won)
  | acquired obtains => exact .acquired (obtains.mono grows)
  | refused obtains => exact .refused (obtains.mono grows)
  | operating same guards obtains => exact .operating same guards (obtains.mono grows)
  | operated guards well obtains => exact .operated guards well (obtains.mono grows)
  | interrupted left => exact .interrupted (grows.givenUp left)
  | abandoned left guards obtains =>
      exact .abandoned (grows.givenUp left) guards (obtains.mono grows)

theorem Shuts.works_own {ref : ChannelRef} {result : Except Channel.Error Unit}
    {deeds : List Deed} (shuts : Shuts ref result deeds) {deed : Deed} (did : deed ∈ deeds)
    {id : Nat} (works : deed.works id) :
    ref = .ofEndpoint id := by
  cases shuts <;> simp_all [Deed.works]
  all_goals rcases did with rfl | rfl <;> simp_all

theorem Obtains.works_own {result : Except Channel.Error Nat} {deeds : List Deed}
    (obtains : Obtains met c result deeds) {deed : Deed} (did : deed ∈ deeds) {id : Nat}
    (works : deed.works id) : .created id ∈ deeds := by
  cases obtains with
  | reused => cases did
  | refused | interrupted | won =>
      simp only [List.mem_cons, List.not_mem_nil, or_false] at did
      rcases did with rfl | rfl | rfl <;> simp_all [Deed.works]
  | lost _ shuts =>
      rcases List.mem_append.mp did with shut | opened
      · cases shuts.works_own shut works
        simp
      · simp only [List.mem_cons, List.not_mem_nil, or_false] at opened
        rcases opened with rfl | rfl <;> simp_all [Deed.works]

theorem Guards.works_none {id other : Nat} {armed : Bool} {deeds : List Deed}
    (guards : Guards c id armed deeds) {deed : Deed} (did : deed ∈ deeds) :
    deed.works other = false := by
  cases guards with
  | armed => cases did
  | torn only =>
      rcases List.mem_cons.mp did with rfl | removed
      · rfl
      · rcases only with rfl | rfl
        · cases removed
        · cases List.mem_singleton.mp removed
          rfl

theorem Attains.works_own {stage : Stage} {deeds : List Deed}
    (attains : Attains met c stage deeds) {deed : Deed} (did : deed ∈ deeds) {id : Nat}
    (works : deed.works id) :
    .created id ∈ deeds := by
  have paying {a : Acquiring} (did : deed ∈ paid a) : .created id ∈ paid a := by
    cases a <;> simp only [paid, List.mem_cons, List.not_mem_nil, or_false] at did ⊢
    · cases did
      cases works
    · rcases did with rfl | rfl <;> simp_all [Deed.works]
  have operates {own : Nat} {armed : Bool} {result : Except Channel.Error Nat}
    {more deeds : List Deed}
      (guards : Guards c own armed more) (obtains : Obtains met c result deeds)
      (did : deed ∈ more ++ deeds) : .created id ∈ more ++ deeds := by
    rcases List.mem_append.mp did with torn | obtained
    · rw [guards.works_none torn] at works
      cases works
    · exact List.mem_append_right _ (obtains.works_own obtained works)
  cases attains with
  | acquiring | entering => exact paying did
  | acquired obtains | refused obtains => exact obtains.works_own did works
  | operating _ guards obtains | operated guards _ obtains | abandoned _ guards obtains =>
      exact operates guards obtains did
  | interrupted =>
      rcases List.mem_cons.mp did with rfl | before
      · cases works
      · exact List.mem_cons_of_mem _ (paying before)

end

/-! ## What each event adds -/

section

variable {n : Network} {met : Meets} {c id : Nat}

theorem fire_tells (i : Invocation) (n : Network) : Tells n i.fire fun j deeds _ =>
    j.controller = i.controller ∧ j.channel = i.channel ∧
      ∀ more, Guards i.controller i.channel i.armed more →
        j.armed = false ∧ Guards i.controller i.channel false (deeds ++ more) := by
  cases armed : i.armed with
  | false =>
      refine ⟨[], by rw [fire_spent i n armed]; rfl, ?_⟩
      rw [fire_spent i n armed]
      exact ⟨rfl, rfl, fun more guards => ⟨armed, guards⟩⟩
  | true =>
      obtain ⟨m, ran, discards⟩ := fire_armed i n armed
      refine ⟨_, by rw [ran]; exact discards.history, ?_⟩
      rw [ran]
      refine ⟨rfl, rfl, fun more guards => ⟨rfl, ?_⟩⟩
      cases guards
      rw [List.append_nil]
      exact .torn (by split <;> simp)

theorem heed_tells (i : Invocation) (n : Network) : Tells n i.heed fun j deeds _ =>
    j.controller = i.controller ∧ j.channel = i.channel ∧
      ∀ more, Guards i.controller i.channel i.armed more →
        Guards i.controller i.channel j.armed (deeds ++ more) := by
  unfold Invocation.heed
  cases i.token with
  | none => exact tells_pure ⟨rfl, rfl, fun _ guards => guards⟩
  | some token =>
      refine tells_silent (m := n) rfl rfl ?_
      split
      · refine tells_note (tells_bind (fire_tells i _) fun j deeds m fired => tells_pure ?_)
        obtain ⟨controller, channel, guards⟩ := fired
        refine ⟨controller, channel, fun more before => ?_⟩
        rw [List.nil_append, (guards more before).1]
        exact (guards more before).2
      · exact tells_pure ⟨rfl, rfl, fun _ guards => guards⟩

theorem abandon_tells (i : Invocation) (n : Network) : Tells n i.abandon fun _ deeds _ =>
    ∀ more, Guards i.controller i.channel i.armed more →
      Guards i.controller i.channel false (deeds ++ more) :=
  tells_bind (fire_tells i n) fun _ _ _ fired => tells_pure fun more before =>
    (fired.2.2 more before).2

theorem finish_tells (i : Invocation) (succeeded : Bool) (n : Network) :
    Tells n (i.finish succeeded) fun _ deeds _ =>
      ∀ more, Guards i.controller i.channel i.armed more →
      ∃ armed, Guards i.controller i.channel armed (deeds ++ more) ∧ (armed → succeeded) := by
  cases succeeded with
  | true => exact tells_pure fun more guards => ⟨i.armed, guards, fun _ => rfl⟩
  | false =>
      refine tells_weaken (abandon_tells i n) fun _ deeds _ told more guards =>
        ⟨false, told more guards, ?_⟩
      exact fun armed => armed

theorem ofAcquire_attains {progress : Progress Acquiring (Except Channel.Error Nat)}
    {deeds : List Deed} (gets : Gets met c progress deeds) :
    Attains met c (.ofAcquire progress) deeds := by
  cases progress with
  | pending a =>
      obtain ⟨rfl, seen⟩ := gets
      exact .acquiring seen
  | done result => exact .acquired gets

theorem enter_attains {progress : Progress Acquiring (Except Channel.Error Nat)} {deeds : List Deed}
    (gets : Gets met c progress deeds) (token : Option String) (n : Network) :
    Tells n (Stage.enter c token progress) fun stage more _ =>
      Attains met c stage (more ++ deeds) := by
  rcases progress with a | e | id
  · obtain ⟨rfl, seen⟩ := gets
    exact tells_pure (.entering seen)
  · exact tells_pure (.refused gets)
  · refine tells_bind (heed_tells (.start c id token) n) fun i more _ heeded => tells_pure ?_
    obtain ⟨controller, channel, guards⟩ := heeded
    change i.channel = id at channel
    subst channel
    have guarded := guards [] .armed
    rw [List.append_nil] at guarded
    exact .operating controller guarded gets

end

namespace Operation

def acquires : Operation → Bool
  | .acquire | .acquireAsync | .invoke | .invokeAsync _ => true
  | .invalidate _ _ | .shutdown _ | .shutdownAsync _ | .dispose | .disposeAsync => false

def vacates : Operation → Bool
  | .shutdown _ | .shutdownAsync _ | .dispose | .disposeAsync => true
  | .acquire | .acquireAsync | .invoke | .invokeAsync _ | .invalidate _ _ => false

end Operation

section

variable {n : Network} {met : Meets} {c : Nat}

theorem start_attains {op : Operation} (acquires : op.acquires)
    (found : ∀ id, Reuses n c id → met.usable id) :
    Tells n (op.start c) fun stage deeds _ =>
      ∃ own stale, deeds = own ++ stale ∧ Clears n c stale ∧ Attains met c stage own := by
  cases op with
  | acquire =>
      refine tells_bind (acquire_tells found) fun result deeds _ told => tells_pure ?_
      obtain ⟨own, stale, rfl, clears, obtains⟩ := told
      exact ⟨own, stale, rfl, clears, .acquired obtains⟩
  | acquireAsync =>
      refine tells_bind (startAcquire_tells found) fun progress deeds _ told => tells_pure ?_
      obtain ⟨own, stale, rfl, clears, gets⟩ := told
      exact ⟨own, stale, rfl, clears, ofAcquire_attains gets⟩
  | invoke =>
      refine tells_bind (acquire_tells found) fun result deeds m told => ?_
      obtain ⟨own, stale, rfl, clears, obtains⟩ := told
      have gets : Gets met c (.done result) own := obtains
      refine tells_weaken (enter_attains gets none m) fun stage more _ attains => ?_
      exact ⟨more ++ own, stale, by rw [List.append_assoc], clears, attains⟩
  | invokeAsync token =>
      refine tells_bind (startAcquire_tells found) fun progress deeds m told => ?_
      obtain ⟨own, stale, rfl, clears, gets⟩ := told
      refine tells_weaken (enter_attains gets token m) fun stage more _ attains => ?_
      exact ⟨more ++ own, stale, by rw [List.append_assoc], clears, attains⟩
  | invalidate | shutdown | shutdownAsync | dispose | disposeAsync => cases acquires

variable {stage : Stage} {own : List Deed}

theorem idle_attains (attains : Attains met c stage own) (n : Network) :
    Tells n (pure stage) fun next more _ => Attains met c next (more ++ own) := tells_pure attains

theorem resume_gets {a : Acquiring} (prompt : a.retires = false)
    (seen : ∀ winner, a.winner? = some winner → met.rival winner)
    (found : ∀ id h, a = .opening id h →
      (((Act.resumeOpen (.ofEndpoint id) h).run n).1 = .done (.error .aborted) →
        (n.channel (.ofEndpoint id)).aborted →
          met.aborted id) ∧ ∀ winner, Keeps n c winner → met.rival winner) :
    Tells n (Act.resumeAcquire c a) fun progress deeds _ =>
      Gets met c progress (deeds ++ paid a) := by
  refine resumeAcquire_tells c a prompt n (fun id h same => (found id h same).1) ?_
  rintro winner (won | ⟨unsettled, kept⟩)
  · exact seen winner won
  · cases a with
    | retiring => cases prompt
    | opening id h => exact (found id h rfl).2 winner kept
    | discarding => cases unsettled

theorem resume_attains (attains : Attains met c stage own) (prompt : stage.retires = false)
    (found : ∀ id h, Stage.Opening id h stage →
      (((Act.resumeOpen (.ofEndpoint id) h).run n).1 = .done (.error .aborted) →
        (n.channel (.ofEndpoint id)).aborted →
          met.aborted id) ∧ ∀ winner, Keeps n c winner → met.rival winner) :
    Tells n (stage.resume c) fun next more _ => Attains met c next (more ++ own) := by
  cases stage with
  | acquiring a =>
      cases attains with
      | acquiring seen =>
          have gets := resume_gets prompt seen fun id h same => found id h (same ▸ .acquiring)
          exact tells_bind gets fun progress more _ gets => tells_pure (ofAcquire_attains gets)
  | entering token a =>
      cases attains with
      | entering seen =>
          have gets := resume_gets prompt seen fun id h same => found id h (same ▸ .entering)
          refine tells_bind gets fun progress more m gets => ?_
          exact tells_weaken (enter_attains gets token m) fun _ _ _ attains => by
            rwa [List.append_assoc]
  | operating i polled =>
      cases polled with
      | true => exact idle_attains attains n
      | false =>
          cases attains with
          | operating same guards obtains =>
              refine tells_bind (heed_tells i n) fun j again _ heeded => tells_pure ?_
              obtain ⟨controller, channel, guarded⟩ := heeded
              subst same
              have now := guarded _ guards
              rw [← channel] at obtains now
              rw [List.nil_append, ← List.append_assoc]
              exact .operating controller now obtains
  | shutting | disposing => cases attains
  | ended ending => exact idle_attains attains n

theorem suspend_attains (attains : Attains met c stage own) (n : Network) :
    Tells n stage.suspend fun next more _ => Attains met c next (more ++ own) := by
  cases stage with
  | operating i polled =>
      cases attains with
      | operating same guards obtains => exact idle_attains (.operating same guards obtains) n
  | acquiring | entering | shutting | disposing | ended => exact idle_attains attains n

theorem conclude_attains (outcome : Scenario.Outcome) (attains : Attains met c stage own)
    (n : Network) :
    Tells n (stage.conclude outcome) fun next more _ => Attains met c next (more ++ own) := by
  cases stage with
  | operating i polled =>
      cases polled with
      | false => exact idle_attains attains n
      | true =>
          cases attains with
          | operating same guards obtains =>
              refine tells_bind (finish_tells i outcome.isOk n) fun _ again _ finished =>
                tells_pure ?_
              subst same
              obtain ⟨armed, guarded, well⟩ := finished _ guards
              rw [List.nil_append, ← List.append_assoc]
              exact .operated guarded well obtains
  | acquiring | entering | shutting | disposing | ended => exact idle_attains attains n

theorem abandon_attains (attains : Attains met c stage own) (left : met.givenUp) (n : Network) :
    Tells n stage.abandon fun next more _ => Attains met c next (more ++ own) := by
  cases stage with
  | acquiring a | entering token a =>
      cases attains
      refine tells_bind (abandonHandshake_tells (.ofEndpoint a.channel) n) fun _ _ _ done =>
        tells_pure ?_
      rw [done]
      exact .interrupted left
  | operating i polled =>
      cases attains with
      | operating same guards obtains =>
          refine tells_bind (abandon_tells i n) fun _ again _ guarded => tells_pure ?_
          subst same
          rw [List.nil_append, ← List.append_assoc]
          exact .abandoned left (guarded _ guards) obtains
  | shutting | disposing => cases attains
  | ended ending => exact idle_attains attains n

theorem go_attains {e : Event} {k : Nat} (call : e.call? = some k)
    (attains : Attains met c stage own) (prompt : stage.retires = false)
    (left : e = .abandon k → met.givenUp)
    (found : ∀ id h, e = .resume k → Stage.Opening id h stage →
      (((Act.resumeOpen (.ofEndpoint id) h).run n).1 = .done (.error .aborted) →
        (n.channel (.ofEndpoint id)).aborted →
          met.aborted id) ∧ ∀ winner, Keeps n c winner → met.rival winner) :
    Tells n (e.go c stage) fun next more _ => Attains met c next (more ++ own) := by
  cases e with
  | resume =>
      cases call
      exact resume_attains attains prompt fun id h => found id h rfl
  | suspend => exact suspend_attains attains n
  | conclude _ outcome => exact conclude_attains outcome attains n
  | abandon =>
      cases call
      exact abandon_attains attains (left rfl) n
  | newController | begin | drop | outside => cases call

end

section

variable {n first : Network} {c : Nat} {stage : Stage} {deeds : List Deed}

theorem ofShutdown_vacates {progress : Progress Closing (Except Channel.Error Unit)}
    (emptying : Emptying n c progress deeds) : Vacates n c (.ofShutdown progress) deeds := by
  cases progress with
  | pending s =>
      obtain ⟨rfl, kept⟩ := emptying
      exact .shutting kept
  | done result => exact .settled emptying

theorem ofDispose_vacates {progress : Progress Closing (Except Channel.Error Unit)}
    (emptying : Emptying first c progress deeds) (n : Network) :
    Tells n (Stage.ofDispose progress) fun stage more _ =>
      Vacates first c stage (more ++ deeds) := by
  cases progress with
  | pending s =>
      obtain ⟨rfl, kept⟩ := emptying
      exact tells_pure (.disposing kept)
  | done result =>
      refine tells_bind (tells_quiet (quiet_noteIgnored result) n) fun _ _ _ silent => tells_pure ?_
      rw [silent]
      exact .disposed emptying

theorem start_vacates {op : Operation} (vacates : op.vacates) (n : Network) :
    Tells n (op.start c) fun stage deeds _ => Vacates n c stage deeds := by
  cases op with
  | shutdown alwaysAbort =>
      exact tells_bind (shutdown_tells c alwaysAbort n) fun _ _ _ empties =>
        tells_pure (.settled empties)
  | shutdownAsync alwaysAbort =>
      exact tells_bind (startShutdown_tells c alwaysAbort n) fun _ _ _ emptying =>
        tells_pure (ofShutdown_vacates emptying)
  | dispose =>
      have disposes : Tells n (Act.dispose c) fun _ deeds _ =>
          ∃ result, Empties n c result deeds := by
        refine tells_bind (shutdown_tells c false n) fun result _ m empties => ?_
        refine tells_weaken (tells_quiet (quiet_noteIgnored result) m) fun _ _ _ silent =>
          ⟨result, ?_⟩
        rwa [silent]
      exact tells_bind disposes fun _ _ _ ⟨_, empties⟩ => tells_pure (.disposed empties)
  | disposeAsync =>
      exact tells_bind (startShutdown_tells c false n) fun _ _ m emptying =>
        ofDispose_vacates emptying m
  | acquire | acquireAsync | invoke | invokeAsync | invalidate => cases vacates

theorem go_vacates {e : Event} {k : Nat} (own : e.call? = some k)
    (vacates : Vacates first c stage deeds) (n : Network) :
    Tells n (e.go c stage) fun next more _ => Vacates first c next (more ++ deeds) := by
  have idle : Tells n (pure stage) fun next more _ => Vacates first c next (more ++ deeds) :=
    tells_pure vacates
  cases e with
  | newController | begin | drop | outside => cases own
  | suspend | conclude =>
      cases vacates <;> exact idle
  | resume =>
      cases vacates with
      | @shutting s kept =>
          exact tells_bind (resumeShutdown_tells s n kept) fun _ _ _ emptying =>
            tells_pure (ofShutdown_vacates emptying)
      | @disposing s kept =>
          refine tells_bind (resumeShutdown_tells s n kept) fun _ more m emptying => ?_
          exact tells_weaken (ofDispose_vacates emptying m) fun _ _ _ vacates => by
            rwa [List.append_assoc]
      | settled | disposed | abandoned => exact idle
  | abandon =>
      cases vacates with
      | @shutting s kept | @disposing s kept =>
          refine tells_bind (abandonHandshake_tells (.ofEndpoint s.channel) n) fun _ _ _ done =>
            tells_pure ?_
          rw [done]
          exact .abandoned kept
      | settled | disposed | abandoned => exact idle

end

namespace Career

variable (t : Career) (events : List Event)

/-- When the call went on, the open of the channel ended with the error of an aborted one. No call
on the controller had aborted it. -/
def CutShort (id : Nat) : Prop :=
  ∃ first rest stage h, events = first ++ .resume t.call :: rest ∧ t.At first stage ∧
    stage.Opening id h ∧
    ((Act.resumeOpen (.ofEndpoint id) h).run (t.after first).blank).1 = .done (.error .aborted) ∧
    ((t.after first).network.channel (.ofEndpoint id)).aborted ∧
    ∀ k, .aborted (.ofEndpoint id) ∉ (t.after first).doneBy t.controller k

/-- The channel was in the slot when the call went on to open one of its own. -/
def Beaten (id : Nat) : Prop :=
  ∃ first rest stage fresh h, events = first ++ .resume t.call :: rest ∧ t.At first stage ∧
    stage.Opening fresh h ∧ Keeps (t.after first).network t.controller id

def GivenUp : Prop :=
  ∃ first rest stage, events = first ++ .abandon t.call :: rest ∧ t.At first stage ∧
    stage.isOver = false

def meets : Meets where
  usable := Reuses t.found.blank t.controller
  aborted := t.CutShort events
  rival := t.Beaten events
  givenUp := t.GivenUp events

variable {t events}

theorem CutShort.snoc {id : Nat} (cut : t.CutShort events id) (e : Event) :
    t.CutShort (events ++ [e]) id := by
  obtain ⟨first, rest, stage, h, rfl, found⟩ := cut
  exact ⟨first, rest ++ [e], stage, h, by simp, found⟩

theorem Beaten.snoc {id : Nat} (beaten : t.Beaten events id) (e : Event) :
    t.Beaten (events ++ [e]) id := by
  obtain ⟨first, rest, stage, fresh, h, rfl, found⟩ := beaten
  exact ⟨first, rest ++ [e], stage, fresh, h, by simp, found⟩

theorem GivenUp.snoc (left : t.GivenUp events) (e : Event) : t.GivenUp (events ++ [e]) := by
  obtain ⟨first, rest, stage, rfl, found⟩ := left
  exact ⟨first, rest ++ [e], stage, by simp, found⟩

theorem meets_grows (t : Career) (events : List Event) (e : Event) :
    (t.meets events).Grows (t.meets (events ++ [e])) where
  usable _ reuses := reuses
  aborted _ cut := cut.snoc e
  rival _ beaten := beaten.snoc e
  givenUp left := left.snoc e

theorem prompt_at {stage : Stage} (stands : t.At events stage) : stage.retires = false :=
  (run_sound t.address (t.past events)).prompt stands

theorem opening_unharmed {stage : Stage} {id : Nat} {h : Handshake} (stands : t.At events stage)
    (opening : stage.Opening id h) (k : Nat) :
    .aborted (.ofEndpoint id) ∉ (t.after events).doneBy t.controller k := by
  have sound := run_sound t.address (t.past events)
  have fresh : ((t.after events).hands (.call t.controller t.call)).fresh? = some id := by
    rw [hands_call stands rfl]
    cases opening <;> rfl
  intro did
  obtain ⟨_, _, _, call, _, unharmed⟩ := sound.standing.fresh fresh
  cases call
  exact unharmed ⟨k, _, mem_doneBy.mp did, by simp [Deed.attacks]⟩

theorem acquire_account (acquires : t.op.acquires) (events : List Event) :
    ∃ stage, t.At events stage ∧
    ∃ own stale, t.done events = own ++ stale ∧ Clears t.found.blank t.controller stale ∧
      Attains (t.meets events) t.controller stage own := by
  refine t.goes_on events (P := fun events stage deeds => ∃ own stale, deeds = own ++ stale ∧
    Clears t.found.blank t.controller stale ∧
      Attains (t.meets events) t.controller stage own) ?_ ?_ ?_
  · exact start_attains acquires fun _ reuses => reuses
  · rintro events e stage deeds ⟨own, stale, added, clears, attains⟩
    exact ⟨own, stale, added, clears, attains.mono (t.meets_grows events e)⟩
  · rintro events e stage call going stands ⟨own, stale, added, clears, attains⟩
    have left (same : e = .abandon t.call) : (t.meets (events ++ [e])).givenUp :=
      ⟨events, [], stage, by rw [same], stands, going⟩
    have tells :=
      go_attains (n := (t.after events).blank) call (attains.mono (t.meets_grows events e))
      (prompt_at stands) left fun id h same opening => by
        refine ⟨fun ended aborted => ?_, fun winner kept => ?_⟩
        · have unharmed := opening_unharmed stands opening
          exact ⟨events, [], stage, h, by rw [same], stands, opening, ended, aborted, unharmed⟩
        · exact ⟨events, [], stage, id, h, by rw [same], stands, opening, kept⟩
    refine tells_weaken tells fun next more _ attains => ⟨more ++ own, stale, ?_, clears, attains⟩
    rw [added, List.append_assoc]

theorem shutdown_account (vacates : t.op.vacates) (events : List Event) :
    ∃ stage, t.At events stage ∧ Vacates t.found.blank t.controller stage (t.done events) :=
  t.goes_on events (start_vacates vacates _)
    (fun _ _ _ _ holds => holds) fun _ _ _ call _ _ vacates =>
    go_vacates call vacates _

theorem invalidate_account {id : Nat} {alwaysAbort : Bool}
    (invalidates : t.op = .invalidate id alwaysAbort) (events : List Event) :
    ∃ stage, t.At events stage ∧ ∃ result shut, stage = .ended (.settled result) ∧
      t.done events = shut ++
        (if Keeps t.found.blank t.controller id then [.removed t.controller id] else []) ∧
      Shuts (.ofEndpoint id) result shut := by
  refine t.goes_on events (P := fun _ stage deeds => ∃ result shut,
    stage = .ended (.settled result) ∧
    deeds = shut ++ (if Keeps t.found.blank t.controller id then [.removed t.controller id]
      else []) ∧
    Shuts (.ofEndpoint id) result shut) ?_ (fun _ _ _ _ holds => holds) ?_
  · rw [invalidates]
    refine tells_bind (invalidate_tells t.controller id alwaysAbort _) fun result _ _ told =>
      tells_pure ?_
    obtain ⟨shut, added, shuts⟩ := told
    exact ⟨result, shut, rfl, added, shuts⟩
  · rintro _ _ _ - going - ⟨_, _, rfl, _⟩
    cases going

theorem recorded {r : Record} (told : r ∈ t.found.history) (events : List Event) :
    r ∈ (t.after events).history := run_records told _

theorem unmade {maker : Actor} {id : Nat} (made : .created id ∈ t.done events) :
    ⟨maker, .created id⟩ ∉ t.found.history := by
  intro first
  cases (run_sound ..).standing.created_once (recorded first events) (mem_doneBy.mp made)
  have before : .created id ∈ t.found.doneBy t.controller t.call := mem_doneBy.mpr first
  rw [t.fresh] at before
  cases before

theorem made_unkept {id : Nat} (made : .created id ∈ t.done events) :
    ¬ Keeps t.found.network t.controller id := by
  intro kept
  obtain ⟨_, k, first, _⟩ :=
    (run_sound ..).standing.cached ((slot_network t.found t.controller).trans kept)
  exact unmade made first

theorem acquire_never_closes_found (acquires : t.op.acquires) {id : Nat}
    (kept : Keeps t.found.blank t.controller id) :
    ∀ deed ∈ t.done events, deed.closes id = false := by
  intro deed did
  obtain ⟨_, _, own, stale, added, clears, attains⟩ := acquire_account acquires events
  rw [added] at did
  by_contra closes
  rcases List.mem_append.mp did with mine | discarded
  · have made := attains.works_own mine (Deed.closes_works (by simpa using closes))
    exact made_unkept (added ▸ List.mem_append_left _ made) kept
  · cases clears <;> simp [Deed.closes] at discarded closes
    all_goals rcases discarded with rfl | rfl <;> simp at closes

theorem acquire_error (acquires : t.op.acquires) {stage : Stage} (stands : t.At events stage)
    {e : Channel.Error} (failed : stage.acquireError? = some e) :
    ∃ id stale, Clears t.found.blank t.controller stale ∧
      (t.done events = .aborted (.ofEndpoint id) :: .openFailed (.ofEndpoint id) e ::
        .created id :: stale ∨
        t.done events = .aborted (.ofEndpoint id) :: .created id :: stale ∧ e = .aborted ∧
          t.CutShort events id) := by
  obtain ⟨_, same, own, stale, added, clears, attains⟩ := acquire_account acquires events
  cases same.symm.trans stands
  have obtains : Obtains (t.meets events) t.controller (.error e) own := by
    cases attains with
    | @acquired result _ obtains =>
        cases result with
        | ok => cases failed
        | error => cases failed; exact obtains
    | refused obtains => cases failed; exact obtains
    | _ => cases failed
  rw [added]
  cases obtains with
  | refused => exact ⟨_, stale, clears, .inl rfl⟩
  | interrupted cut => exact ⟨_, stale, clears, .inr ⟨rfl, rfl, cut⟩⟩

theorem errors_come_from_opens_and_closes (t : Career) (events : List Event) {stage : Stage}
    (stands : t.At events stage) :
    (t.op.acquires →
      (∀ e, stage.acquireError? = some e → ∃ id stale, Clears t.found.blank t.controller stale ∧
        (t.done events = .aborted (.ofEndpoint id) :: .openFailed (.ofEndpoint id) e ::
          .created id :: stale ∨
          t.done events = .aborted (.ofEndpoint id) :: .created id :: stale ∧ e = .aborted ∧
            t.CutShort events id)) ∧
      (∃ own stale, t.done events = own ++ stale ∧ Clears t.found.blank t.controller stale) ∧
      ∀ id, Keeps t.found.blank t.controller id → ∀ deed ∈ t.done events, deed.closes id = false) ∧
    (∀ alwaysAbort result, t.op = .shutdown alwaysAbort ∨ t.op = .shutdownAsync alwaysAbort →
      stage = .ended (.settled result) →
        Empties t.found.blank t.controller result (t.done events)) ∧
    (∀ id alwaysAbort, t.op = .invalidate id alwaysAbort →
      ∃ result shut, stage = .ended (.settled result) ∧
      t.done events = shut ++
        (if Keeps t.found.blank t.controller id then [.removed t.controller id] else []) ∧
      Shuts (.ofEndpoint id) result shut) ∧
    ∀ {n m : Network} {id : Nat}, (Act.takeStale t.controller).run n = (some id, m) →
      ∃ l, (Act.shutdownChannel (.ofEndpoint id) false).run m = (.ok (), l) ∧
        (Act.startShutdownChannel (.ofEndpoint id) false).run m = (.done (.ok ()), l) := by
  refine ⟨fun acquires => ⟨?_, ?_, ?_⟩, ?_, ?_, Act.stale_never_fails⟩
  · exact fun e failed => acquire_error acquires stands failed
  · obtain ⟨_, _, own, stale, added, clears, _⟩ := acquire_account acquires events
    exact ⟨own, stale, added, clears⟩
  · exact fun id kept => acquire_never_closes_found acquires kept
  · rintro alwaysAbort result shuts rfl
    have vacates : t.op.vacates := by rcases shuts with same | same <;> rw [same] <;> rfl
    obtain ⟨_, same, vacates⟩ := shutdown_account vacates events
    cases same.symm.trans stands
    cases vacates with
    | settled empties => exact empties
  · intro id alwaysAbort invalidates
    obtain ⟨_, same, account⟩ := invalidate_account invalidates events
    cases same.symm.trans stands
    exact account

/-- A faulted channel is in the slot, its closes fail, and so does the open of its successor. -/
def unlucky : Career where
  address := "mem://a"
  earlier :=
    [.newController, .begin 0 .acquire, .outside (.failClose (.ofEndpoint 1) (.other "busy")),
    .outside (.force (.ofEndpoint 1) .faulted), .outside (.failNextOpen (.timeout "slow"))]
  controller := 0
  op := .acquireAsync
  present := by decide
  admitted := rfl

theorem unlucky_acquire_tells_of_open :
    unlucky.At [.resume 1] (.ended (.acquired (.error (.timeout "slow")))) ∧
      ∃ id stale, Clears unlucky.found.blank 0 stale ∧
        (unlucky.done [.resume 1] = .aborted (.ofEndpoint id) ::
            .openFailed (.ofEndpoint id) (.timeout "slow") :: .created id :: stale ∨
          unlucky.done [.resume 1] = .aborted (.ofEndpoint id) :: .created id :: stale ∧
            .timeout "slow" = Channel.Error.aborted ∧ unlucky.CutShort [.resume 1] id) :=
  ⟨rfl, ((errors_come_from_opens_and_closes unlucky [.resume 1] rfl).1 rfl).1 _ rfl⟩

end Career

end Interleaving

end RemoteClient
