import RemoteClient.Proofs.Interleaving.Tenure

/-!
What the calls do to a network can be read off what they tell: each deed is one least change, and
between two deeds nothing changes but the log and the count of waits.
-/

namespace RemoteClient.Interleaving

/-- A deed with what it makes of a network. -/
inductive Happens : Deed → Network → Network → Prop
  | created (n : Network) : Happens (.created (n.endpoint.channels.length + 1)) n n.created
  | opened (n : Network) (ref : ChannelRef) :
      Happens (.ofOpen ref (n.channel ref).openNow.1) n (n.putChannel ref (n.channel ref).openNow.2)
  | closed (n : Network) (ref : ChannelRef) :
      Happens (.ofClose ref (n.channel ref).closeNow.1) n
        (n.putChannel ref (n.channel ref).closeNow.2)
  | aborted (n : Network) (ref : ChannelRef) :
      Happens (.aborted ref) n (n.putChannel ref (n.channel ref).abort)
  | spared (n : Network) (ref : ChannelRef) (closed : (n.channel ref).state = .closed) :
      Happens (.spared ref) n n
  | installed (n : Network) (c id : Nat) (vacant : (n.controller c).slot = none) :
      Happens (.installed c id) n
        (n.putController c ⟨some ⟨id, (n.controller c).generation + 1⟩,
          (n.controller c).generation + 1⟩)
  | removed (n : Network) (c : Nat) (held : Cached) (cached : (n.controller c).slot = some held) :
      Happens (.removed c held.channel) n (n.putController c { n.controller c with slot := none })

/-- The way from one network to another, by deeds that are listed newest first. -/
inductive Course : List Deed → Network → Network → Prop
  | refl (n : Network) : Course [] n n
  | noted {deeds : List Deed} {n m : Network} (course : Course deeds n m) (waits : Nat)
      (log : List Log.Event)
      (history : List Deed) : Course deeds n { m with waits, log, history }
  | deed {deeds : List Deed} {n m l : Network} {deed : Deed} (course : Course deeds n m)
      (happens : Happens deed m l) : Course (deed :: deeds) n l

def Told (n m : Network) : Prop := ∃ deeds, m.history = deeds ++ n.history ∧ Course deeds n m

namespace Course

variable {n m l : Network} {deeds more : List Deed}

theorem trans (first : Course deeds n m) (second : Course more m l) :
    Course (more ++ deeds) n l := by
  induction second with
  | refl => exact first
  | noted _ waits log history ih => exact (ih first).noted waits log history
  | deed _ happens ih => exact (ih first).deed happens

/-- What is seen of a network stays the same if no deed on the way changes it, and it does not
depend on the log. -/
theorem unchanged {α : Type} {f : Network → α} {spares : Deed → Prop}
    (quiet : ∀ (m : Network) waits log history, f { m with waits, log, history } = f m)
    (keeps : ∀ {deed : Deed} {n m : Network}, Happens deed n m → spares deed → f m = f n)
    (course : Course deeds n m) (spared : ∀ deed ∈ deeds, spares deed) : f m = f n := by
  induction course with
  | refl => rfl
  | noted _ _ _ _ ih => exact (quiet ..).trans (ih spared)
  | deed _ happens ih =>
      rw [List.forall_mem_cons] at spared
      exact (keeps happens spared.1).trans (ih spared.2)

theorem spared_closed {ref : ChannelRef} (course : Course deeds n m) (told : .spared ref ∈ deeds) :
    ∃ later earlier l, deeds = later ++ .spared ref :: earlier ∧ Course earlier n l ∧
      (l.channel ref).state = .closed := by
  induction course with
  | refl => cases told
  | noted _ _ _ _ ih => exact ih told
  | @deed deeds n m l deed course happens ih =>
      rcases List.mem_cons.mp told with last | before
      · cases happens with
        | spared _ other closed =>
            cases last
            exact ⟨[], deeds, m, rfl, course, closed⟩
        | opened _ other =>
            exact absurd last (by cases (m.channel other).openNow.1 <;> simp [Deed.ofOpen])
        | closed _ other =>
            exact absurd last (by cases (m.channel other).closeNow.1 <;> simp [Deed.ofClose])
        | created | aborted | installed | removed => cases last
      · obtain ⟨later, earlier, l, rfl, way, closed⟩ := ih before
        exact ⟨deed :: later, earlier, l, rfl, way, closed⟩

end Course

section

variable {n m l : Network} {ref : ChannelRef}

theorem told_noted (n : Network) (waits : Nat) (log : List Log.Event) :
    Told n { n with waits, log } :=
  ⟨[], rfl, (Course.refl n).noted waits log n.history⟩

theorem told_deed {deed : Deed} {log : List Log.Event} {history : List Deed}
    (happens : Happens deed n m) (told : history = deed :: n.history) :
    Told n { m with log, history } :=
  ⟨[deed], told, ((Course.refl n).deed happens).noted m.waits log history⟩

theorem told_trans (first : Told n m) (second : Told m l) : Told n l := by
  obtain ⟨deeds, added, course⟩ := first
  obtain ⟨more, readded, later⟩ := second
  exact ⟨more ++ deeds, by rw [readded, added, List.append_assoc], course.trans later⟩

theorem told_openNow (ref : ChannelRef) : Within Told (Act.openNow ref) := by
  intro n
  have noted :=
    told_noted n n.waits (.trace "MEM" ("→ open channel " ++ toString (n.channel ref).id ++ " to "
    ++ (n.channel ref).endpoint) :: n.log)
  cases ref <;> exact told_trans noted (told_deed (.opened _ _) rfl)

theorem told_closeNow (ref : ChannelRef) : Within Told (Act.closeNow ref) := by
  intro n
  have noted :=
    told_noted n n.waits (.trace "MEM" ("→ close channel " ++ toString (n.channel ref).id) :: n.log)
  cases ref <;> exact told_trans noted (told_deed (.closed _ _) rfl)

theorem told_abort (ref : ChannelRef) : Within Told (Act.abort ref) := by
  intro n
  have noted :=
    told_noted n n.waits (.trace "MEM" ("→ abort channel " ++ toString (n.channel ref).id) :: n.log)
  cases ref <;> exact told_trans noted (told_deed (.aborted _ _) rfl)

theorem told_create : Within Told Act.create := fun n => told_deed (.created n) rfl

theorem told_take (c : Nat) : Within Told (Act.take c) := by
  intro n
  rw [Act.take, Act.run_controller]
  cases cached : (n.controller c).slot with
  | none => exact told_noted n n.waits n.log
  | some held => exact told_deed (.removed n c held cached) rfl

theorem told_takeStale (c : Nat) : Within Told (Act.takeStale c) := by
  intro n
  rw [Act.takeStale, Act.run_controller]
  cases cached : (n.controller c).slot with
  | none => exact told_noted n n.waits n.log
  | some held =>
      dsimp only
      rw [Act.run_channel]
      split
      · exact told_noted n n.waits n.log
      · let emptied : Network := n.putController c { n.controller c with slot := none }
        have taken : Told n { emptied with history := .removed c held.channel :: n.history } :=
          told_deed (.removed n c held cached) rfl
        exact told_trans taken (told_noted _ n.waits _)

theorem told_install (c id : Nat) : Within Told (Act.install c id) := by
  intro n
  rw [Act.install, Act.run_controller]
  cases vacant : (n.controller c).slot with
  | none => exact told_trans (told_noted n n.waits _) (told_deed (.installed _ c id vacant) rfl)
  | some held => exact told_noted n n.waits n.log

theorem told_detach (c id : Nat) : Within Told (Act.detach c id) := by
  intro n
  rw [Act.detach, Act.run_controller]
  cases cached : (n.controller c).slot with
  | none => exact told_noted n n.waits n.log
  | some held =>
      by_cases same : held.channel = id
      · subst same
        dsimp only
        rw [if_pos rfl]
        exact told_trans (told_noted n n.waits _) (told_deed (.removed _ c held cached) rfl)
      · dsimp only
        rw [if_neg same]
        exact told_noted n n.waits n.log

theorem told_calling : Calling Told where
  refl n := told_noted n n.waits n.log
  trans := told_trans
  note n event := told_noted n n.waits (event :: n.log)
  stamp n := told_noted n (n.waits + 1) n.log
  spare n ref closed := told_deed (.spared n ref closed) rfl
  within_openNow := told_openNow
  within_closeNow := told_closeNow
  within_abort := told_abort
  within_create := told_create
  within_take := told_take
  within_takeStale := told_takeStale
  within_install := told_install
  within_detach := told_detach

end

/-- Somebody got the system from one state to the next by what was signed in his name. -/
def Signs (actor : Actor) (s after : System) : Prop :=
  ∃ deeds, after.history = sign actor deeds ++ s.history ∧ Course deeds s.network after.network

section

variable {s : System} {actor : Actor}

theorem signs_rest (actor : Actor) (s : System) : Signs actor s s := ⟨[], rfl, .refl s.network⟩

theorem perform_signs {α : Type} {act : Act α} (within : Within Told act) (s : System)
    (actor : Actor) :
    Signs actor s (s.perform actor act).2 := by
  obtain ⟨deeds, added, course⟩ := within { s.network with history := [] }
  have all : ((act.run { s.network with history := [] }).2).history = deeds := by
    rw [added, List.append_nil]
  have blank : Course [] s.network { s.network with history := [] } :=
    (Course.refl s.network).noted s.network.waits s.network.log []
  have whole := blank.trans course
  rw [List.append_nil] at whole
  refine ⟨deeds, ?_, whole⟩
  rw [← all]
  rfl

theorem begin_signs (s : System) (c : Nat) (op : Operation) :
    Signs (.call c s.tasks.length) s (s.begin c op) := by
  unfold System.begin
  split
  · exact perform_signs (told_calling.within_start c op) s _
  · exact signs_rest _ s

theorem drop_signs (s : System) (c : Nat) : Signs (.call c s.tasks.length) s (s.drop c) := by
  unfold System.drop
  split
  · exact begin_signs s c .dispose
  · exact signs_rest _ s

theorem proceed_signs (s : System) {k c : Nat} {stage : Stage}
    (found : s.tasks[k]? = some ⟨c, stage⟩) {go : Nat → Stage → Act Stage}
    (within : ∀ c stage, Within Told (go c stage)) :
    Signs (.call c k) s (s.proceed k go) := by
  unfold System.proceed
  rw [found]
  dsimp only
  split
  · exact signs_rest _ s
  · exact perform_signs (within c stage) s _

theorem go_told (e : Event) (c : Nat) (stage : Stage) : Within Told (e.go c stage) := by
  cases e with
  | resume => exact told_calling.within_resumeStage c stage
  | suspend => exact told_calling.within_suspend stage
  | conclude k outcome => exact told_calling.within_conclude outcome stage
  | abandon => exact told_calling.within_abandon stage
  | newController | begin | drop | outside => exact told_calling.refl

theorem step_signs (s : System) {e : Event} {k c : Nat} {stage : Stage} (own : e.call? = some k)
    (found : s.tasks[k]? = some ⟨c, stage⟩) : Signs (.call c k) s (s.step e) := by
  rw [step_own own]
  exact proceed_signs s found (go_told e)

theorem perform_silent {α : Type} {act : Act α} (quiet : Quiet act) (s : System) (actor : Actor) :
    (s.perform actor act).2.history = s.history :=
  congrArg Ledger.history (quiet s.history actor { s.network with history := [] })

theorem outside_signs (s : System) (o : Outside) :
    Signs .outside s (s.step (.outside o)) ∨ (s.step (.outside o)).history = s.history := by
  have silent (quiet : Quiet o.act) : (s.step (.outside o)).history = s.history :=
    perform_silent quiet s _
  cases o with
  | «open» ref => exact .inl (perform_signs (told_openNow ref) s _)
  | close ref => exact .inl (perform_signs (told_closeNow ref) s _)
  | abort ref => exact .inl (perform_signs (told_abort ref) s _)
  | shutdown ref alwaysAbort =>
      exact .inl (perform_signs (told_calling.within_shutdownChannel ref alwaysAbort) s _)
  | create => exact .inl (perform_signs told_create s _)
  | call ref method =>
      exact .inr (silent (quiet_bind (quiet_call ref method) fun _ => quiet_pure ()))
  | force ref state => exact .inr (silent (quiet_force ref state))
  | cancel token => exact .inr (silent (quiet_cancel token))
  | failOpen ref e | failClose ref e | failCall ref e | delay ref e =>
      exact .inr (silent (quiet_modifyChannel ref _))
  | failNextOpen | failCloses | delayHandshakes | stamp | elapse | settleTies => exact .inr rfl

theorem step_signed (s : System) (e : Event) :
    (∃ actor, Signs actor s (s.step e)) ∨ e = .newController ∨
      ∃ o, e = .outside o ∧ (s.step e).history = s.history := by
  have goes {k : Nat} (own : e.call? = some k) : ∃ actor, Signs actor s (s.step e) := by
    cases found : s.tasks[k]? with
    | none =>
        have rests : s.step e = s := by simp [step_own own, System.proceed, found]
        exact ⟨.call 0 k, rests.symm ▸ signs_rest _ s⟩
    | some task => exact ⟨_, step_signs s own found⟩
  cases e with
  | newController => exact .inr (.inl rfl)
  | begin c op => exact .inl ⟨_, begin_signs s c op⟩
  | drop c => exact .inl ⟨_, drop_signs s c⟩
  | resume | suspend | conclude | abandon => exact .inl (goes rfl)
  | outside o => exact (outside_signs s o).imp (⟨_, ·⟩) fun silent => .inr ⟨o, rfl, silent⟩

/-- A shutdown that did nothing to a channel found it closed, at the step of the run that tells of
it. -/
theorem run_spared_closed (address : String) (events : List Event) {actor : Actor}
    {ref : ChannelRef} (told : ⟨actor, .spared ref⟩ ∈ (run address events).history) :
    ∃ past e rest deeds later n, events = past ++ e :: rest ∧
      (run address (past ++ [e])).history =
        sign actor (later ++ .spared ref :: deeds) ++ (run address past).history ∧
      Course deeds (run address past).network n ∧ (n.channel ref).state = .closed := by
  induction events using List.reverseRecOn with
  | nil => cases told
  | append_singleton events e ih =>
      by_cases early : ⟨actor, .spared ref⟩ ∈ (run address events).history
      · obtain ⟨past, first, rest, deeds, later, n, rfl, found⟩ := ih early
        exact ⟨past, first, rest ++ [e], deeds, later, n, by simp, found⟩
      rw [run_snoc] at told
      have silent (same : ((run address events).step e).history = (run address events).history) :
          False := early (same ▸ told)
      rcases step_signed (run address events) e with
        ⟨signer, deeds, added, course⟩ | rfl | ⟨_, rfl, same⟩
      · rw [added] at told
        obtain ⟨deed, member, signed⟩ :=
          List.mem_map.mp ((List.mem_append.mp told).resolve_right early)
        cases signed
        obtain ⟨later, earlier, n, rfl, way, closed⟩ := course.spared_closed member
        exact ⟨events, e, [], earlier, later, n, rfl, by rw [run_snoc, added], way, closed⟩
      · exact (silent rfl).elim
      · exact (silent same).elim

end

end RemoteClient.Interleaving
