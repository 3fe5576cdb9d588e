import RemoteClient.Proofs.Agreement.Blocking

namespace RemoteClient.Scenario

def Play.Aloof {α : Type} (p : Play α) : Prop := ∀ w holders,
  (p.run w).2.holders = w.holders ∧
    p.run { w with holders := holders } = ((p.run w).1, { (p.run w).2 with holders := holders })

namespace Play

section

variable {α β : Type} {w : World} {c : Nat}

theorem aloof_pure (a : α) : Aloof (pure a) := fun _ _ => ⟨rfl, rfl⟩

theorem aloof_bind {p : Play α} {f : α → Play β} (first : Aloof p) (second : ∀ a, Aloof (f a)) :
    Aloof (p >>= f) := by
  intro w holders
  obtain ⟨kept, same⟩ := first w holders
  obtain ⟨kept', same'⟩ := second (p.run w).1 (p.run w).2 holders
  refine ⟨kept'.trans kept, ?_⟩
  rw [run_bind, same, run_bind, same']

theorem aloof_onNetwork (act : Act α) : Aloof (onNetwork act) := fun _ _ => ⟨rfl, rfl⟩

theorem aloof_afterAcquire (result : Except Channel.Error Nat) : Aloof (afterAcquire result) := by
  cases result <;> exact fun _ _ => ⟨rfl, rfl⟩

theorem modify_back (holders : List Holder) (c : Nat) :
    (holders.modify c fun h => { h with uses := h.uses + 1 }).modify c
        (fun h => { h with uses := h.uses - 1 }) =
      holders := by
  apply List.ext_getElem?
  intro k
  by_cases same : c = k
  · cases found : holders[k]? <;> simp [same, found]
  · simp [same]

theorem run_release (kept : ((hasController c).run w).1 = true) :
    (release c).run
      { w with holders := w.holders.modify c fun h => { h with uses := h.uses + 1 } } =
        ((), w) := by
  have lowered : (modifyHolder c fun h => { h with uses := h.uses - 1 }).run
      { w with holders := w.holders.modify c fun h => { h with uses := h.uses + 1 } } =
        ((), w) := by
    change ((), { w with holders := (w.holders.modify c _).modify c _ }) = _
    rw [modify_back]
  rw [release, run_bind, lowered, disposeUnused, run_get]
  change ((w.holders[c]?.map (·.kept)).getD false) = true at kept
  cases found : w.holders[c]? with
  | none => rfl
  | some h =>
      have held : h.kept = true := by simpa [found] using kept
      simp only [held]
      rfl

/-- A controller whose handle is kept can be held for the time of an operation: that changes
nothing. -/
theorem run_held {p : Play α} (aloof : Aloof p) {c : Nat}
    (kept : ((hasController c).run w).1 = true) :
    (do
      hold c
      let a ← p
      release c
      return a).run w = p.run w := by
  obtain ⟨same, ran⟩ := aloof w (w.holders.modify c fun h => { h with uses := h.uses + 1 })
  have still : ((hasController c).run (p.run w).2).1 = true := by
    change (((p.run w).2.holders[c]?.map (·.kept)).getD false) = true
    rw [same]
    exact kept
  have let_go := run_release still
  rw [same] at let_go
  change (do
    let a ← p
    release c
    return a).run { w with holders := w.holders.modify c _ } = _
  rw [run_bind, ran, run_bind]
  dsimp only
  rw [let_go]
  rfl

end

end Play

@[simp] theorem contain_contain (outcome : Outcome) :
    contain (contain outcome) = contain outcome := by
  rcases outcome with failure | value
  · cases failure <;> rfl
  · rfl

/-- The first computation is done at once, the second is driven to its end, and both come to the
same. -/
def Agree (p q : Play (Progress Suspended Outcome)) (w v : World) : Prop := ∀ fuel, ∃ outcome u t,
  p.run w = (.done outcome, u) ∧
    (do Play.drive (fuel + 3) (← Play.settleMain (← q))).run v =
      (some (contain outcome), t.free) ∧ Twins u t

section

variable {p q p' q' : Play (Progress Suspended Outcome)} {w v w' v' : World} {c : Nat}

theorem agree_run (agree : Agree p' q' w' v') (left : p.run w = p'.run w')
    (right : q.run v = q'.run v') :
    Agree p q w v := by
  intro fuel
  obtain ⟨outcome, u, t, ran, driven, twins⟩ := agree fuel
  refine ⟨outcome, u, t, left.trans ran, ?_, twins⟩
  rw [Play.run_bind, right]
  exact driven

theorem agree_settles (settles : Settles p q w v) : Agree p q w v := by
  intro fuel
  obtain ⟨outcome, u, t, ran, ran', twins⟩ := settles
  refine ⟨outcome, u, t, ran, ?_, twins⟩
  rw [Play.run_bind, ran']
  exact Play.drive_done twins.right (contain outcome) (fuel + 2)

theorem agree_contain (agree : Agree p q w v) :
    Agree (do return CallForm.blocking.settle (← p)) q w v := by
  intro fuel
  obtain ⟨outcome, u, t, ran, driven, twins⟩ := agree fuel
  refine ⟨contain outcome, u, t, ?_, ?_, twins⟩
  · rw [Play.run_bind, ran]
    rfl
  · rw [contain_contain]
    exact driven

theorem agree_asked (twins : Twins w v)
    (agree : ((Play.hasController c).run w).1 = true → Agree p q w v) :
    Agree (do if ← Play.hasController c then p else Play.fail .noController)
      (do if ← Play.hasController c then q else Play.fail .noController) w v := by
  obtain ⟨same, _⟩ := Play.steady_hasController c w v twins
  have left : (Play.hasController c).run w = (((Play.hasController c).run w).1, w) := rfl
  have right : (Play.hasController c).run v = (((Play.hasController c).run w).1, v) :=
    Prod.ext same.symm rfl
  cases kept : ((Play.hasController c).run w).1 with
  | true =>
      apply agree_run (agree kept)
      · rw [Play.run_bind, left, kept]
        rfl
      · rw [Play.run_bind, right, kept]
        rfl
  | false =>
      apply agree_run (agree_settles (settles_done twins (.error .noController)))
      · rw [Play.run_bind, left, kept]
        rfl
      · rw [Play.run_bind, right, kept]
        rfl

end

theorem agree_carried {S R : Type} {form : Act.Form S R} (carrier : Carrier form) {blocking : Act R}
    {start : Act (Progress S R)} (begins : ∀ {n}, n.Tidy → Act.Begins form blocking n (start.run n))
    (steady : Play.Steady (Play.onNetwork blocking)) {w v : World} (twins : Twins w v)
    (settle : R → Play (Progress Suspended Outcome))
    (settles : ∀ t, Twins ((Play.onNetwork blocking).run w).2 t →
      Settles (settle ((Play.onNetwork blocking).run w).1)
        (carrier.settle (.done ((Play.onNetwork blocking).run w).1))
        ((Play.onNetwork blocking).run w).2 t) :
    Agree (do settle (← Play.onNetwork blocking))
      (do carrier.settle (← Play.onNetwork start)) w v := by
  intro fuel
  obtain ⟨same, after⟩ := steady w v twins
  obtain ⟨n, main, able, rest, alike, drives⟩ :=
    carrier.drive_form (begins twins.symm.tidy) twins.right fuel
  have both := after.networks (after.network.trans alike) after.tidy w.main main w.mainReady able
  obtain ⟨outcome, u, t, ended, ended', last⟩ := settles _ both
  refine ⟨outcome, u, t, ended, drives.trans ?_, last⟩
  have given : (blocking.run v.network).1 = ((Play.onNetwork blocking).run w).1 := same.symm
  have settled : (carrier.settle (.done (blocking.run v.network).1)).run
      { v with network := n, main := main, mainReady := able } = (.done outcome, t) :=
        given ▸ ended'
  rw [Play.run_bind, settled]
  exact Play.drive_done last.right (contain outcome) rest

namespace Step

/-- The same step, or the same operation in a form that waits. -/
inductive Variant : Step → Step → Prop
  | same (step : Step) : Variant step step
  | acquire (c : Nat) : Variant (.controller c .acquire) (.controllerWait c .acquire)
  | shutdown (c : Nat) (alwaysAbort : Bool) :
      Variant (.controller c (.shutdown alwaysAbort)) (.controllerWait c (.shutdown alwaysAbort))
  | dispose (c : Nat) : Variant (.controller c .dispose) (.controllerWait c .dispose)
  | invoke (c : Nat) (form : CallForm) (body : List Step) (ending : Ending) :
      Variant (.invoke c .blocking body ending) (.invoke c form body ending)

variable {w v : World}

theorem wait_agrees {S R : Type} {form : Act.Form S R} (carrier : Carrier form) {blocking : Act R}
    {start : Act (Progress S R)} (begins : ∀ {n}, n.Tidy → Act.Begins form blocking n (start.run n))
    (steady : Play.Steady (Play.onNetwork blocking)) {c : Nat} {p : Play Outcome} (aloof : p.Aloof)
    (settles : (do carrier.settle (.done (← Play.onNetwork blocking))) = (do Play.endUse c (← p)))
    (finishes : ∀ result {u t : World}, Twins u t →
      Settles (carrier.settle (.done result)) (carrier.settle (.done result)) u t)
    (twins : Twins w v) :
    Agree (do if ← Play.hasController c then Play.finished (← p) else Play.fail .noController)
      (do
        if ← Play.hasController c then
          Play.hold c
          carrier.settle (← Play.onNetwork start)
        else Play.fail .noController) w v := by
  apply agree_asked twins
  intro kept
  obtain ⟨_, held⟩ := Play.steady_modifyHolder c (fun h => { h with uses := h.uses + 1 }) w v twins
  have agree :=
    agree_carried carrier begins steady held (fun result => carrier.settle (.done result))
    fun _ both => finishes _ both
  rw [settles] at agree
  apply agree_run agree
  · rw [Play.run_bind, ← Play.run_held aloof kept]
    rfl
  · rfl

theorem call_agrees {c : Nat} {body : List Step} (token : Option String) (ending : Ending)
    (blocks : Step.allBlock body) (twins : Twins w v)
    (spares : (Step.invoke c .blocking body ending).sparesAborted none w) :
    Agree (do
        if ← Play.hasController c then
          Play.hold c
          let acquired ← Play.onNetwork (Play.beginCall c .blocking)
          return CallForm.blocking.settle (← Play.enter c none body ending
            (fun id => startAll id (.ok .nothing) body) acquired)
        else Play.fail .noController)
      (do
        if ← Play.hasController c then
          Play.hold c
          Play.enter c token body ending (fun id => startAll id (.ok .nothing) body)
            (← Play.onNetwork (Act.startAcquire c))
        else Play.fail .noController) w v := by
  apply agree_asked twins
  intro kept
  obtain ⟨_, held⟩ := Play.steady_modifyHolder c (fun h => { h with uses := h.uses + 1 }) w v twins
  have agree := agree_carried (Carrier.entering c token body ending) Act.startAcquire_begins
    (Play.steady_acquire c) held fun acquired =>
      Play.enter c none body ending (fun id => startAll id (.ok .nothing) body) (.done acquired)
  apply agree_run (agree_contain (agree ?_))
  · rfl
  · rfl
  · intro t both
    apply settles_enter both c token body ending
    intro id reached t both
    exact startAll_settles id (.ok .nothing) body blocks _ t both (spares_body kept reached spares)

theorem variant_agrees {step other : Step} (variant : Variant step other) (blocks : step.blocks)
    (twins : Twins w v) (spares : step.sparesAborted none w) :
    Agree (step.start none) (other.start none) w v := by
  have same := agree_settles (start_settles none step blocks w v twins spares)
  cases variant with
  | same => exact same
  | acquire c =>
      have aloof : Play.Aloof (do Play.afterAcquire (← Play.onNetwork (Act.acquire c))) :=
        Play.aloof_bind (Play.aloof_onNetwork _) Play.aloof_afterAcquire
      apply wait_agrees (Carrier.acquiring c) Act.startAcquire_begins
        (Play.steady_acquire c) aloof rfl
      · exact fun result _ _ both =>
          settles_bind (Play.steady_afterAcquire result) both fun outcome _ _ after =>
            settles_endUse after c outcome
      · exact twins
  | shutdown c alwaysAbort =>
      have aloof : Play.Aloof (do return ofUnit (← Play.onNetwork (Act.shutdown c alwaysAbort))) :=
        Play.aloof_bind (Play.aloof_onNetwork _) fun _ => Play.aloof_pure _
      apply wait_agrees (Carrier.shuttingDown c) (Act.startShutdown_begins · alwaysAbort)
        (Play.steady_shutdown c alwaysAbort) aloof rfl
      · exact fun result _ _ both => settles_endUse both c (ofUnit result)
      · exact twins
  | dispose c =>
      have aloof : Play.Aloof (do
          Play.onNetwork (Act.dispose c)
          Play.succeed .nothing) := Play.aloof_bind (Play.aloof_onNetwork
            _) fun _ => Play.aloof_pure _
      apply wait_agrees (Carrier.disposing c) (Act.startShutdown_begins · false)
        (Play.steady_shutdown c false) aloof rfl
      · intro result u t both
        have notes : Play.Steady (Play.onNetwork (Act.noteIgnored result)) :=
          Play.steady_onNetwork (Act.timeless_noteIgnored result)
            (Network.tidy_calling.within_noteIgnored result)
        exact settles_bind notes both fun _ _ _ after => settles_endUse after c (.ok .nothing)
      · exact twins
  | invoke c form body ending =>
      have all : Step.allBlock body := by simpa [Step.blocks] using blocks
      cases form with
      | blocking => exact same
      | awaited => exact call_agrees none ending all twins spares
      | cancellable token => exact call_agrees (some token) ending all twins spares

end Step

end RemoteClient.Scenario
