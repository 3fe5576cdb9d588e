import RemoteClient.Proofs.Interleaving.Tenure

namespace RemoteClient.Interleaving

namespace Tenure

variable (t : Tenure) {events : List Event} {i : Invocation}

theorem conclude_ends (polled : t.At events (.operating i true)) (outcome : Scenario.Outcome) :
    t.At (events ++ [.conclude t.call outcome]) (.ended (.operated outcome)) :=
  (t.own_advances (e := .conclude t.call outcome) polled rfl rfl).2.1

theorem fails_torn_down (polled : t.At events (.operating i true)) (failure : Scenario.Failure) :
    t.TornDown (events ++ [.conclude t.call (.error failure)]) :=
  (t.torn_down_end (e := .conclude t.call (.error failure)) polled rfl rfl).2

theorem abandon_ends {polled : Bool} (running : t.At events (.operating i polled)) :
    t.At (events ++ [.abandon t.call]) (.ended .abandoned) ∧
      t.TornDown (events ++ [.abandon t.call]) :=
  t.torn_down_end (e := .abandon t.call) running rfl rfl

theorem succeeds_quietly (polled : t.At events (.operating i true)) (value : Scenario.Value) :
    (t.after (events ++ [.conclude t.call (.ok value)])).network = (t.after events).blank ∧
      t.done (events ++ [.conclude t.call (.ok value)]) = t.done events := by
  have ended := t.own_advances (e := .conclude t.call (.ok value)) polled rfl rfl
  exact ⟨ended.1, ended.2.2⟩

theorem conclude_torn_down (polled : t.At events (.operating i true)) (seen : t.Cancelled events)
    (outcome : Scenario.Outcome) :
    t.TornDown events ∧ t.TornDown (events ++ [.conclude t.call outcome]) := by
  cases t.guarded_at polled with
  | armed unseen => exact absurd seen unseen
  | spent _ _ torn =>
      cases outcome with
      | error failure => exact ⟨torn, t.fails_torn_down polled failure⟩
      | ok value => exact ⟨torn, torn.lasts (t.succeeds_quietly polled value).2⟩

theorem rests_apart {stage : Stage} (standing : t.At events stage) {others : List Event}
    (apart : ∀ e ∈ others, e.call? ≠ some t.call) : t.At (events ++ others) stage := by
  induction others using List.reverseRecOn with
  | nil => simpa using standing
  | append_singleton others e ih =>
      have before := ih fun other member => apart other (List.mem_append_left _ member)
      have rests := step_rests (List.getElem?_eq_some_iff.mp before).1 (apart e (by simp))
      rw [← t.after_snoc, List.append_assoc] at rests
      exact rests.task.trans before

theorem polled_again (polled : t.At events (.operating i true)) {others : List Event}
    (apart : ∀ e ∈ others, e.call? ≠ some t.call) :
    ∃ j, t.At (events ++ .suspend t.call :: others ++ [.resume t.call]) (.operating j true) := by
  have waits : t.At (events ++ [.suspend t.call]) (.operating i false) :=
    (t.own_advances (e := .suspend t.call) polled rfl rfl).2.1
  have still := t.rests_apart waits apart
  rw [List.append_assoc] at still
  obtain ⟨j, again, _⟩ := t.guarded_resume still (t.guarded_at still)
  exact ⟨j, again⟩

end Tenure

theorem step_cancel (s : System) (token : String) : s.step (.outside (.cancel token)) =
    { s with network := { s.blank with cancelled := s.network.cancelled.insert token } } := by
  have ran : (Act.cancel token).run s.blank =
      ((), { s.blank with cancelled := s.network.cancelled.insert token }) := by
    change ((), if s.network.cancelled.contains token then s.blank else _) = _
    by_cases known : token ∈ s.network.cancelled <;> simp [System.blank, known]
  simp only [System.step, System.perform, Outside.act]
  rw [show { s.network with history := [] } = s.blank from rfl, ran]
  rfl

theorem cancellation_aborts_own_channel (t : Tenure) (token : String) (given : t.token = some token)
    (events later : List Event) (i : Invocation) (outcome : Scenario.Outcome)
    (polled : t.At events (.operating i true)) :
    (token ∈ t.network.cancelled → t.TornDown []) ∧
      (t.Cancelled events →
        t.TornDown events ∧ t.TornDown (events ++ .conclude t.call outcome :: later) ∧
          (∀ others, (∀ e ∈ others, e.call? ≠ some t.call) →
            ∃ j, t.At (events ++ .suspend t.call :: others ++ [.resume t.call])
              (.operating j true)) ∧
          ∀ method latency begun,
            ((Call.poll (.ofEndpoint t.channel) method latency begun).run
              (t.after events).network).1 = .done (.error .aborted)) ∧
      t.At (events ++ .conclude t.call outcome :: later) (.ended (.operated outcome)) ∧
      t.Spares (events ++ .conclude t.call outcome :: later) ∧
      t.done (events ++ .conclude t.call outcome :: later) =
        t.done (events ++ [.conclude t.call outcome]) ∧
      (t.after (events ++ .conclude t.call outcome :: later)).step (.outside (.cancel token)) =
        { t.after (events ++ .conclude t.call outcome :: later) with
          network := { (t.after (events ++ .conclude t.call outcome :: later)).blank with
            cancelled :=
              (t.after (events ++ .conclude t.call outcome :: later)).network.cancelled.insert
                token } } := by
  have ends := t.conclude_ends polled outcome
  have lasts := t.ended_lasts ends later
  have joined : events ++ [.conclude t.call outcome] ++ later =
    events ++ .conclude t.call outcome :: later := by
    simp
  rw [joined] at lasts
  refine ⟨?prompt, ?seen, lasts.1, t.spares _, lasts.2, step_cancel _ token⟩
  case prompt =>
    intro found
    obtain ⟨j, _, guarded⟩ := t.guarded_entry
    cases guarded with
    | armed unseen => exact absurd ⟨token, given, .inl found⟩ unseen
    | spent _ _ torn => exact torn
  case seen =>
    intro seen
    obtain ⟨torn, after⟩ := t.conclude_torn_down polled seen outcome
    have last := after.after_end ends later
    rw [joined] at last
    exact ⟨torn, last, fun _ apart => t.polled_again polled apart, Call.poll_aborted torn.aborted⟩

def Tenure.opened : Tenure where
  address := "mem://a"
  earlier := [.newController, .begin 0 (.invokeAsync (some "stop"))]
  entry := .resume 0
  controller := 0
  call := 0
  channel := 1
  token := some "stop"
  network := ((Act.resumeAcquire 0 (.opening 1 .turn)).run
    (run "mem://a" [.newController, .begin 0 (.invokeAsync (some "stop"))]).blank).2
  returns := .resumed rfl rfl

/-- While its operation waits, channel 1 faults and another call puts channel 2 in its place. Then
its token is cancelled. -/
def Tenure.interrupted : List Event :=
  [.suspend 0, .outside (.force (.ofEndpoint 1) .faulted), .begin 0 .acquire,
    .outside (.cancel "stop"), .resume 0]

theorem overtaken_call_cancelled :
    Tenure.opened.At Tenure.interrupted (.operating ⟨0, 1, false, none⟩ true) ∧
      Tenure.opened.Cancelled Tenure.interrupted ∧ Tenure.opened.TornDown Tenure.interrupted ∧
      Keeps (Tenure.opened.after Tenure.interrupted).network 0 2 := by
  have polled : Tenure.opened.At Tenure.interrupted (.operating ⟨0, 1, false, none⟩ true) := rfl
  have seen : Tenure.opened.Cancelled Tenure.interrupted :=
    ⟨"stop", rfl,
      .inr ⟨Tenure.interrupted.take 4, [], .start 0 1 (some "stop"), rfl, rfl, by decide⟩⟩
  have comes := cancellation_aborts_own_channel Tenure.opened "stop" rfl Tenure.interrupted [] _
    (.error (.channel .aborted)) polled
  exact ⟨polled, seen, (comes.2.1 seen).1, by decide⟩

theorem failed_call_discards_own_channel (t : Tenure) (events later : List Event) (i : Invocation)
    (polled : Bool) (running : t.At events (.operating i polled)) :
    (∀ failure, polled = true →
        t.At (events ++ .conclude t.call (.error failure) :: later)
          (.ended (.operated (.error failure))) ∧
          t.TornDown (events ++ .conclude t.call (.error failure) :: later)) ∧
      (t.At (events ++ .abandon t.call :: later) (.ended .abandoned) ∧
        t.TornDown (events ++ .abandon t.call :: later)) ∧
      (∀ value, polled = true → ¬ t.Cancelled events →
        t.At (events ++ .conclude t.call (.ok value) :: later) (.ended (.operated (.ok value))) ∧
          t.done (events ++ .conclude t.call (.ok value) :: later) = t.past ∧
          (t.after (events ++ [.conclude t.call (.ok value)])).network = (t.after events).blank) ∧
      ∀ e, e.call? = some t.call → Spares t.controller t.channel (t.after events).network
        (t.after (events ++ [e])).network := by
  have joined (e : Event) : events ++ [e] ++ later = events ++ e :: later := by simp
  refine ⟨?fails, ?dropped, ?succeeds, ?spares⟩
  case fails =>
    rintro failure rfl
    have ends := t.conclude_ends running (.error failure)
    have torn := (t.fails_torn_down running failure).after_end ends later
    rw [joined] at torn
    exact ⟨joined _ ▸ (t.ended_lasts ends later).1, torn⟩
  case dropped =>
    obtain ⟨ends, torn⟩ := t.abandon_ends running
    exact ⟨joined _ ▸ (t.ended_lasts ends later).1, joined _ ▸ torn.after_end ends later⟩
  case succeeds =>
    rintro value rfl unseen
    have ends := t.conclude_ends running (.ok value)
    obtain ⟨finished, still⟩ := t.ended_lasts ends later
    obtain ⟨network, quiet⟩ := t.succeeds_quietly running value
    rw [joined] at finished still
    cases t.guarded_at running with
    | armed _ _ idle => exact ⟨finished, still.trans (quiet.trans idle), network⟩
    | spent seen => exact absurd seen unseen
  case spares =>
    intro e own
    exact (t.spares (events ++ [e])).2 events e [] rfl own

def Tenure.overtaken : List Event :=
  [.suspend 0, .outside (.force (.ofEndpoint 1) .faulted), .begin 0 .acquire, .resume 0]

theorem overtaken_call_fails :
    Tenure.opened.At Tenure.overtaken (.operating (.start 0 1 (some "stop")) true) ∧
      Tenure.opened.TornDown (Tenure.overtaken ++ [.conclude 0 (.error (.app "no"))]) ∧
      Keeps (Tenure.opened.after (Tenure.overtaken ++ [.conclude 0 (.error (.app "no"))])).network
        0 2 := by
  have running : Tenure.opened.At Tenure.overtaken (.operating (.start 0 1 (some "stop")) true) :=
    rfl
  have comes := failed_call_discards_own_channel Tenure.opened Tenure.overtaken [] _ true running
  exact ⟨running, (comes.1 (.app "no") rfl).2, by decide⟩

end RemoteClient.Interleaving
