import RemoteClient.Proofs.Interleaving.Courses
import RemoteClient.Proofs.Interleaving.Reuse
import RemoteClient.Proofs.Network.Faults
import Mathlib.Data.List.Perm.Subperm

/-!
The endpoint's books along a run. Calls, and whoever else creates, opens and closes channels, take
the errors that were told the endpoint in any order; each error still comes to the channels it was
told for, and to no others.
-/

namespace RemoteClient.Interleaving

namespace Event

def failsNextOpen? : Event → Option Channel.Error
  | .outside (.failNextOpen e) => some e
  | _ => none

def failsCloses? : Event → Option Channel.Error
  | .outside (.failCloses e) => some e
  | _ => none

/-- Somebody tells a single channel of the endpoint to fail its opens or closes. -/
def isDirect : Event → Bool
  | .outside (.failOpen (.ofEndpoint _) _) | .outside (.failClose (.ofEndpoint _) _) => true
  | _ => false

end Event

/-- What the endpoint is told on a run, oldest first. -/
def injections (told : Event → Option Channel.Error) (s : System) : List Event → List Injection
  | [] => []
  | e :: rest =>
    ((told e).map (Injection.mk (s.network.endpoint.channels.length + 1))).toList ++
      injections told (s.step e) rest

def openInjections (address : String) (events : List Event) : List Injection :=
  injections Event.failsNextOpen? (.start address) events

def closeInjections (address : String) (events : List Event) : List Injection :=
  injections Event.failsCloses? (.start address) events

namespace System

def deeds (s : System) : List Deed := s.history.map (·.deed)

/-- The acquire of the call failed with the error, after the channel was created for it. -/
def FailsOn (s : System) (k id : Nat) (e : Channel.Error) : Prop :=
  ∃ c stage, s.tasks[k]? = some ⟨c, stage⟩ ∧ stage.acquireError? = some e ∧
    s.ledger.Did (.call c k) (.created id)

end System

section

variable {told : Event → Option Channel.Error} {s : System}

theorem injections_append (told : Event → Option Channel.Error) (s : System)
    (events more : List Event) :
    injections told s (events ++ more) =
      injections told s events ++ injections told (events.foldl .step s) more := by
  induction events generalizing s with
  | nil => rfl
  | cons e rest ih => simp [injections, ih]

theorem injections_length (told : Event → Option Channel.Error) (s : System) (events : List Event) :
    (injections told s events).length = (events.filterMap told).length := by
  induction events generalizing s with
  | nil => rfl
  | cons e rest ih =>
      cases tells : told e with
      | none => simp [injections, tells, ih]
      | some error => simp [injections, tells, ih]

theorem injections_untold {e : Event} (untold : told e = none) (events : List Event) :
    injections told s (events ++ [e]) = injections told s events := by
  simp [injections_append, injections, untold]

theorem openInjections_snoc (address : String) (events : List Event) (error : Channel.Error) :
    openInjections address (events ++ [.outside (.failNextOpen error)]) =
      openInjections address events ++
      [⟨(run address events).network.endpoint.channels.length + 1, error⟩] :=
  injections_append ..

theorem closeInjections_snoc (address : String) (events : List Event) (error : Channel.Error) :
    closeInjections address (events ++ [.outside (.failCloses error)]) =
      closeInjections address events ++
      [⟨(run address events).network.endpoint.channels.length + 1, error⟩] :=
  injections_append ..

end

/-! ## What a run keeps -/

def Booked (opens closes : List Injection) (s : System) : Prop :=
  s.network.endpoint.Exact opens closes s.deeds

section

variable {opens closes : List Injection} {deeds past : List Deed} {deed : Deed} {n m : Network}
    {s after : System}
variable {actor : Actor}

theorem happens_exact (happens : Happens deed n m) (exact : n.endpoint.Exact opens closes past) :
    m.endpoint.Exact opens closes (deed :: past) := by
  cases happens with
  | created => exact exact.create
  | opened _ ref => exact Network.exact_openNow exact ref
  | closed _ ref =>
      refine Network.exact_kept exact (Channel.closeNow_id _) ?_ (Channel.closeNow_opens _)
        (by simp) fun id => ?_
      · simp
      · exact Deed.openResults_other (by simp) (by simp)
  | aborted _ ref =>
      exact Network.exact_kept exact rfl ⟨rfl, rfl⟩ rfl rfl fun id =>
        Deed.openResults_other nofun rfl
  | spared | installed | removed =>
      exact exact.silent rfl fun id => Deed.openResults_other nofun rfl

theorem course_exact (course : Course deeds n m) (exact : n.endpoint.Exact opens closes past) :
    m.endpoint.Exact opens closes (deeds ++ past) := by
  induction course with
  | refl => exact exact
  | noted _ _ _ _ ih => exact ih exact
  | deed _ happens ih => exact happens_exact happens (ih exact)

theorem signs_booked (signs : Signs actor s after) (booked : Booked opens closes s) :
    Booked opens closes after := by
  obtain ⟨deeds, added, course⟩ := signs
  have all : after.deeds = deeds ++ s.deeds := by
    simp [System.deeds, added, sign, Function.comp_def]
  unfold Booked
  rw [all]
  exact course_exact course booked

theorem perform_told {act : Act Unit} (told : Within Told act) (booked : Booked opens closes s) :
    Booked opens closes (s.perform .outside act).2 :=
  signs_booked (perform_signs told s .outside) booked

theorem perform_quiet {act : Act Unit} (quiet : Quiet act)
    (exact : (act.run s.blank).2.endpoint.Exact opens closes s.deeds) :
    Booked opens closes (s.perform .outside act).2 := by
  unfold Booked System.deeds
  rw [perform_silent quiet]
  exact exact

theorem modify_booked {ref : ChannelRef} {f : Channel → Channel} (named : ∀ ch, (f ch).id = ch.id)
    (faults : ∀ ch, (f ch).faults.openError = ch.faults.openError ∧
      (f ch).faults.closeError = ch.faults.closeError) (count : ∀ ch, (f ch).opens = ch.opens)
    (booked : Booked opens closes s) :
    Booked opens closes (s.perform .outside (Act.modifyChannel ref f)).2 :=
  perform_quiet (quiet_modifyChannel ref f)
    (Network.exact_kept (n := s.blank) booked (named _) (faults _) (count _) rfl fun _ => rfl)

theorem outside_booked (o : Outside) (indirect : (Event.outside o).isDirect = false)
    (noOpen : (Event.outside o).failsNextOpen? = none)
    (noClose : (Event.outside o).failsCloses? = none) (booked : Booked opens closes s) :
    Booked opens closes (s.step (.outside o)) := by
  cases o with
  | «open» ref => exact perform_told (told_openNow ref) booked
  | close ref => exact perform_told (told_closeNow ref) booked
  | abort ref => exact perform_told (told_abort ref) booked
  | shutdown ref alwaysAbort =>
      exact perform_told (told_calling.within_shutdownChannel ref alwaysAbort) booked
  | create => exact perform_told told_create booked
  | force ref state =>
      have put : (s.blank.putChannel ref ((s.blank.channel ref).force state)).endpoint.Exact
          opens closes s.deeds :=
        Network.exact_kept booked rfl ⟨rfl, rfl⟩ rfl rfl fun _ => rfl
      refine perform_quiet (quiet_force ref state) ?_
      cases ref <;> exact put
  | call ref method =>
      refine perform_quiet (quiet_bind (quiet_call ref method) fun _ => quiet_pure ()) ?_
      obtain ⟨log, history, ran⟩ := Act.run_call ref method s.blank
      change ((Act.call ref method).run s.blank).2.endpoint.Exact opens closes s.deeds
      rw [ran]
      exact Network.exact_kept (n := s.blank) booked (Channel.call_same _ method).1 (by simp)
        (by simp) rfl
        fun _ => rfl
  | failOpen ref e =>
      cases ref with
      | ofEndpoint => cases indirect
      | standalone => exact booked
  | failClose ref e =>
      cases ref with
      | ofEndpoint => cases indirect
      | standalone => exact booked
  | failCall ref e => exact modify_booked (fun _ => rfl) (fun _ => ⟨rfl, rfl⟩) (fun _ => rfl) booked
  | delay ref latency =>
      exact modify_booked (fun _ => rfl) (fun _ => ⟨rfl, rfl⟩) (fun _ => rfl) booked
  | failNextOpen => cases noOpen
  | failCloses => cases noClose
  | delayHandshakes latency => exact booked.delayHandshakes latency
  | cancel token =>
      refine perform_quiet (quiet_cancel token) ?_
      change (if s.blank.cancelled.contains token then s.blank
        else _ : Network).endpoint.Exact opens closes s.deeds
      split <;> exact booked
  | stamp | elapse | settleTies => exact booked

theorem step_booked (e : Event) (indirect : e.isDirect = false) (noOpen : e.failsNextOpen? = none)
    (noClose : e.failsCloses? = none) (booked : Booked opens closes s) :
    Booked opens closes (s.step e) := by
  rcases step_signed s e with ⟨_, signs⟩ | rfl | ⟨o, rfl, _⟩
  · exact signs_booked signs booked
  · exact booked
  · exact outside_booked o indirect noOpen noClose booked

theorem run_booked (address : String) (events : List Event)
    (indirect : ∀ e ∈ events, e.isDirect = false) :
    Booked (openInjections address events) (closeInjections address events)
      (run address events) := by
  induction events using List.reverseRecOn with
  | nil => exact .start address
  | append_singleton events e ih =>
      have booked := ih fun e member => indirect e (List.mem_append_left _ member)
      have last := indirect e (by simp)
      rw [run_snoc]
      cases noOpen : e.failsNextOpen? with
      | some error =>
          obtain rfl : e = .outside (.failNextOpen error) := by
            cases e with
            | outside o => cases o <;> simp_all [Event.failsNextOpen?]
            | _ => cases noOpen
          have untold : closeInjections address (events ++ [.outside (.failNextOpen error)]) =
            closeInjections address events := injections_untold rfl events
          rw [openInjections_snoc, untold]
          exact booked.failNextOpen error
      | none =>
          have noneOpened :
              openInjections address (events ++ [e]) = openInjections address events :=
            injections_untold noOpen events
          cases noClose : e.failsCloses? with
          | some error =>
              obtain rfl : e = .outside (.failCloses error) := by
                cases e with
                | outside o => cases o <;> simp_all [Event.failsCloses?]
                | _ => cases noClose
              rw [closeInjections_snoc, noneOpened]
              exact booked.failCloses error
          | none =>
              have noneClosed :
                  closeInjections address (events ++ [e]) = closeInjections address events :=
                injections_untold noClose events
              rw [noneOpened, noneClosed]
              exact step_booked e last noOpen noClose booked

end

/-! ## What becomes of the errors -/

section

variable {address : String} {events : List Event} {k j id : Nat} {e f : Channel.Error}

theorem step_grows {s : System} (sound : Sound s) (e : Event) :
    s.network.endpoint.channels.length ≤ (s.step e).network.endpoint.channels.length := by
  obtain ⟨_, _, moves, _⟩ := (step_follows sound e).moves
  exact moves_made moves

/-- What is told comes too late for the channels that are there. -/
theorem injections_later {s : System} (sound : Sound s) (told : Event → Option Channel.Error)
    (events : List Event) :
    ∀ i ∈ injections told s events, s.network.endpoint.channels.length < i.next := by
  induction events generalizing s with
  | nil => simp [injections]
  | cons e rest ih =>
      intro i member
      rcases List.mem_append.mp member with now | after
      · cases tells : told e with
        | none => simp [tells] at now
        | some error => simp [show i = ⟨_, error⟩ by simpa [tells] using now]
      · exact Nat.lt_of_le_of_lt (step_grows sound e) (ih (step_follows sound e).sound i after)

theorem failsOn_once (first : (run address events).FailsOn k id e)
    (second : (run address events).FailsOn j id f) :
    k = j := by
  obtain ⟨_, _, _, _, made⟩ := first
  obtain ⟨_, _, _, _, again⟩ := second
  cases (run_sound address events).standing.created_once made again
  rfl

/-- An acquire fails on a channel that was created for it, and its error is the one the channel
reported, or the channel was aborted before its open. -/
theorem acquire_failsOn {c : Nat} {stage : Stage}
    (found : (run address events).tasks[k]? = some ⟨c, stage⟩)
    (failed : stage.acquireError? = some e) :
    ∃ id, (run address events).FailsOn k id e ∧
      (e = .aborted ∨
        [.openFailed (.ofEndpoint id) e, .created id].Sublist (run address events).deeds) := by
  obtain ⟨t, later, rfl, rfl, rfl, stands, done, -⟩ := Career.traced found
  have acquires : t.op.acquires := by
    by_contra other
    have fine := (Career.brings_down stands other).2.1
    rw [failed] at fine
    cases fine
  obtain ⟨id, stale, _, opened | ⟨aborted, rfl, _⟩⟩ := Career.acquire_error acquires stands failed
  · refine ⟨id, ⟨t.controller, stage, found, failed, ?_⟩, .inr ?_⟩
    · exact mem_doneBy.mp (by simp [← done, opened])
    · have told :
          ((run t.address events).doneBy t.controller t.call).Sublist
            (run t.address events).deeds :=
        List.Sublist.map _ List.filter_sublist
      rw [← done, opened] at told
      have front : [.openFailed (.ofEndpoint id) e, .created id].Sublist
          (.aborted (.ofEndpoint id) :: .openFailed (.ofEndpoint id) e :: .created id ::
            stale) := by
        simp
      exact front.trans told
  · refine ⟨id, ⟨t.controller, stage, found, failed, ?_⟩, .inl rfl⟩
    exact mem_doneBy.mp (by simp [← done, aborted])

/-- The `k`-th acquire of a list fails on a channel of its own, so no more fail on injected errors
than were told. -/
theorem failing_le {opens : List Injection} {calls : List Nat} (distinct : calls.Nodup)
    (fail : ∀ k ∈ calls, ∃ id e, (run address events).FailsOn k id e ∧
      openErrorFor opens id ≠ none) :
    calls.length ≤ opens.length := by
  choose! target error fails given using fail
  have apart : (calls.map target).Nodup := by
    refine List.Nodup.map_on (fun k first j second same => ?_) distinct
    exact failsOn_once (fails k first) (same ▸ fails j second)
  have within : calls.map target ⊆ opens.map (·.next) := by
    intro id member
    obtain ⟨k, call, rfl⟩ := List.mem_map.mp member
    exact openErrorFor_target (given k call)
  calc
    calls.length = (calls.map target).length := (List.length_map ..).symm
    _ ≤ (opens.map (·.next)).length := (List.subperm_of_subset apart within).length_le
    _ = opens.length := List.length_map ..

/-- The books of the endpoint are right after a run, and stay so. -/
structure KeepsBooks (address : String) (events : List Event) : Prop where
  exact :
    Booked (openInjections address events) (closeInjections address events) (run address events)
  found : ∀ id, (run address events).network.endpoint.find? id =
    if id = 0 then none else (run address events).network.endpoint.channels[id - 1]?
  /-- Nothing that is told later concerns a channel that is there. -/
  settled : ∀ later, ∀ ch ∈ (run address events).network.endpoint.channels,
    openErrorFor (openInjections address (events ++ later)) ch.id =
      openErrorFor (openInjections address events) ch.id ∧
    closeErrorFor (closeInjections address (events ++ later)) ch.id =
      closeErrorFor (closeInjections address events) ch.id
  /-- An acquire fails on a channel of its own: with the error the channel was created with, or
  because somebody aborted the channel or did something else to it before it was opened. -/
  fails : ∀ {k c stage e}, (run address events).tasks[k]? = some ⟨c, stage⟩ →
    stage.acquireError? = some e →
    ∃ id, (run address events).FailsOn k id e ∧
      (openErrorFor (openInjections address events) id = some e ∨ e = .aborted ∨
        Channel.Answers none (.error e))
  once : ∀ {k j id e f}, (run address events).FailsOn k id e → (run address events).FailsOn j id f →
    k = j
  /-- So each open error that is told makes one acquire fail at most. -/
  bounded : ∀ {calls : List Nat}, calls.Nodup →
    (∀ k ∈ calls, ∃ id e, (run address events).FailsOn k id e ∧
      openErrorFor (openInjections address events) id ≠ none) →
    calls.length ≤ (events.filterMap Event.failsNextOpen?).length

theorem endpoint_keeps_books (address : String) (events : List Event)
    (indirect : ∀ e ∈ events, e.isDirect = false) : KeepsBooks address events := by
  have booked := run_booked address events indirect
  constructor
  case exact => exact booked
  case found => exact Endpoint.find_numbered booked.numbered
  case settled =>
    intro later ch member
    have known := Endpoint.numbered_le booked.numbered member
    have late (told : Event → Option Channel.Error) :
        ∀ i ∈ injections told (run address events) later, ch.id < i.next := fun i told =>
      Nat.lt_of_le_of_lt known (injections_later (run_sound address events) _ later i told)
    constructor
    · rw [openInjections, injections_append]
      exact openErrorFor_append (late _)
    · rw [closeInjections, injections_append]
      exact closeErrorFor_append (late _)
  case fails =>
    intro k c stage e found failed
    obtain ⟨id, fails, aborted | told⟩ := acquire_failsOn found failed
    · exact ⟨id, fails, .inr (.inl aborted)⟩
    · have reported := Deed.mem_openResults booked.created_once told
      have ⟨_, _, _, _, made⟩ := fails
      obtain ⟨ch, there⟩ := Option.isSome_iff_exists.mp (run_has address events made)
      have carries := (booked.booked ch (List.mem_of_find?_eq_some there)).carries
      rw [Endpoint.find_id there] at carries
      exact ⟨id, fails, (carries.error reported).imp_right .inr⟩
  case once => exact failsOn_once
  case bounded =>
    intro calls distinct fail
    rw [← injections_length]
    exact failing_le distinct fail

/-- Three acquires race on one controller after one open error and one close error were told. The
first channel that is created has the open error, and all three have the close error. -/
theorem racing_acquires_share_one_error :
    let events : List Event := [.newController, .outside (.failNextOpen (.timeout "slow")),
      .outside (.failCloses (.other "busy")), .begin 0 .acquireAsync, .begin 0 .acquireAsync,
        .begin 0 .acquireAsync,
      .resume 0, .resume 1, .resume 2]
    (∀ e ∈ events, e.isDirect = false) ∧ KeepsBooks "mem://a" events ∧
    (run "mem://a" events).tasks.map (·.stage.acquireError?) =
      [some (.timeout "slow"), none, none] ∧
    (run "mem://a" events).network.endpoint.channels.map (·.faults.closeError) =
      List.replicate 3 (some (.other "busy")) := by
  intro events
  have indirect : ∀ e ∈ events, e.isDirect = false := by decide
  exact ⟨indirect, endpoint_keeps_books "mem://a" events indirect, by decide, by decide⟩

end

end RemoteClient.Interleaving
