import RemoteClient.Proofs.Agreement.Timeless
import RemoteClient.Proofs.Interleaving.Lasting
import RemoteClient.Proofs.Interleaving.Slots

/-!
A waiting operation whose handshake passes does what the blocking one does. On a tidy network no
graceful close is begun on an aborted channel, so that nothing keeps the handshake from passing.
-/

namespace RemoteClient

open Interleaving (Lasting Vacant Within)

namespace Channel

def Retired (ch : Channel) : Prop := ch.aborted → ch.state.isStale

variable {ch after : Channel}

theorem openNow_retired (retired : ch.Retired) : ch.openNow.2.Retired := by
  intro aborted
  rw [openNow_aborted] at aborted
  have stale := retired aborted
  obtain ⟨e, injected, done⟩ | ⟨fine, fresh, done⟩ | ⟨fine, used, done⟩ := openNow_cases ch
  · rw [done]
    rfl
  · simp [fresh, State.isStale] at stale
  · rw [done]
    exact stale

theorem call_retired (retired : ch.Retired) (method : String) : (ch.call method).2.Retired := by
  intro aborted
  have before : ch.aborted := (call_same ch method).2 ▸ aborted
  have refused : ch.refusal? = some .aborted := by simp [refusal?, before]
  obtain ⟨e, _, done⟩ | ⟨e, free, _⟩ | ⟨free, _⟩ := call_cases ch method
  · rw [done]
    exact retired before
  · cases refused.symm.trans free
  · cases refused.symm.trans free

theorem Worked.retired (worked : Worked ch after) (retired : ch.Retired) : after.Retired := by
  cases worked with
  | opened => exact openNow_retired retired
  | closed => exact fun _ => closeNow_stale ch
  | aborted => exact fun _ => rfl
  | called method => exact call_retired retired method
  | failingOpen | failingClose | failingCall | delayed => exact retired

end Channel

namespace Network

/-- As long as nobody forces a state on an aborted channel and no token is cancelled. -/
structure Tidy (n : Network) : Prop where
  retired : ∀ ref, (n.channel ref).Retired
  numbered : n.endpoint.Numbered
  uncancelled : n.cancelled = []

namespace Tidy

variable {n m : Network}

theorem of_channels (channels : ∀ ref, m.channel ref = n.channel ref)
    (numbers : m.endpoint.channels = n.endpoint.channels) (cancelled : m.cancelled = n.cancelled)
    (tidy : n.Tidy) : m.Tidy where
  retired ref := (channels ref).symm ▸ tidy.retired ref
  numbered := by
    rw [Endpoint.Numbered, numbers]
    exact tidy.numbered
  uncancelled := cancelled.trans tidy.uncancelled

theorem alike (alike : Alike n m) (tidy : n.Tidy) : m.Tidy :=
  tidy.of_channels (fun ref => (alike.channel ref).symm)
    (congrArg Endpoint.channels alike.endpoint.symm)
    alike.cancelled.symm

theorem putChannel {ref : ChannelRef} {ch : Channel} (named : ch.id = ref.id) (retired : ch.Retired)
    (tidy : n.Tidy) : (n.putChannel ref ch).Tidy where
  retired other := by
    rcases channel_putChannel_cases (n := n) named other with same | ⟨_, now⟩
    · exact same.symm ▸ tidy.retired other
    · exact now.symm ▸ retired
  numbered := by
    cases ref with
    | ofEndpoint id => exact Endpoint.replace_numbered tidy.numbered ch
    | standalone id => exact tidy.numbered
  uncancelled := by cases ref <;> exact tidy.uncancelled

theorem created (tidy : n.Tidy) : n.created.Tidy where
  retired ref := by
    by_cases last : ref = .ofEndpoint (n.endpoint.channels.length + 1)
    · rw [last, channel_created tidy.numbered]
      exact fun aborted => by cases aborted
    · rw [channel_created_other last]
      exact tidy.retired ref
  numbered := Endpoint.create_numbered tidy.numbered
  uncancelled := tidy.uncancelled

theorem unaborted (tidy : n.Tidy) {ref : ChannelRef}
    (usable : (n.channel ref).state.isStale = false) :
    (n.channel ref).aborted = false := by
  by_contra aborted
  have stale := tidy.retired ref (by simpa using aborted)
  rw [usable] at stale
  cases stale

end Tidy

theorem tidy_lasting : Lasting fun n m => n.Tidy → m.Tidy where
  refl _ tidy := tidy
  trans first second tidy := second (first tidy)
  note n event := .of_channels (fun ref => by cases ref <;> rfl) rfl rfl
  stamp n := .of_channels (fun ref => by cases ref <;> rfl) rfl rfl
  record n deed _ := .of_channels (fun ref => by cases ref <;> rfl) rfl rfl
  work n ref ch worked tidy :=
    tidy.putChannel (worked_named worked) (worked.retired (tidy.retired ref))
  slots n controllers := .of_channels (fun ref => by cases ref <;> rfl) rfl rfl
  retold n history := .of_channels (fun ref => by cases ref <;> rfl) rfl rfl
  create n tidy := tidy.created

theorem tidy_calling : Interleaving.Calling fun n m => n.Tidy → m.Tidy := tidy_lasting.calling

end Network

namespace Act

def passOpen (c fresh : Nat) : Act (Progress Acquiring (Except Channel.Error Nat)) := do
  match ← openNow (.ofEndpoint fresh) with
  | .error e =>
    noteOpenFailed e
    abandonHandshake (.ofEndpoint fresh)
    return .done (.error e)
  | .ok () => settleOpened c fresh

def passClose (id : Nat) : Act (Progress Closing (Except Channel.Error Unit)) := do
  return .done (← afterClose (.ofEndpoint id) (← closeNow (.ofEndpoint id)))

/-- An operation that waits for one handshake and, when that has passed, goes on. -/
structure Form (S R : Type) where
  wait : Nat → Handshake → S
  resume : S → Act (Progress S R)
  passed : Nat → Act (Progress S R)
  waits : ∀ {id h later n m}, (h.resume (.ofEndpoint id)).run n = (.pending later, m) →
    (resume (wait id h)).run n = (.pending (wait id later), m)
  passes : ∀ {id h n m}, (h.resume (.ofEndpoint id)).run n = (.done (.ok ()), m) →
    (resume (wait id h)).run n = (passed id).run m

def acquiring (c : Nat) : Form Acquiring (Except Channel.Error Nat) where
  wait := .opening
  resume := resumeAcquire c
  passed := passOpen c
  waits waiting := by
    rw [resumeAcquire, run_bind, resumeOpen, run_bind, waiting]
    rfl
  passes {id h n m} passing := by
    rw [resumeAcquire, run_bind, resumeOpen, run_bind, passing, passOpen, run_bind]
    dsimp only
    rw [run_bind]
    cases (openNow (.ofEndpoint id)).run m with
    | mk opened k => cases opened <;> rfl

def closing : Form Closing (Except Channel.Error Unit) where
  wait := .mk
  resume := resumeShutdown
  passed := passClose
  waits waiting := by
    rw [resumeShutdown, run_bind, resumeShutdownChannel, run_bind, resumeClose, run_bind, waiting]
    rfl
  passes passing := by
    rw [resumeShutdown, run_bind, resumeShutdownChannel, run_bind, resumeClose, run_bind, passing]
    rfl

/-- How the waiting form of an operation begins. It is done at once, and as the blocking form is; or
it waits for a handshake that nobody has made fail, and once that has passed, it is done as the
blocking form is. -/
inductive Begins {S R : Type} (form : Form S R) (blocking : Act R) (n : Network) :
    Progress S R × Network → Prop
  | done {result : R} {m : Network} (same : blocking.run n = (result, m)) :
      Begins form blocking n (.done result, m)
  | waits {id : Nat} {m : Network} (free : (m.channel (.ofEndpoint id)).aborted = false)
      (passes : ∀ l, m.Alike l → ∃ k, (form.passed id).run l = (.done (blocking.run n).1, k) ∧
        (blocking.run n).2.Alike k) :
      Begins form blocking n (.pending (form.wait id .turn), m)

variable {n m : Network} {c id : Nat}

def finishOpen (c fresh : Nat) : Act (Except Channel.Error Nat) := do
  match ← openNow (.ofEndpoint fresh) with
  | .error e =>
    noteOpenFailed e
    abort (.ofEndpoint fresh)
    return .error e
  | .ok () =>
    match ← install c fresh with
    | .won => return .ok fresh
    | .lostTo winner =>
      noteLoserKept (← shutdownChannel (.ofEndpoint fresh) false)
      return .ok winner

theorem abandon_alike (alike : n.Alike m) :
    ((abort (.ofEndpoint id)).run n).2.Alike ((abandonHandshake (.ofEndpoint id)).run m).2 := by
  rw [abandonHandshake, run_channel, run_note]
  apply (timeless_abort (.ofEndpoint id) n _ _).2
  exact ⟨alike.endpoint, alike.standalone, alike.controllers, alike.cancelled⟩

theorem install_vacant (vacant : Vacant c n) : ((install c id).run n).1 = .won := by
  rw [install, run_controller, show (n.controller c).slot = none from vacant]
  rfl

theorem passOpen_finishes (alike : n.Alike m) (vacant : Vacant c n) :
    ∃ k, (passOpen c id).run m = (.done ((finishOpen c id).run n).1, k) ∧
      ((finishOpen c id).run n).2.Alike k := by
  obtain ⟨same, after⟩ := timeless_openNow (.ofEndpoint id) n m alike
  have slots : Interleaving.sameSlots n ((openNow (.ofEndpoint id)).run n).2 :=
    Interleaving.sameSlots_tolerant.within_openNow (.ofEndpoint id) n
  rw [passOpen, finishOpen, run_bind, run_bind, ← same]
  generalize ((openNow (.ofEndpoint id)).run m).2 = m₁ at after
  generalize (openNow (.ofEndpoint id)).run n = opens at after slots
  obtain ⟨opened, n₁⟩ := opens
  cases opened with
  | error e =>
      have noted :=
        timeless_note ⟨.debug, "channel open failed", [("error", .shown e.message)]⟩ n₁ m₁ after
      dsimp only
      rw [noteOpenFailed, run_bind, run_bind, run_bind, run_bind]
      exact ⟨_, rfl, abandon_alike noted.2⟩
  | ok =>
      have vacant₁ : Vacant c n₁ := by rwa [Vacant, Network.controller, slots]
      obtain ⟨both, installed⟩ := timeless_install c id n₁ m₁ after
      have won : ((install c id).run n₁).1 = .won := install_vacant vacant₁
      dsimp only
      rw [settleOpened, run_bind, run_bind, ← both, won]
      exact ⟨_, rfl, installed⟩

theorem startAcquire_begins (tidy : n.Tidy) :
    Begins (acquiring c) (acquire c) n ((startAcquire c).run n) := by
  rcases Interleaving.startAcquire_cases c n with ⟨id, reuses, starts⟩ | ⟨useless, vacant, starts⟩
  · rw [starts]
    exact .done (Interleaving.run_acquire_reuse reuses)
  · have discarded : ((discardStale c).run n).2.Tidy :=
      Network.tidy_calling.within_discardStale c n tidy
    have blocks : (acquire c).run n = (openFresh c).run ((discardStale c).run n).2 := by
      rcases Interleaving.acquire_cases c n with ⟨id, reuses, _⟩ | ⟨_, _, opens⟩
      · exact absurd reuses (useless id)
      · exact opens
    generalize ((discardStale c).run n).2 = n₁ at discarded vacant starts blocks
    let fresh := n₁.endpoint.channels.length + 1
    let m : Network := { n₁.created with history := .created fresh :: n₁.history }
    have begun : (startAcquire c).run n = (.pending (.opening fresh .turn), m) := starts
    have finishes : (acquire c).run n = (finishOpen c fresh).run m := blocks
    have free : (m.channel (.ofEndpoint fresh)).aborted = false := by
      change (n₁.created.channel (.ofEndpoint fresh)).aborted = false
      rw [Network.channel_created discarded.numbered]
      rfl
    rw [begun]
    apply Begins.waits free
    intro l alike
    rw [finishes]
    exact passOpen_finishes alike vacant

theorem startShutdownChannel_begins (tidy : n.Tidy) (id : Nat) (alwaysAbort : Bool) :
    ((startShutdownChannel (.ofEndpoint id) alwaysAbort).run n =
        (.done ((shutdownChannel (.ofEndpoint id) alwaysAbort).run n).1,
          ((shutdownChannel (.ofEndpoint id) alwaysAbort).run n).2)) ∨
      ((startShutdownChannel (.ofEndpoint id) alwaysAbort).run n = (.pending .turn, n) ∧
        (n.channel (.ofEndpoint id)).aborted = false ∧
        (shutdownChannel (.ofEndpoint id) alwaysAbort).run n =
          (do afterClose (.ofEndpoint id) (← closeNow (.ofEndpoint id)) : Act _).run n) := by
  rw [startShutdownChannel, shutdownChannel, run_channel, run_channel]
  cases action : Channel.ShutdownAction.choose (n.channel (.ofEndpoint id)).state alwaysAbort with
  | abort => exact .inl rfl
  | nothing => exact .inl rfl
  | close =>
      have usable : (n.channel (.ofEndpoint id)).state.isStale = false := by
        cases state : (n.channel (.ofEndpoint id)).state <;> cases alwaysAbort <;>
          simp [Channel.ShutdownAction.choose, Channel.State.isStale, state] at action ⊢
      exact .inr ⟨rfl, tidy.unaborted usable, rfl⟩

theorem startShutdown_begins (tidy : n.Tidy) (alwaysAbort : Bool) :
    Begins closing (shutdown c alwaysAbort) n ((startShutdown c alwaysAbort).run n) := by
  have taken : ((take c).run n).2.Tidy := Network.tidy_calling.within_take c n tidy
  rw [startShutdown, run_bind]
  generalize takes : (take c).run n = result at taken
  obtain ⟨found, n₁⟩ := result
  cases found with
  | none =>
      apply Begins.done
      rw [shutdown, run_bind, takes]
      rfl
  | some id =>
      have blocks : (shutdown c alwaysAbort).run n =
        (shutdownChannel (.ofEndpoint id) alwaysAbort).run n₁ := by
        rw [shutdown, run_bind, takes]
      dsimp only
      rw [run_bind]
      rcases startShutdownChannel_begins taken id alwaysAbort with starts | ⟨starts, free, closes⟩
      · rw [starts]
        exact .done blocks
      · rw [starts]
        apply Begins.waits free
        intro l alike
        have closes_alike :
            Timeless (do afterClose (.ofEndpoint id) (← closeNow (.ofEndpoint id))) :=
          matches_bind (timeless_closeNow _) (timeless_afterClose _)
        obtain ⟨same, after⟩ := closes_alike n₁ l alike
        rw [blocks, closes]
        exact ⟨_, congrArg (fun result => (Progress.done result, _)) same.symm, after⟩

end Act

end RemoteClient
