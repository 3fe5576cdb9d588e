import RemoteClient.Network.Channel
import Mathlib.Data.List.Nodup

namespace RemoteClient

namespace ChannelRef

def id : ChannelRef → Nat
  | .ofEndpoint id | .standalone id => id

end ChannelRef

namespace Channel

/-- Only a closed channel is left alone by a shutdown. -/
theorem ShutdownAction.choose_nothing {state : State} {alwaysAbort : Bool}
    (action : choose state alwaysAbort = .nothing) : state = .closed ∧ alwaysAbort = false := by
  cases state <;> cases alwaysAbort <;> simp [choose] at action ⊢

/-- What an operation of a channel makes of it, whoever calls it. Forcing a state is no
operation. -/
inductive Worked (ch : Channel) : Channel → Prop
  | opened : Worked ch ch.openNow.2
  | closed : Worked ch ch.closeNow.2
  | aborted : Worked ch ch.abort
  | called (method : String) : Worked ch (ch.call method).2
  | failingOpen (e : Error) : Worked ch (ch.failOpen e)
  | failingClose (e : Error) : Worked ch (ch.failClose e)
  | failingCall (e : Error) : Worked ch (ch.failCall e)
  | delayed (latency : Nat) : Worked ch (ch.delay latency)

/-! ### What an operation changes, and what it leaves alone -/

theorem openNow_cases (ch : Channel) :
    (∃ e, ch.faults.openError = some e ∧ ch.openNow = (.error e,
      { ch with
        opens := ch.opens + 1
        faults := { ch.faults with openError := none }
        state := .faulted })) ∨
    (ch.faults.openError = none ∧ ch.state = .created ∧
      ch.openNow = (.ok (), { ch with opens := ch.opens + 1, state := .opened })) ∨
    (ch.faults.openError = none ∧ ch.state ≠ .created ∧ ch.openNow =
      (.error (.other ("cannot open a channel that is " ++ ch.state.name)),
        { ch with opens := ch.opens + 1 })) := by
  cases injected : ch.faults.openError with
  | some e => exact .inl ⟨e, rfl, by simp [openNow, injected]⟩
  | none =>
      by_cases fresh : ch.state = .created
      · exact .inr (.inl ⟨rfl, fresh, by simp [openNow, injected, fresh]⟩)
      · exact .inr (.inr ⟨rfl, fresh, by simp [openNow, injected, fresh]⟩)

theorem closeNow_cases (ch : Channel) :
    (∃ e, ch.faults.closeError = some e ∧
      ch.closeNow = (.error e, { ch with closes := ch.closes + 1, state := .faulted })) ∨
    (ch.faults.closeError = none ∧ ch.state = .faulted ∧
      ch.closeNow = (.error .faulted, { ch with closes := ch.closes + 1 })) ∨
    (ch.faults.closeError = none ∧ ch.state ≠ .faulted ∧
      ch.closeNow = (.ok (), { ch with closes := ch.closes + 1, state := .closed })) := by
  cases injected : ch.faults.closeError with
  | some e => exact .inl ⟨e, rfl, by simp [closeNow, injected]⟩
  | none =>
      by_cases faulted : ch.state = .faulted
      · exact .inr (.inl ⟨rfl, faulted, by simp [closeNow, injected, faulted]⟩)
      · exact .inr (.inr ⟨rfl, faulted, by simp [closeNow, injected, faulted]⟩)

theorem call_cases (ch : Channel) (method : String) :
    (∃ e, ch.refusal? = some e ∧ ch.call method = (.error e, { ch with calls := ch.calls + 1 })) ∨
    (∃ e, ch.refusal? = none ∧ ch.callError = some e ∧ ch.call method =
      (.error e, { ch with calls := ch.calls + 1, callError := none, state := .faulted })) ∨
    (ch.refusal? = none ∧ ch.callError = none ∧
      ch.call method = (.ok (ch.reply method), { ch with calls := ch.calls + 1 })) := by
  have counted : ({ ch with calls := ch.calls + 1 } : Channel).refusal? = ch.refusal? := rfl
  unfold call
  dsimp only
  rw [counted]
  cases refused : ch.refusal? with
  | some e => exact .inl ⟨e, rfl, rfl⟩
  | none =>
      cases queued : ch.callError with
      | some e => exact .inr (.inl ⟨e, rfl, rfl, rfl⟩)
      | none => exact .inr (.inr ⟨rfl, rfl, rfl⟩)

theorem openNow_frame (ch : Channel) : ch.openNow.2 =
    { ch with
      opens := ch.opens + 1
      state := ch.openNow.2.state
      faults := { ch.faults with openError := none } } := by
  obtain ⟨e, injected, done⟩ | ⟨fine, fresh, done⟩ | ⟨fine, used, done⟩ := openNow_cases ch
  · rw [done]
  · rw [done, ← fine]
  · rw [done, ← fine]

theorem closeNow_frame (ch : Channel) :
    ch.closeNow.2 = { ch with closes := ch.closes + 1, state := ch.closeNow.2.state } := by
  obtain ⟨e, injected, done⟩ | ⟨fine, faulted, done⟩ | ⟨fine, sound, done⟩ :=
    closeNow_cases ch <;> rw [done]

theorem call_frame (ch : Channel) (method : String) : (ch.call method).2 =
    { ch with
      calls := ch.calls + 1
      state := (ch.call method).2.state
      callError := (ch.call method).2.callError } := by
  obtain ⟨e, refused, done⟩ | ⟨e, free, queued, done⟩ | ⟨free, fine, done⟩ :=
    call_cases ch method <;> rw [done]

@[simp] theorem openNow_id (ch : Channel) : ch.openNow.2.id = ch.id := by rw [openNow_frame]

@[simp] theorem openNow_aborted (ch : Channel) : ch.openNow.2.aborted = ch.aborted := by
  rw [openNow_frame]

@[simp] theorem openNow_closes (ch : Channel) : ch.openNow.2.closes = ch.closes := by
  rw [openNow_frame]

@[simp] theorem openNow_openError (ch : Channel) : ch.openNow.2.faults.openError = none := by
  rw [openNow_frame]

@[simp] theorem abort_aborted (ch : Channel) : ch.abort.aborted = true := rfl

theorem openNow_spares (ch : Channel) :
    ch.openNow.2.aborts = ch.aborts ∧ ch.openNow.2.callError = ch.callError := by
  rw [openNow_frame]
  exact ⟨rfl, rfl⟩

@[simp] theorem closeNow_id (ch : Channel) : ch.closeNow.2.id = ch.id := by rw [closeNow_frame]

@[simp] theorem closeNow_aborted (ch : Channel) : ch.closeNow.2.aborted = ch.aborted := by
  rw [closeNow_frame]

@[simp] theorem closeNow_faults (ch : Channel) : ch.closeNow.2.faults = ch.faults := by
  rw [closeNow_frame]

theorem closeNow_spares (ch : Channel) :
    ch.closeNow.2.aborts = ch.aborts ∧ ch.closeNow.2.callError = ch.callError := by
  rw [closeNow_frame]
  exact ⟨rfl, rfl⟩

theorem call_same (ch : Channel) (method : String) :
    (ch.call method).2.id = ch.id ∧ (ch.call method).2.aborted = ch.aborted := by
  rw [call_frame]
  exact ⟨rfl, rfl⟩

theorem call_aborts (ch : Channel) (method : String) : (ch.call method).2.aborts = ch.aborts := by
  rw [call_frame]

theorem openNow_opens {ch : Channel} (fresh : ch.state = .created)
    (fine : ch.faults.openError = none) :
    ch.openNow.1 = .ok () ∧ ch.openNow.2.state = .opened := by
  simp [openNow, fresh, fine]

theorem openNow_fails {ch : Channel} {e : Error} (met : ch.faults.openError = some e) :
    ch.openNow.1 = .error e := by
  simp [openNow, met]

theorem closeNow_closes {ch : Channel} (done : ch.closeNow.1 = .ok ()) :
    ch.closeNow.2.state = .closed := by
  obtain ⟨e, injected, closed⟩ | ⟨fine, faulted, closed⟩ | ⟨fine, sound, closed⟩ :=
    closeNow_cases ch
  all_goals
    rw [closed] at done ⊢
  · cases done
  · cases done

/-- Whatever comes of a close, the channel is of no use after it. -/
theorem closeNow_stale (ch : Channel) : ch.closeNow.2.state.isStale := by
  obtain ⟨e, injected, done⟩ | ⟨fine, faulted, done⟩ | ⟨fine, sound, done⟩ := closeNow_cases ch
  · rw [done]
    rfl
  · rw [done]
    exact congrArg State.isStale faulted
  · rw [done]
    rfl

theorem Worked.id {ch after : Channel} (worked : Worked ch after) : after.id = ch.id := by
  cases worked with
  | opened => exact openNow_id ch
  | closed => exact closeNow_id ch
  | called method => exact (call_same ch method).1
  | aborted | failingOpen | failingClose | failingCall | delayed => rfl

theorem Worked.aborted_lasts {ch after : Channel} (worked : Worked ch after)
    (aborted : ch.aborted) :
    after.aborted := by
  cases worked with
  | opened => simpa using aborted
  | closed => simpa using aborted
  | aborted => rfl
  | called method => exact (call_same ch method).2.trans aborted
  | failingOpen | failingClose | failingCall | delayed => exact aborted

end Channel

namespace Endpoint

variable {e : Endpoint} {ch : Channel} {id : Nat}

def Numbered (e : Endpoint) : Prop := e.channels.map (·.id) = List.range' 1 e.channels.length

theorem replaced_id (ch old : Channel) : (if old.id = ch.id then ch else old).id = old.id := by
  split
  next same => exact same.symm
  next => rfl

theorem find_replaced (channels : List Channel) (ch : Channel) (id : Nat) :
    (channels.map fun old => if old.id = ch.id then ch else old).find? (·.id == id) =
      (channels.find? (·.id == id)).map fun old => if old.id = ch.id then ch else old := by
  have reads : ((·.id == id) ∘ fun old : Channel => if old.id = ch.id then ch else old) =
      (·.id == id) := by
    funext old
    simp only [Function.comp_apply, replaced_id]
  rw [List.find?_map, reads]

theorem replace_ids (e : Endpoint) (ch : Channel) :
    (e.replace ch).channels.map (·.id) = e.channels.map (·.id) := by
  simp [replace, replaced_id]

theorem find_replace (e : Endpoint) (ch : Channel) (id : Nat) :
    (e.replace ch).find? id = (e.find? id).map fun old => if old.id = ch.id then ch else old :=
  find_replaced e.channels ch id

theorem find_id (found : e.find? id = some ch) : ch.id = id := by
  have named := List.find?_some found
  simpa using named

theorem find_isSome : (e.find? id).isSome ↔ id ∈ e.channels.map (·.id) := by
  simp [find?]

theorem numbered_isSome (numbered : e.Numbered) :
    (e.find? id).isSome ↔ 1 ≤ id ∧ id ≤ e.channels.length := by
  rw [find_isSome, numbered]
  simp only [List.mem_range'_1]
  omega

theorem find_member (numbered : e.Numbered) (member : ch ∈ e.channels) :
    e.find? ch.id = some ch := by
  obtain ⟨found, finds⟩ :=
    Option.isSome_iff_exists.mp (find_isSome.mpr (List.mem_map_of_mem member))
  have inside : found ∈ e.channels := List.mem_of_find?_eq_some finds
  have distinct : (e.channels.map (·.id)).Nodup := by
    rw [numbered]
    exact List.nodup_range'
  rw [finds, List.inj_on_of_nodup_map distinct inside member (find_id finds)]

theorem find_create_absent (absent : e.find? (e.channels.length + 1) = none) :
    e.create.2.find? (e.channels.length + 1) = some e.create.1 := by
  simp only [find?] at absent
  simp [find?, create, List.find?_append, absent, Channel.fresh]

theorem find_create (numbered : e.Numbered) :
    e.create.2.find? (e.channels.length + 1) = some e.create.1 := by
  have absent : e.find? (e.channels.length + 1) = none := by
    rw [← Option.not_isSome_iff_eq_none, numbered_isSome numbered]
    omega
  exact find_create_absent absent

theorem find_create_other (e : Endpoint) (other : id ≠ e.channels.length + 1) :
    e.create.2.find? id = e.find? id := by
  simp [find?, create, List.find?_append, Channel.fresh, Ne.symm other]

theorem create_numbered (numbered : e.Numbered) : e.create.2.Numbered := by
  unfold Numbered at numbered
  simp [Numbered, create, Channel.fresh, numbered, List.range'_concat, Nat.add_comm]

theorem replace_numbered (numbered : e.Numbered) (ch : Channel) : (e.replace ch).Numbered := by
  unfold Numbered
  rw [replace_ids, numbered]
  simp [replace]

end Endpoint

namespace Network

variable {n : Network} {ref other : ChannelRef} {ch : Channel}

/-- There is such a channel. Standalone ones come into being when they are looked at. -/
def Has (n : Network) : ChannelRef → Prop
  | .ofEndpoint id => (n.endpoint.find? id).isSome
  | .standalone _ => True

theorem channel_id (n : Network) (ref : ChannelRef) : (n.channel ref).id = ref.id := by
  cases ref with
  | ofEndpoint id =>
      cases found : n.endpoint.find? id with
      | none => simp [channel, found, Channel.fresh, ChannelRef.id]
      | some ch => simpa [channel, found, ChannelRef.id] using Endpoint.find_id found
  | standalone id =>
      cases found : n.standalone.find? (·.id == id) with
      | none => simp [channel, found, Channel.fresh, ChannelRef.id]
      | some ch => simpa [channel, found, ChannelRef.id] using List.find?_some found

theorem find_putStandalone (channels : List Channel) (ch : Channel) (id : Nat) :
    (putStandalone channels ch).find? (·.id == id) =
      if id = ch.id then some ch else channels.find? (·.id == id) := by
  unfold putStandalone
  split
  next known =>
    rw [Endpoint.find_replaced]
    cases found : channels.find? (·.id == id) with
    | none =>
        have apart : id ≠ ch.id := by
          rintro rfl
          obtain ⟨old, member, same⟩ := List.any_eq_true.mp known
          exact List.find?_eq_none.mp found old member same
        simp [apart]
    | some old =>
        have same : old.id = id := by simpa using List.find?_some found
        by_cases equal : id = ch.id <;> simp [same, equal]
  next absent =>
    by_cases same : id = ch.id
    · have missing : channels.find? (·.id == ch.id) = none := by simpa using absent
      simp [List.find?_append, same, missing]
    · simp [List.find?_append, same, Ne.symm same]

theorem channel_endpoint (n : Network) (id : Nat) :
    n.channel (.ofEndpoint id) = (n.endpoint.find? id).getD (.fresh id n.endpoint.address .quiet) :=
  rfl

theorem channel_replace (n : Network) (ch : Channel) (id : Nat) :
    ({ n with endpoint := n.endpoint.replace ch } : Network).channel (.ofEndpoint id) =
      ((n.endpoint.find? id).map fun old => if old.id = ch.id then ch else old).getD
        (.fresh id n.endpoint.address .quiet) := by
  rw [channel_endpoint, Endpoint.find_replace]
  rfl

theorem channel_putChannel_same (named : ch.id = ref.id) (has : n.Has ref) :
    (n.putChannel ref ch).channel ref = ch := by
  cases ref with
  | ofEndpoint id =>
      obtain ⟨old, found⟩ := Option.isSome_iff_exists.mp has
      have same : old.id = ch.id := (Endpoint.find_id found).trans named.symm
      rw [putChannel, channel_replace, found]
      simp [same]
  | standalone id =>
      have same : ch.id = id := named
      simp [channel, putChannel, find_putStandalone, same]

theorem channel_putChannel_other (named : ch.id = ref.id) (apart : other ≠ ref) :
    (n.putChannel ref ch).channel other = n.channel other := by
  cases ref with
  | ofEndpoint id =>
      cases other with
      | standalone => rfl
      | ofEndpoint other =>
          have differs : other ≠ ch.id := by
            rintro rfl
            exact apart (congrArg ChannelRef.ofEndpoint named)
          rw [putChannel, channel_replace, channel_endpoint]
          cases found : n.endpoint.find? other with
          | none => rfl
          | some old =>
              have kept : old.id ≠ ch.id := (Endpoint.find_id found).symm ▸ differs
              simp [kept]
  | standalone id =>
      cases other with
      | ofEndpoint => rfl
      | standalone other =>
          have differs : other ≠ ch.id := by
            rintro rfl
            exact apart (congrArg ChannelRef.standalone named)
          simp [channel, putChannel, find_putStandalone, differs]

def created (n : Network) : Network := { n with endpoint := n.endpoint.create.2 }

theorem channel_created (numbered : n.endpoint.Numbered) :
    n.created.channel (.ofEndpoint (n.endpoint.channels.length + 1)) = n.endpoint.create.1 := by
  change (n.endpoint.create.2.find? _).getD _ = _
  rw [Endpoint.find_create numbered]
  rfl

theorem channel_created_other (other : ref ≠ .ofEndpoint (n.endpoint.channels.length + 1)) :
    n.created.channel ref = n.channel ref := by
  cases ref with
  | standalone id => rfl
  | ofEndpoint id =>
      have apart : id ≠ n.endpoint.channels.length + 1 := fun same => other (congrArg _ same)
      change (n.endpoint.create.2.find? id).getD _ = _
      rw [Endpoint.find_create_other n.endpoint apart]
      rfl

theorem channel_created_known (has : n.Has ref) : n.created.channel ref = n.channel ref := by
  cases ref with
  | standalone id => rfl
  | ofEndpoint id =>
      obtain ⟨ch, found⟩ := Option.isSome_iff_exists.mp has
      have kept : n.created.endpoint.find? id = some ch := by
        simp only [Endpoint.find?] at found
        simp [created, Endpoint.find?, Endpoint.create, List.find?_append, found]
      rw [channel_endpoint, channel_endpoint, found, kept]
      rfl

theorem channel_created_cases (n : Network) (ref : ChannelRef) :
    n.created.channel ref = n.channel ref ∨ n.created.channel ref = n.endpoint.create.1 := by
  by_cases next : ref = .ofEndpoint (n.endpoint.channels.length + 1)
  · cases found : n.endpoint.find? (n.endpoint.channels.length + 1) with
    | some ch => exact .inl (channel_created_known (next ▸ by simp [Has, found]))
    | none =>
        right
        rw [next, channel_endpoint]
        exact congrArg (Option.getD · _) (Endpoint.find_create_absent found)
  · exact .inl (channel_created_other next)

theorem has_of_aborted (aborted : (n.channel ref).aborted) : n.Has ref := by
  cases ref with
  | standalone id => trivial
  | ofEndpoint id =>
      cases found : n.endpoint.find? id with
      | none => simp [channel_endpoint, found, Channel.fresh] at aborted
      | some ch => simp [Has, found]

theorem channel_putChannel_cases (named : ch.id = ref.id) (other : ChannelRef) :
    (n.putChannel ref ch).channel other = n.channel other ∨
      (other = ref ∧ (n.putChannel ref ch).channel other = ch) := by
  by_cases same : other = ref
  · subst same
    cases other with
    | standalone id => exact .inr ⟨rfl, channel_putChannel_same named trivial⟩
    | ofEndpoint id =>
        cases found : n.endpoint.find? id with
        | none =>
            left
            rw [putChannel, channel_replace, channel_endpoint, found]
            rfl
        | some old => exact .inr ⟨rfl, channel_putChannel_same named (by simp [Has, found])⟩
  · exact .inl (channel_putChannel_other named same)

theorem has_putChannel (n : Network) (ref : ChannelRef) (ch : Channel) (other : ChannelRef) :
    (n.putChannel ref ch).Has other ↔ n.Has other := by
  cases ref with
  | standalone => cases other <;> exact Iff.rfl
  | ofEndpoint id =>
      cases other with
      | standalone => exact Iff.rfl
      | ofEndpoint other =>
          change ((n.endpoint.replace ch).find? other).isSome ↔ (n.endpoint.find? other).isSome
          rw [Endpoint.find_isSome, Endpoint.find_isSome, Endpoint.replace_ids]

theorem has_created_other (other : ref ≠ .ofEndpoint (n.endpoint.channels.length + 1)) :
    n.created.Has ref ↔ n.Has ref := by
  cases ref with
  | standalone => exact Iff.rfl
  | ofEndpoint id =>
      have apart : id ≠ n.endpoint.channels.length + 1 := fun same => other (congrArg _ same)
      change (n.endpoint.create.2.find? id).isSome ↔ (n.endpoint.find? id).isSome
      rw [Endpoint.find_create_other n.endpoint apart]

theorem worked_named {after : Channel} (worked : (n.channel ref).Worked after) :
    after.id = ref.id :=
  worked.id.trans (n.channel_id ref)

end Network

end RemoteClient
