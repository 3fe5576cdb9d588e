import RemoteClient.Proofs.Network.Work

/-!
The books of an endpoint: which channels it created, and what became of each error it was told. An
open error is for the next channel only, and a close error for all that are created until the next
one is told.
-/

namespace RemoteClient

namespace Channel

inductive Answers : Option Error → Except Error Unit → Prop
  | injected (e : Error) : Answers (some e) (.error e)
  | opened : Answers none (.ok ())
  | refused (state : State) (used : state ≠ .created) :
      Answers none (.error (.other ("cannot open a channel that is " ++ state.name)))

/-- Of the opens of a channel the first one takes the error that the channel was created with, and
it is `left` until then. -/
def Carries (given left : Option Error) : List (Except Error Unit) → Prop
  | [] => left = given
  | first :: rest => left = none ∧ Answers given first ∧ ∀ result ∈ rest, Answers none result

variable {ch : Channel} {given left : Option Error} {results : List (Except Error Unit)}

theorem answers_openNow (ch : Channel) : Answers ch.faults.openError ch.openNow.1 := by
  obtain ⟨e, injected, done⟩ | ⟨fine, fresh, done⟩ | ⟨fine, used, done⟩ := openNow_cases ch
  · rw [injected, done]
    exact .injected e
  · rw [fine, done]
    exact .opened
  · rw [fine, done]
    exact .refused ch.state used

theorem Carries.openNow (carries : Carries given ch.faults.openError results) :
    Carries given none (results ++ [ch.openNow.1]) := by
  have answers := answers_openNow ch
  cases results with
  | nil =>
      have same : ch.faults.openError = given := carries
      exact ⟨rfl, same ▸ answers, by simp⟩
  | cons first rest =>
      obtain ⟨taken, answered, own⟩ := carries
      rw [taken] at answers
      refine ⟨rfl, answered, fun result member => ?_⟩
      rcases List.mem_append.mp member with before | last
      · exact own result before
      · rw [List.mem_singleton.mp last]
        exact answers

/-- An error that an open reported is the one the channel was created with, or the channel was past
its first open. -/
theorem Carries.error {e : Error} (carries : Carries given left results)
    (reported : .error e ∈ results) :
    given = some e ∨ Answers none (.error e) := by
  cases results with
  | nil => simp at reported
  | cons first rest =>
      obtain ⟨_, answered, own⟩ := carries
      rcases List.mem_cons.mp reported with rfl | later
      · cases answered with
        | injected => exact .inl rfl
        | refused state used => exact .inr (.refused state used)
      · exact .inr (own _ later)

@[simp] theorem openNow_closeError (ch : Channel) :
    ch.openNow.2.faults.closeError = ch.faults.closeError := by
  rw [openNow_frame]

@[simp] theorem openNow_counts (ch : Channel) : ch.openNow.2.opens = ch.opens + 1 := by
  rw [openNow_frame]

@[simp] theorem closeNow_opens (ch : Channel) : ch.closeNow.2.opens = ch.opens := by
  rw [closeNow_frame]

@[simp] theorem call_faults (ch : Channel) (method : String) :
    (ch.call method).2.faults = ch.faults := by
  rw [call_frame]

@[simp] theorem call_opens (ch : Channel) (method : String) :
    (ch.call method).2.opens = ch.opens := by
  rw [call_frame]

end Channel

namespace Deed

def created? : Deed → Option Nat
  | .created id => some id
  | _ => none

def openResult? (id : Nat) : Deed → Option (Except Channel.Error Unit)
  | .opened (.ofEndpoint other) => if other = id then some (.ok ()) else none
  | .openFailed (.ofEndpoint other) e => if other = id then some (.error e) else none
  | _ => none

/-- What came of the opens of the channel since it was created, oldest first. The deeds are listed
newest first. -/
def openResults (id : Nat) : List Deed → List (Except Channel.Error Unit)
  | [] => []
  | deed :: past =>
    if deed.created? = some id then [] else openResults id past ++ (deed.openResult? id).toList

variable {deed : Deed} {past : List Deed} {id : Nat}

@[simp] theorem ofOpen_created (ref : ChannelRef) (result : Except Channel.Error Unit) :
    (ofOpen ref result).created? = none := by
  cases result <;> rfl

@[simp] theorem ofClose_created (ref : ChannelRef) (result : Except Channel.Error Unit) :
    (ofClose ref result).created? = none := by
  cases result <;> rfl

@[simp] theorem ofOpen_openResult (id : Nat) (ref : ChannelRef)
    (result : Except Channel.Error Unit) :
    (ofOpen ref result).openResult? id = if ref = .ofEndpoint id then some result else none := by
  cases ref <;> cases result <;> simp [ofOpen, openResult?]

@[simp] theorem ofClose_openResult (id : Nat) (ref : ChannelRef)
    (result : Except Channel.Error Unit) :
    (ofClose ref result).openResult? id = none := by
  cases result <;> rfl

theorem openResults_other (made : deed.created? ≠ some id) (other : deed.openResult? id = none) :
    openResults id (deed :: past) = openResults id past := by
  simp [openResults, made, other]

theorem mem_openResults {deeds : List Deed} {e : Channel.Error}
    (once : (deeds.filterMap created?).Nodup)
    (told : [.openFailed (.ofEndpoint id) e, .created id].Sublist deeds) :
    .error e ∈ openResults id deeds := by
  induction deeds with
  | nil => simp at told
  | cons deed past ih =>
      cases told with
      | cons_cons => simp [openResults, created?, openResult?]
      | cons _ told =>
          have before : id ∈ past.filterMap created? := by
            have known : Deed.created id ∈ past := told.subset (by simp)
            exact List.mem_filterMap.mpr ⟨_, known, rfl⟩
          have again : deed.created? ≠ some id := by
            intro made
            simp [made, before] at once
          have rest : (past.filterMap created?).Nodup :=
            once.sublist (List.Sublist.filterMap _ (List.sublist_cons_self deed past))
          simp [openResults, again, ih rest told]

end Deed

/-- An error that an endpoint was told, with the number of the channel that was to be created
next. -/
structure Injection where
  next : Nat
  error : Channel.Error
  deriving DecidableEq, Repr

/-- The open error a channel is created with: the last one that was told while it was to be created
next. -/
def openErrorFor (told : List Injection) (id : Nat) : Option Channel.Error :=
  ((told.filter (·.next = id)).getLast?).map (·.error)

/-- The close error a channel is created with: the last one that was told before. -/
def closeErrorFor (told : List Injection) (id : Nat) : Option Channel.Error :=
  ((told.filter (·.next ≤ id)).getLast?).map (·.error)

section

variable {told more : List Injection} {i : Injection} {id : Nat}

theorem openErrorFor_append (later : ∀ i ∈ more, id < i.next) :
    openErrorFor (told ++ more) id = openErrorFor told id := by
  have none : more.filter (·.next = id) = [] := by
    rw [List.filter_eq_nil_iff]
    intro i member
    have after := later i member
    simp only [decide_eq_true_eq]
    omega
  simp [openErrorFor, List.filter_append, none]

theorem openErrorFor_next : openErrorFor (told ++ [i]) i.next = some i.error := by
  simp [openErrorFor, List.filter_append]

theorem openErrorFor_beyond (due : ∀ i ∈ told, i.next < id) : openErrorFor told id = none := by
  have none : told.filter (·.next = id) = [] := by
    rw [List.filter_eq_nil_iff]
    intro i member
    have before := due i member
    simp only [decide_eq_true_eq]
    omega
  simp [openErrorFor, none]

theorem openErrorFor_target (given : openErrorFor told id ≠ none) : id ∈ told.map (·.next) := by
  by_contra absent
  have none : told.filter (·.next = id) = [] := by simpa using absent
  exact given (by simp [openErrorFor, none])

theorem closeErrorFor_append (later : ∀ i ∈ more, id < i.next) :
    closeErrorFor (told ++ more) id = closeErrorFor told id := by
  have none : more.filter (·.next ≤ id) = [] := by
    rw [List.filter_eq_nil_iff]
    intro i member
    have after := later i member
    simp only [decide_eq_true_eq]
    omega
  simp [closeErrorFor, List.filter_append, none]

theorem closeErrorFor_next : closeErrorFor (told ++ [i]) i.next = some i.error := by
  simp [closeErrorFor, List.filter_append]

theorem closeErrorFor_beyond (due : ∀ i ∈ told, i.next ≤ id) :
    closeErrorFor told (id + 1) = closeErrorFor told id := by
  have all (bound : Nat) (reached : id ≤ bound) : told.filter (·.next ≤ bound) = told := by
    rw [List.filter_eq_self]
    intro i member
    have before := due i member
    simp only [decide_eq_true_eq]
    omega
  simp [closeErrorFor, all]

end

/-- A channel has the errors it was created with, as far as its opens did not take them, and counts
its opens. -/
structure Channel.Booked (opens closes : List Injection) (past : List Deed) (ch : Channel) :
    Prop where
  carries : Carries (openErrorFor opens ch.id) ch.faults.openError (Deed.openResults ch.id past)
  closeError : ch.faults.closeError = closeErrorFor closes ch.id
  counts : ch.opens = (Deed.openResults ch.id past).length

namespace Endpoint

/-- The books of the endpoint agree with what it was told and with what was done, newest first. -/
structure Exact (opens closes : List Injection) (past : List Deed) (e : Endpoint) : Prop where
  numbered : e.Numbered
  created : (past.filterMap Deed.created?).reverse = e.channels.map (·.id)
  opensDue : ∀ i ∈ opens, i.next ≤ e.channels.length + 1
  closesDue : ∀ i ∈ closes, i.next ≤ e.channels.length + 1
  openPending : e.pending.openError = openErrorFor opens (e.channels.length + 1)
  closePending : e.pending.closeError = closeErrorFor closes (e.channels.length + 1)
  booked : ∀ ch ∈ e.channels, ch.Booked opens closes past

variable {e : Endpoint} {ch : Channel} {id : Nat}

theorem numbered_le (numbered : e.Numbered) (member : ch ∈ e.channels) :
    ch.id ≤ e.channels.length := by
  have listed : ch.id ∈ e.channels.map (·.id) := List.mem_map_of_mem member
  rw [numbered, List.mem_range'_1] at listed
  omega

theorem find_numbered (numbered : e.Numbered) (id : Nat) :
    e.find? id = if id = 0 then none else e.channels[id - 1]? := by
  by_cases within : 1 ≤ id ∧ id ≤ e.channels.length
  case pos =>
    have bound : id - 1 < e.channels.length := by omega
    have named : e.channels[id - 1].id = id := by
      have listed := congrArg (·[id - 1]?) numbered
      simp only [List.getElem?_map, List.getElem?_eq_getElem bound, Option.map_some] at listed
      rw [List.getElem?_range' bound] at listed
      simp only [Option.some.injEq] at listed
      omega
    have found := find_member numbered (List.getElem_mem bound)
    rw [named] at found
    rw [found, if_neg (by omega), List.getElem?_eq_getElem bound]
  case neg =>
    have absent : e.find? id = none := by
      rw [← Option.not_isSome_iff_eq_none, numbered_isSome numbered]
      exact within
    rw [absent]
    split
    · rfl
    · rw [List.getElem?_eq_none (by omega)]

namespace Exact

variable {opens closes : List Injection} {past after : List Deed}

theorem start (address : String) : Exact [] [] [] ⟨address, .quiet, []⟩ where
  numbered := rfl
  created := rfl
  opensDue := by simp
  closesDue := by simp
  openPending := rfl
  closePending := rfl
  booked := by simp

theorem created_once (exact : Exact opens closes past e) :
    (past.filterMap Deed.created?).Nodup := by
  rw [← List.nodup_reverse, exact.created, exact.numbered]
  exact List.nodup_range'

theorem replace (exact : Exact opens closes past e)
    (made : after.filterMap Deed.created? = past.filterMap Deed.created?)
    (others : ∀ id, id ≠ ch.id → Deed.openResults id after = Deed.openResults id past)
    (booked : ∀ old, e.find? ch.id = some old → old.Booked opens closes past →
      ch.Booked opens closes after) :
    Exact opens closes after (e.replace ch) := by
  have length : (e.replace ch).channels.length = e.channels.length := by simp [Endpoint.replace]
  constructor
  case numbered => exact replace_numbered exact.numbered ch
  case created => rw [made, exact.created, replace_ids]
  case opensDue => simpa [length] using exact.opensDue
  case closesDue => simpa [length] using exact.closesDue
  case openPending =>
    rw [length]
    exact exact.openPending
  case closePending =>
    rw [length]
    exact exact.closePending
  case booked =>
    intro now member
    obtain ⟨old, known, rfl⟩ := List.mem_map.mp member
    have before := exact.booked old known
    split
    next same => exact booked old (same ▸ find_member exact.numbered known) before
    next other =>
      constructor
      case carries => exact others old.id other ▸ before.carries
      case closeError => exact before.closeError
      case counts => exact others old.id other ▸ before.counts

theorem silent (exact : Exact opens closes past e)
    (made : after.filterMap Deed.created? = past.filterMap Deed.created?)
    (same : ∀ id, Deed.openResults id after = Deed.openResults id past) :
    Exact opens closes after e where
  numbered := exact.numbered
  created := by rw [made, exact.created]
  opensDue := exact.opensDue
  closesDue := exact.closesDue
  openPending := exact.openPending
  closePending := exact.closePending
  booked ch member :=
    have before := exact.booked ch member
    ⟨same ch.id ▸ before.carries, before.closeError, same ch.id ▸ before.counts⟩

theorem create (exact : Exact opens closes past e) :
    Exact opens closes (.created (e.channels.length + 1) :: past) e.create.2 := by
  have length : e.create.2.channels.length = e.channels.length + 1 := by simp [Endpoint.create]
  constructor
  case numbered => exact create_numbered exact.numbered
  case created =>
    simp [Deed.created?, exact.created, Endpoint.create, Channel.fresh]
  case opensDue =>
    rw [length]
    exact fun i member => Nat.le_succ_of_le (exact.opensDue i member)
  case closesDue =>
    rw [length]
    exact fun i member => Nat.le_succ_of_le (exact.closesDue i member)
  case openPending =>
    rw [length, openErrorFor_beyond fun i member => Nat.lt_succ_of_le (exact.opensDue i member)]
    rfl
  case closePending =>
    rw [length, closeErrorFor_beyond exact.closesDue]
    exact exact.closePending
  case booked =>
    intro ch member
    rcases List.mem_append.mp member with known | new
    · have before := exact.booked ch known
      have apart : ch.id ≠ e.channels.length + 1 := by
        have small := numbered_le exact.numbered known
        omega
      have same : Deed.openResults ch.id (.created (e.channels.length + 1) :: past) =
          Deed.openResults ch.id past :=
        Deed.openResults_other (by simp [Deed.created?, Ne.symm apart]) rfl
      exact ⟨same ▸ before.carries, before.closeError, same ▸ before.counts⟩
    · rw [List.mem_singleton.mp new]
      constructor
      case carries =>
        simpa [Deed.openResults, Deed.created?, Channel.fresh,
        Channel.Carries] using exact.openPending
      case closeError => exact exact.closePending
      case counts => simp [Deed.openResults, Deed.created?, Channel.fresh]

theorem retold {otherOpens otherCloses : List Injection} (exact : Exact opens closes past e)
    (pending : Channel.Faults) (opensDue : ∀ i ∈ otherOpens, i.next ≤ e.channels.length + 1)
    (closesDue : ∀ i ∈ otherCloses, i.next ≤ e.channels.length + 1)
    (openPending : pending.openError = openErrorFor otherOpens (e.channels.length + 1))
    (closePending : pending.closeError = closeErrorFor otherCloses (e.channels.length + 1))
    (opensKept : ∀ id ≤ e.channels.length, openErrorFor otherOpens id = openErrorFor opens id)
    (closesKept : ∀ id ≤ e.channels.length, closeErrorFor otherCloses id =
      closeErrorFor closes id) :
    Exact otherOpens otherCloses past { e with pending } := by
  constructor
  case numbered => exact exact.numbered
  case created => exact exact.created
  case opensDue => exact opensDue
  case closesDue => exact closesDue
  case openPending => exact openPending
  case closePending => exact closePending
  case booked =>
    intro ch member
    have before := exact.booked ch member
    have small := numbered_le exact.numbered member
    exact ⟨opensKept _ small ▸ before.carries, before.closeError.trans (closesKept _ small).symm,
      before.counts⟩

theorem due_next {told : List Injection} {next : Nat} (due : ∀ i ∈ told, i.next ≤ next)
    (error : Channel.Error) :
    ∀ i ∈ told ++ [⟨next, error⟩], i.next ≤ next := by
  simp only [List.mem_append, List.mem_singleton]
  rintro i (before | rfl)
  · exact due i before
  · exact Nat.le_refl _

theorem failNextOpen (exact : Exact opens closes past e) (error : Channel.Error) :
    Exact (opens ++ [⟨e.channels.length + 1, error⟩]) closes past
      { e with pending := { e.pending with openError := some error } } := by
  refine exact.retold _
    (due_next exact.opensDue error) exact.closesDue ?_ exact.closePending ?_ fun _ _ => rfl
  · exact (openErrorFor_next (i := ⟨e.channels.length + 1, error⟩)).symm
  · exact fun id known => openErrorFor_append (by simpa using by omega)

theorem failCloses (exact : Exact opens closes past e) (error : Channel.Error) :
    Exact opens (closes ++ [⟨e.channels.length + 1, error⟩]) past
      { e with pending := { e.pending with closeError := some error } } := by
  refine exact.retold _ exact.opensDue (due_next exact.closesDue error) exact.openPending ?_
    (fun _ _ => rfl) ?_
  · exact (closeErrorFor_next (i := ⟨e.channels.length + 1, error⟩)).symm
  · exact fun id known => closeErrorFor_append (by simpa using by omega)

theorem delayHandshakes (exact : Exact opens closes past e) (latency : Nat) :
    Exact opens closes past { e with pending := { e.pending with latency } } :=
  exact.retold _ exact.opensDue exact.closesDue exact.openPending exact.closePending
    (fun _ _ => rfl) fun _ _ => rfl

end Exact

end Endpoint

namespace Network

variable {n : Network} {ref : ChannelRef} {ch : Channel} {opens closes : List Injection}
    {past after : List Deed}

theorem exact_putChannel (exact : n.endpoint.Exact opens closes past) (named : ch.id = ref.id)
    (made : after.filterMap Deed.created? = past.filterMap Deed.created?)
    (others : ∀ id, ref ≠ .ofEndpoint id → Deed.openResults id after = Deed.openResults id past)
    (booked : ∀ id, ref = .ofEndpoint id → (n.channel ref).Booked opens closes past →
      ch.Booked opens closes after) :
    (n.putChannel ref ch).endpoint.Exact opens closes after := by
  cases ref with
  | standalone => exact exact.silent made fun id => others id nofun
  | ofEndpoint id =>
      have same : ch.id = id := named
      refine exact.replace made ?_ ?_
      · intro other apart
        refine others other fun equal => apart ?_
        cases equal
        exact same.symm
      · intro old found before
        have here : n.channel (.ofEndpoint id) = old := by
          rw [channel_endpoint, ← same, found, Option.getD_some]
        exact booked id rfl (here ▸ before)

theorem exact_kept (exact : n.endpoint.Exact opens closes past) (named : ch.id = (n.channel ref).id)
    (faults : ch.faults.openError = (n.channel ref).faults.openError ∧
      ch.faults.closeError = (n.channel ref).faults.closeError)
    (count : ch.opens = (n.channel ref).opens)
    (made : after.filterMap Deed.created? = past.filterMap Deed.created?)
    (same : ∀ id, Deed.openResults id after = Deed.openResults id past) :
    (n.putChannel ref ch).endpoint.Exact opens closes after := by
  refine exact_putChannel exact (named.trans (n.channel_id ref)) made (fun id _ => same id) ?_
  intro id _ before
  constructor
  case carries =>
    rw [named, faults.1, same]
    exact before.carries
  case closeError =>
    rw [named, faults.2]
    exact before.closeError
  case counts =>
    rw [named, count, same]
    exact before.counts

theorem exact_openNow (exact : n.endpoint.Exact opens closes past) (ref : ChannelRef) :
    (n.putChannel ref (n.channel ref).openNow.2).endpoint.Exact opens closes
      (.ofOpen ref (n.channel ref).openNow.1 :: past) := by
  have named := Channel.openNow_id (n.channel ref)
  refine exact_putChannel exact (named.trans (n.channel_id ref)) (by simp) ?_ ?_
  · intro id apart
    exact Deed.openResults_other (by simp) (by simp [apart])
  · rintro id rfl before
    have here : (n.channel (.ofEndpoint id)).id = id := n.channel_id _
    have results :
        Deed.openResults id
            (.ofOpen (.ofEndpoint id) (n.channel (.ofEndpoint id)).openNow.1 :: past) =
          Deed.openResults id past ++ [(n.channel (.ofEndpoint id)).openNow.1] := by
      simp [Deed.openResults]
    constructor
    case carries =>
      have carries := before.carries
      rw [here] at carries
      rw [named, here, results, Channel.openNow_openError]
      exact carries.openNow
    case closeError =>
      rw [named, Channel.openNow_closeError]
      exact before.closeError
    case counts =>
      rw [named, here, results, Channel.openNow_counts, before.counts, here, List.length_append]
      rfl

end Network

end RemoteClient
