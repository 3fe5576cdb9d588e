import RemoteClient.Proofs.Interleaving.Choices
import RemoteClient.Proofs.Interleaving.Firing

namespace RemoteClient.Interleaving

/-- The computation puts some deeds on top of the history, and ends with what `T` says of its
result, the deeds, newest first, and the network it leaves. -/
def Tells {α : Type} (n : Network) (act : Act α) (T : α → List Deed → Network → Prop) : Prop :=
  ∃ deeds, (act.run n).2.history = deeds ++ n.history ∧ T (act.run n).1 deeds (act.run n).2

section

variable {α β : Type} {n : Network}

theorem tells_pure {T : α → List Deed → Network → Prop} {a : α} (holds : T a [] n) :
    Tells n (pure a) T :=
  ⟨[], rfl, holds⟩

theorem tells_bind {act : Act α} {f : α → Act β} {T : α → List Deed → Network → Prop}
    {U : β → List Deed → Network → Prop} (first : Tells n act T)
    (second : ∀ a deeds m, T a deeds m → Tells m (f a) fun b more l => U b (more ++ deeds) l) :
    Tells n (act >>= f) U := by
  obtain ⟨deeds, added, told⟩ := first
  obtain ⟨more, readded, retold⟩ := second _ _ _ told
  exact ⟨more ++ deeds, by rw [Act.run_bind, readded, added, List.append_assoc], retold⟩

theorem tells_weaken {act : Act α} {T U : α → List Deed → Network → Prop} (tells : Tells n act T)
    (implies : ∀ a deeds m, T a deeds m → U a deeds m) : Tells n act U := by
  obtain ⟨deeds, added, told⟩ := tells
  exact ⟨deeds, added, implies _ _ _ told⟩

theorem tells_silent {act : Act α} {f : α → Act β} {T : β → List Deed → Network → Prop} {a : α}
    {m : Network} (ran : act.run n = (a, m)) (silent : m.history = n.history)
    (then' : Tells m (f a) T) :
    Tells n (act >>= f) T := by
  obtain ⟨deeds, added, told⟩ := then'
  have all : (act >>= f).run n = (f a).run m := by rw [Act.run_bind, ran]
  exact ⟨deeds, by rw [all, added, silent], by rw [all]; exact told⟩

theorem tells_result {act : Act α} {T : α → List Deed → Network → Prop} (tells : Tells n act T) :
    Tells n act fun a deeds m => a = (act.run n).1 ∧ T a deeds m := by
  obtain ⟨deeds, added, told⟩ := tells
  exact ⟨deeds, added, rfl, told⟩

theorem tells_leads {act : Act α} {T : α → List Deed → Network → Prop} {P : Network → Prop}
    {Q : α → Network → Prop} (tells : Tells n act T) (leads : Leads P act Q) (holds : P n) :
    Tells n act fun a deeds m => T a deeds m ∧ Q a m := by
  obtain ⟨deeds, added, told⟩ := tells
  exact ⟨deeds, added, told, leads n holds⟩

theorem tells_quiet {act : Act α} (quiet : Quiet act) (n : Network) :
    Tells n act fun _ deeds _ => deeds = [] := by
  have same : sign .outside (act.run n).2.history ++ [] = sign .outside n.history ++ [] :=
    congrArg Ledger.history (quiet [] .outside n)
  rw [List.append_nil, List.append_nil] at same
  exact ⟨[], List.map_injective_iff.mpr (fun _ _ equal => (Record.mk.inj equal).2) same, rfl⟩

theorem tells_note {event : Log.Event} {f : Unit → Act β} {T : β → List Deed → Network → Prop}
    (then' : Tells { n with log := event :: n.log } (f ()) T) : Tells n (Act.note event >>= f) T :=
  tells_silent rfl rfl then'

end

/-! ## Single channels -/

/-- What a shutdown of a channel does to it, and gives. Where a graceful close fails the channel is
aborted, and only an error of no known kind is given. -/
inductive Shuts (ref : ChannelRef) : Except Channel.Error Unit → List Deed → Prop
  | aborted : Shuts ref (.ok ()) [.aborted ref]
  | spared : Shuts ref (.ok ()) [.spared ref]
  | closed : Shuts ref (.ok ()) [.closed ref]
  | absorbed {e : Channel.Error} (transient : e.kind.isTransient) :
      Shuts ref (.ok ()) [.aborted ref, .closeFailed ref e]
  | raised {e : Channel.Error} (other : e.kind = .other) :
      Shuts ref (.error e) [.aborted ref, .closeFailed ref e]

def Ends (ref : ChannelRef) : Progress Handshake (Except Channel.Error Unit) → List Deed → Prop
  | .pending _, deeds => deeds = []
  | .done result, deeds => Shuts ref result deeds

section

variable {n : Network} {ref : ChannelRef}

theorem abort_tells (ref : ChannelRef) (n : Network) :
    Tells n (Act.abort ref) fun _ deeds _ => deeds = [.aborted ref] := by
  obtain ⟨log, ran⟩ := run_abort ref n
  exact ⟨[.aborted ref], by rw [ran]; rfl, rfl⟩

theorem openNow_account (ref : ChannelRef) (n : Network) :
    Tells n (Act.openNow ref) fun result deeds m => deeds = [.ofOpen ref result] ∧ sameSlots n m :=
  ⟨[.ofOpen ref ((Act.openNow ref).run n).1], by cases ref <;> rfl, rfl,
    sameSlots_tolerant.within_openNow ref n⟩

theorem closeNow_tells (ref : ChannelRef) (n : Network) :
    Tells n (Act.closeNow ref) fun result deeds _ => deeds = [.ofClose ref result] :=
  ⟨[.ofClose ref ((Act.closeNow ref).run n).1], by cases ref <;> rfl, rfl⟩

theorem other_kind {e : Channel.Error} (lasting : ¬ e.kind.isTransient) : e.kind = .other := by
  cases kind : e.kind <;> simp_all [Channel.FaultKind.isTransient]

theorem abortAfterFailedClose_tells (e : Channel.Error) (n : Network) :
    Tells n (Act.abortAfterFailedClose ref e) fun result deeds _ => deeds = [.aborted ref] ∧
      (e.kind.isTransient ∧ result = .ok () ∨ e.kind = .other ∧ result = .error e) := by
  refine tells_bind (abort_tells ref n) fun _ deeds m done => ?_
  dsimp only
  split
  next transient => exact tells_note (tells_pure ⟨done, .inl ⟨transient, rfl⟩⟩)
  next lasting => exact tells_note (tells_pure ⟨done, .inr ⟨other_kind lasting, rfl⟩⟩)

theorem afterClose_tells (result : Except Channel.Error Unit) (n : Network) :
    Tells n (Act.afterClose ref result) fun last deeds _ =>
      Shuts ref last (deeds ++ [.ofClose ref result]) := by
  cases result with
  | ok => exact tells_pure .closed
  | error e =>
      refine tells_weaken (abortAfterFailedClose_tells e n) fun last deeds m told => ?_
      obtain ⟨rfl, ⟨transient, rfl⟩ | ⟨other, rfl⟩⟩ := told
      · exact .absorbed transient
      · exact .raised other

theorem shutdownChannel_tells (ref : ChannelRef) (alwaysAbort : Bool) (n : Network) :
    Tells n (Act.shutdownChannel ref alwaysAbort) fun result deeds _ => Shuts ref result deeds := by
  refine tells_silent rfl rfl ?_
  cases Channel.ShutdownAction.choose (n.channel ref).state alwaysAbort with
  | abort =>
      exact tells_bind (abort_tells ref n) fun _ deeds m done =>
        tells_pure (by rw [done]; exact .aborted)
  | nothing => exact ⟨[.spared ref], rfl, .spared⟩
  | close =>
      refine tells_bind (closeNow_tells ref n) fun result deeds m done => ?_
      rw [done]
      exact afterClose_tells result m

theorem startShutdownChannel_tells (ref : ChannelRef) (alwaysAbort : Bool) (n : Network) :
    Tells n (Act.startShutdownChannel ref alwaysAbort) fun progress deeds _ =>
      Ends ref progress deeds := by
  refine tells_silent rfl rfl ?_
  cases Channel.ShutdownAction.choose (n.channel ref).state alwaysAbort with
  | abort =>
      exact tells_bind (abort_tells ref n) fun _ deeds m done =>
        tells_pure (by rw [done]; exact Shuts.aborted)
  | nothing => exact ⟨[.spared ref], rfl, Shuts.spared⟩
  | close => exact tells_pure rfl

theorem wake_abort {deadline : Nat} (woken : ((Act.wake? ref deadline).run n).1 = some .abort) :
    (n.channel ref).aborted := by
  change (if (n.channel ref).aborted && decide (deadline ≤ n.clock)
    then some (if n.timerWins then Wake.time else .abort)
    else if (n.channel ref).aborted then some .abort
    else if decide (deadline ≤ n.clock) then some .time else none) = _ at woken
  by_contra fine
  have unaborted : (n.channel ref).aborted = false := by simpa using fine
  rw [unaborted] at woken
  by_cases elapsed : deadline ≤ n.clock <;> simp [elapsed] at woken

theorem check_tells (ref : ChannelRef) (deadline since : Nat) (n : Network) :
    Tells n (Handshake.check ref deadline since) fun progress deeds _ => deeds = [] ∧
      ∀ e, progress = .done (.error e) → e = .aborted ∧ (n.channel ref).aborted := by
  refine tells_silent (m := n) (a := ((Act.wake? ref deadline).run n).1) rfl rfl ?_
  cases woken : ((Act.wake? ref deadline).run n).1 with
  | none => exact tells_pure ⟨rfl, fun e failed => nomatch failed⟩
  | some wake =>
      cases wake with
      | time => exact tells_pure ⟨rfl, fun e failed => nomatch failed⟩
      | abort =>
          refine tells_pure ⟨rfl, fun e failed => ?_⟩
          cases failed
          exact ⟨rfl, wake_abort woken⟩

theorem resume_tells (ref : ChannelRef) (h : Handshake) (n : Network) :
    Tells n (h.resume ref) fun progress deeds _ => deeds = [] ∧
      ∀ e, progress = .done (.error e) → e = .aborted ∧ (n.channel ref).aborted := by
  cases h with
  | waiting deadline since => exact check_tells ref deadline since n
  | turn =>
      refine tells_silent rfl rfl ?_
      dsimp only
      split
      · exact tells_pure ⟨rfl, fun e failed => nomatch failed⟩
      · refine tells_silent rfl rfl (tells_silent (m := { n with waits := n.waits + 1 }) rfl rfl ?_)
        refine tells_weaken (check_tells ref _ n.waits _) fun progress deeds m told => ?_
        refine ⟨told.1, fun e failed => ⟨(told.2 e failed).1, ?_⟩⟩
        have aborted := (told.2 e failed).2
        cases ref <;> exact aborted

theorem resumeOpen_tells (ref : ChannelRef) (h : Handshake) (n : Network) :
    Tells n (Act.resumeOpen ref h) fun
      | .pending _, deeds, _ => deeds = []
      | .done (.ok ()), deeds, _ => deeds = [.opened ref]
      | .done (.error e), deeds, _ =>
        deeds = [.openFailed ref e] ∨ deeds = [] ∧ e = .aborted ∧ (n.channel ref).aborted := by
  refine tells_bind (resume_tells ref h n) fun progress deeds m waited => ?_
  obtain ⟨rfl, interrupted⟩ := waited
  rcases progress with rest | e | _
  · exact tells_pure rfl
  · exact tells_pure (.inr ⟨rfl, interrupted e rfl⟩)
  · refine tells_bind (openNow_account ref m) fun result deeds l told => tells_pure ?_
    rw [told.1]
    cases result with
    | ok => rfl
    | error e => exact .inl rfl

theorem resumeShutdownChannel_tells (ref : ChannelRef) (h : Handshake) (n : Network) :
    Tells n (Act.resumeShutdownChannel ref h) fun progress deeds _ => Ends ref progress deeds := by
  have closes : Tells n (Act.resumeClose ref h) fun
      | .pending _, deeds, _ => deeds = []
      | .done result, deeds, _ =>
          deeds = [.ofClose ref result] ∨ deeds = [] ∧ result = .error .aborted := by
    refine tells_bind (resume_tells ref h n) fun progress deeds m waited => ?_
    obtain ⟨rfl, interrupted⟩ := waited
    rcases progress with rest | e | _
    · exact tells_pure rfl
    · exact tells_pure (.inr ⟨rfl, by rw [(interrupted e rfl).1]⟩)
    · exact tells_bind (closeNow_tells ref m) fun result deeds l told =>
        tells_pure (.inl (by simp [told]))
  refine tells_bind closes fun progress deeds m told => ?_
  cases progress with
  | pending rest => exact tells_pure told
  | done result =>
      obtain rfl | ⟨rfl, rfl⟩ := told
      · exact tells_bind (afterClose_tells result m) fun _ _ _ done => tells_pure done
      · refine tells_bind (abortAfterFailedClose_tells .aborted m) fun last deeds l done =>
          tells_pure ?_
        obtain ⟨rfl, ⟨_, rfl⟩ | ⟨other, _⟩⟩ := done
        · exact .aborted
        · cases other

theorem abandonHandshake_tells (ref : ChannelRef) (n : Network) :
    Tells n (Act.abandonHandshake ref) fun _ deeds _ => deeds = [.aborted ref] :=
  tells_silent rfl rfl (tells_note (abort_tells ref _))

end

/-! ## The slot -/

/-- What an acquire does about the channel it finds in the slot: one that can be used is left there.
Any other one is taken out, and aborted if it is faulted; it is never closed. -/
inductive Clears (n : Network) (c : Nat) : List Deed → Prop
  | useful (usable : ∀ id, Keeps n c id → (n.channel (.ofEndpoint id)).state.isUsable) :
      Clears n c []
  | faulted {id : Nat} (kept : Keeps n c id)
      (state : (n.channel (.ofEndpoint id)).state = .faulted) :
      Clears n c [.aborted (.ofEndpoint id), .removed c id]
  | closed {id : Nat} (kept : Keeps n c id) (state : (n.channel (.ofEndpoint id)).state = .closed) :
      Clears n c [.spared (.ofEndpoint id), .removed c id]

/-- What an acquire comes upon: a channel that it can use as it begins, its own channel aborted by
others while it waits, a rival in the slot when its own channel is open. Or it is given up. -/
structure Meets where
  usable : Nat → Prop
  aborted : Nat → Prop
  rival : Nat → Prop
  givenUp : Prop

/-- What an acquire has done when it ends, apart from what it did about the channel it found. It
gives a channel that it has met in the slot, one it has opened and put there, or the error with
which that open failed. An open also fails where its channel was aborted while it waited. -/
inductive Obtains (met : Meets) (c : Nat) : Except Channel.Error Nat → List Deed → Prop
  | reused {id : Nat} (seen : met.usable id) : Obtains met c (.ok id) []
  | refused {id : Nat} {e : Channel.Error} : Obtains met c (.error e)
      [.aborted (.ofEndpoint id), .openFailed (.ofEndpoint id) e, .created id]
  | interrupted {id : Nat} (found : met.aborted id) :
      Obtains met c (.error .aborted) [.aborted (.ofEndpoint id), .created id]
  | won {id : Nat} :
      Obtains met c (.ok id) [.installed c id, .opened (.ofEndpoint id), .created id]
  | lost {id winner : Nat} {result : Except Channel.Error Unit} {deeds : List Deed}
      (seen : met.rival winner)
      (shuts : Shuts (.ofEndpoint id) result deeds) :
      Obtains met c (.ok winner) (deeds ++ [.opened (.ofEndpoint id), .created id])

def paid : Acquiring → List Deed
  | .retiring _ _ => []
  | .opening id _ => [.created id]
  | .discarding _ id _ => [.opened (.ofEndpoint id), .created id]

/-- Where an acquire stands, and what it has done so far. -/
def Gets (met : Meets) (c : Nat) : Progress Acquiring (Except Channel.Error Nat) → List Deed → Prop
  | .pending a, deeds => deeds = paid a ∧ ∀ winner, a.winner? = some winner → met.rival winner
  | .done result, deeds => Obtains met c result deeds

section

variable {n : Network} {c : Nat} {met : Meets}

theorem stale_cases {state : Channel.State} (useless : ¬ state.isUsable) :
    state = .faulted ∨ state = .closed := by
  cases state <;> simp_all [Channel.State.isUsable, Channel.State.isStale]

theorem takeStale_tells (c : Nat) (n : Network) : Tells n (Act.takeStale c) fun
    | none, deeds, _ =>
        deeds = [] ∧ ∀ id, Keeps n c id → (n.channel (.ofEndpoint id)).state.isUsable
    | some id, deeds, m => deeds = [.removed c id] ∧ Keeps n c id ∧
      ¬ (n.channel (.ofEndpoint id)).state.isUsable ∧
      m.channel (.ofEndpoint id) = n.channel (.ofEndpoint id) := by
  refine tells_silent rfl rfl ?_
  cases slot : (n.controller c).slot with
  | none => exact tells_pure ⟨rfl, fun id kept => by simp [Keeps, slot] at kept⟩
  | some held =>
      refine tells_silent rfl rfl ?_
      have kept : Keeps n c held.channel := by simp [Keeps, slot]
      by_cases usable : (n.channel (.ofEndpoint held.channel)).state.isUsable
      · rw [if_pos usable]
        refine tells_pure ⟨rfl, fun id other => ?_⟩
        cases kept.symm.trans other
        exact usable
      · rw [if_neg usable]
        exact ⟨[.removed c held.channel], rfl, rfl, kept, usable, rfl⟩

/-- A stale channel is aborted or left alone at once, and nothing can go wrong with that. -/
theorem shut_stale {ref : ChannelRef} (useless : ¬ (n.channel ref).state.isUsable) :
    Tells n (Act.shutdownChannel ref false) fun result deeds _ => result = .ok () ∧
      ((n.channel ref).state = .faulted ∧ deeds = [.aborted ref] ∨
        (n.channel ref).state = .closed ∧ deeds = [.spared ref]) := by
  refine tells_silent rfl rfl ?_
  rcases stale_cases useless with faulted | closed
  · rw [faulted]
    exact tells_bind (abort_tells ref n) fun _ deeds m done => tells_pure ⟨rfl, .inl ⟨rfl, done⟩⟩
  · rw [closed]
    exact ⟨[.spared ref], rfl, rfl, .inr ⟨rfl, rfl⟩⟩

theorem discardStale_tells (c : Nat) (n : Network) :
    Tells n (Act.discardStale c) fun _ deeds _ => Clears n c deeds := by
  refine tells_bind (takeStale_tells c n) fun found deeds m told => ?_
  cases found with
  | none =>
      obtain ⟨rfl, usable⟩ := told
      exact tells_pure (.useful usable)
  | some id =>
      obtain ⟨rfl, kept, useless, same⟩ := told
      rw [← same] at useless
      refine tells_weaken (shut_stale useless) fun _ deeds l shut => ?_
      rw [same] at shut
      obtain ⟨_, ⟨faulted, rfl⟩ | ⟨closed, rfl⟩⟩ := shut
      · exact .faulted kept faulted
      · exact .closed kept closed

theorem create_tells (n : Network) : Tells n Act.create fun id deeds _ => deeds = [.created id] :=
  ⟨[.created _], rfl, rfl⟩

theorem install_tells (c id : Nat) (n : Network) : Tells n (Act.install c id) fun
    | .won, deeds, _ => deeds = [.installed c id]
    | .lostTo winner, deeds, _ => deeds = [] ∧ Keeps n c winner := by
  refine tells_silent rfl rfl ?_
  cases slot : (n.controller c).slot with
  | none => exact tells_note ⟨[.installed c id], rfl, rfl⟩
  | some held => exact tells_pure ⟨rfl, by simp [Keeps, slot]⟩

theorem vacant_unkept (vacant : Vacant c n) (id : Nat) : ¬ Keeps n c id := by
  intro kept
  rw [Keeps, show (n.controller c).slot = none from vacant] at kept
  cases kept

theorem openFresh_tells (vacant : Vacant c n) :
    Tells n (Act.openFresh c) fun result deeds _ => Obtains met c result deeds := by
  have kept : Leads (Vacant c) Act.create fun _ => Vacant c := leads_same create_same
  refine tells_bind (tells_leads (create_tells n) kept vacant) fun id deeds m made => ?_
  obtain ⟨rfl, vacant⟩ := made
  refine tells_bind (openNow_account (.ofEndpoint id) m) fun result deeds l opened => ?_
  obtain ⟨rfl, same⟩ := opened
  cases result with
  | error e =>
      refine tells_note
        (tells_bind (abort_tells (.ofEndpoint id) _) fun _ deeds _ done => tells_pure ?_)
      rw [done]
      exact .refused
  | ok =>
      refine tells_bind (install_tells c id l) fun outcome deeds k installed => ?_
      cases outcome with
      | won =>
          rw [show deeds = _ from installed]
          exact tells_pure .won
      | lostTo winner =>
          exact absurd ((keeps_same same).mp installed.2) (vacant_unkept vacant winner)

theorem reuses_clears {id : Nat} (reuses : Reuses n c id) : Clears n c [] := by
  refine .useful fun other kept => ?_
  cases reuses.1.symm.trans kept
  exact reuses.2

theorem reused_tells {α : Type} {act : Act α} {a : α} {id : Nat}
    {T : α → List Deed → Network → Prop} (reuses : Reuses n c id) (ran : act.run n = (a, n))
    (holds : T a [] n) :
    Tells n act fun a deeds m => ∃ own stale, deeds = own ++ stale ∧ Clears n c stale ∧
      T a own m := by
  refine ⟨[], by rw [ran]; rfl, [], [], rfl, reuses_clears reuses, ?_⟩
  rwa [ran]

theorem cleared_tells {α : Type} {act rest : Act α} {T : α → List Deed → Network → Prop}
    (ran : act.run n = rest.run ((Act.discardStale c).run n).2)
    (tells : Tells ((Act.discardStale c).run n).2 rest T) :
    Tells n act fun a deeds m => ∃ own stale, deeds = own ++ stale ∧ Clears n c stale ∧
      T a own m := by
  obtain ⟨stale, added, clears⟩ := discardStale_tells c n
  obtain ⟨own, told, holds⟩ := tells
  refine ⟨own ++ stale, ?_, own, stale, rfl, clears, by rwa [ran]⟩
  rw [ran, told, added, List.append_assoc]

theorem acquire_tells (found : ∀ id, Reuses n c id → met.usable id) :
    Tells n (Act.acquire c) fun result deeds _ =>
    ∃ own stale, deeds = own ++ stale ∧ Clears n c stale ∧ Obtains met c result own := by
  obtain ⟨id, reuses, ran⟩ | ⟨_, vacant, ran⟩ := acquire_cases c n
  · exact reused_tells reuses ran (.reused (found id reuses))
  · exact cleared_tells ran (openFresh_tells vacant)

theorem startAcquire_tells (found : ∀ id, Reuses n c id → met.usable id) :
    Tells n (Act.startAcquire c) fun progress deeds _ =>
      ∃ own stale, deeds = own ++ stale ∧ Clears n c stale ∧ Gets met c progress own := by
  obtain ⟨id, reuses, ran⟩ | ⟨_, _, ran⟩ := startAcquire_cases c n
  · exact reused_tells reuses ran (.reused (found id reuses))
  · refine cleared_tells ran (tells_bind (create_tells _) fun id deeds l made => tells_pure ?_)
    rw [made]
    exact ⟨rfl, fun winner won => nomatch won⟩

theorem settleLoser_tells {winner id : Nat} (seen : met.rival winner)
    {progress : Progress Handshake (Except Channel.Error Unit)} {deeds : List Deed}
    (shut : Ends (.ofEndpoint id) progress deeds) (n : Network) :
    Tells n (Act.settleLoser winner id progress) fun next more _ =>
      Gets met c next (more ++ deeds ++ [.opened (.ofEndpoint id), .created id]) := by
  cases progress with
  | pending h =>
      rw [show deeds = _ from shut]
      refine tells_pure ⟨rfl, fun other won => ?_⟩
      cases won
      exact seen
  | done result =>
      refine tells_bind (tells_quiet (quiet_noteLoserKept result) n) fun _ _ _ silent =>
        tells_pure ?_
      rw [silent]
      exact .lost seen shut

theorem resumeAcquire_tells (c : Nat) (a : Acquiring) (prompt : a.retires = false) (n : Network)
    (found : ∀ id h, a = .opening id h →
      ((Act.resumeOpen (.ofEndpoint id) h).run n).1 = .done (.error .aborted) →
      (n.channel (.ofEndpoint id)).aborted → met.aborted id)
    (seen : ∀ winner, a.winner? = some winner ∨ a.winner? = none ∧ Keeps n c winner →
      met.rival winner) :
    Tells n (Act.resumeAcquire c a) fun progress deeds _ =>
      Gets met c progress (deeds ++ paid a) := by
  cases a with
  | retiring => cases prompt
  | discarding winner id h =>
      refine tells_bind
        (resumeShutdownChannel_tells (.ofEndpoint id) h n) fun progress deeds m shut => ?_
      exact settleLoser_tells (seen winner (.inl rfl)) shut m
  | opening id h =>
      have account := tells_result (resumeOpen_tells (.ofEndpoint id) h n)
      refine tells_bind (tells_leads account (resumeOpen_leads n (.ofEndpoint id) h) rfl)
        fun progress deeds m told => ?_
      obtain ⟨⟨ended, opened⟩, same, _⟩ := told
      rcases progress with rest | e | _
      · rw [show deeds = _ from opened]
        exact tells_pure ⟨rfl, fun winner won => nomatch won⟩
      · refine tells_note
          (tells_bind (abandonHandshake_tells (.ofEndpoint id) _) fun _ _ _ done => ?_)
        refine tells_pure ?_
        rw [done]
        obtain rfl | ⟨rfl, rfl, interrupted⟩ := opened
        · exact .refused
        · exact .interrupted (found id h rfl ended.symm interrupted)
      · rw [show deeds = _ from opened]
        refine tells_bind (install_tells c id m) fun outcome deeds l installed => ?_
        cases outcome with
        | won =>
            rw [show deeds = _ from installed]
            exact tells_pure .won
        | lostTo winner =>
            obtain ⟨rfl, kept⟩ := installed
            have lodged : met.rival winner := seen winner (.inr ⟨rfl, (keeps_same same).mp kept⟩)
            refine tells_bind (startShutdownChannel_tells (.ofEndpoint id) false l)
              fun progress deeds k shut => ?_
            exact tells_weaken (settleLoser_tells lodged shut k) fun _ _ _ gets => by
              simpa [paid] using gets

end

/-! ## Shutdowns -/

/-- What a shutdown of the controller does: it takes the channel out of the slot, if there is one,
and shuts that down. -/
inductive Empties (n : Network) (c : Nat) : Except Channel.Error Unit → List Deed → Prop
  | vacant (free : Vacant c n) : Empties n c (.ok ()) []
  | shut {id : Nat} {result : Except Channel.Error Unit} {deeds : List Deed} (kept : Keeps n c id)
      (shuts : Shuts (.ofEndpoint id) result deeds) : Empties n c result (deeds ++ [.removed c id])

def Emptying (n : Network) (c : Nat) : Progress Closing (Except Channel.Error Unit) →
    List Deed → Prop
  | .pending s, deeds => deeds = [.removed c s.channel] ∧ Keeps n c s.channel
  | .done result, deeds => Empties n c result deeds

section

variable {n : Network} {c : Nat}

theorem Ends.emptying {id : Nat} {progress : Progress Handshake (Except Channel.Error Unit)}
    {deeds : List Deed} (ends : Ends (.ofEndpoint id) progress deeds) (kept : Keeps n c id) :
    Emptying n c (progress.map (⟨id, ·⟩)) (deeds ++ [.removed c id]) := by
  cases progress with
  | pending h =>
      rw [show deeds = [] from ends]
      exact ⟨rfl, kept⟩
  | done result => exact .shut kept ends

theorem take_tells (c : Nat) (n : Network) : Tells n (Act.take c) fun
    | none, deeds, _ => deeds = [] ∧ Vacant c n
    | some id, deeds, _ => deeds = [.removed c id] ∧ Keeps n c id := by
  refine tells_silent rfl rfl ?_
  cases slot : (n.controller c).slot with
  | none => exact tells_pure ⟨rfl, slot⟩
  | some held => exact ⟨[.removed c held.channel], rfl, rfl, by simp [Keeps, slot]⟩

theorem shutdown_tells (c : Nat) (alwaysAbort : Bool) (n : Network) :
    Tells n (Act.shutdown c alwaysAbort) fun result deeds _ => Empties n c result deeds := by
  refine tells_bind (take_tells c n) fun found deeds m told => ?_
  cases found with
  | none =>
      obtain ⟨rfl, free⟩ := told
      exact tells_pure (.vacant free)
  | some id =>
      obtain ⟨rfl, kept⟩ := told
      exact tells_weaken (shutdownChannel_tells (.ofEndpoint id) alwaysAbort m) fun _ _ _ =>
        .shut kept

theorem startShutdown_tells (c : Nat) (alwaysAbort : Bool) (n : Network) :
    Tells n (Act.startShutdown c alwaysAbort) fun progress deeds _ =>
      Emptying n c progress deeds := by
  refine tells_bind (take_tells c n) fun found deeds m told => ?_
  cases found with
  | none =>
      obtain ⟨rfl, free⟩ := told
      exact tells_pure (.vacant free)
  | some id =>
      obtain ⟨rfl, kept⟩ := told
      exact tells_bind (startShutdownChannel_tells (.ofEndpoint id) alwaysAbort m) fun _ _ _ ends =>
        tells_pure (ends.emptying kept)

theorem resumeShutdown_tells (s : Closing) (n : Network) {first : Network}
    (kept : Keeps first c s.channel) :
    Tells n (Act.resumeShutdown s) fun progress deeds _ =>
      Emptying first c progress (deeds ++ [.removed c s.channel]) :=
  tells_bind (resumeShutdownChannel_tells (.ofEndpoint s.channel) s.handshake n) fun _ _ _ ends =>
    tells_pure (ends.emptying kept)

theorem invalidate_tells (c id : Nat) (alwaysAbort : Bool) (n : Network) :
    Tells n (Act.invalidate c id alwaysAbort) fun result deeds _ => ∃ shut,
      deeds = shut ++ (if Keeps n c id then [.removed c id] else []) ∧
        Shuts (.ofEndpoint id) result shut := by
  obtain ⟨m, ran, _, _, _, history⟩ := run_detach c id n
  have detaches : Tells n (Act.detach c id) fun _ deeds _ =>
      deeds = if Keeps n c id then [.removed c id] else [] :=
    ⟨_, by rw [ran]; exact history, rfl⟩
  refine tells_bind detaches fun _ deeds m told => ?_
  rw [told]
  exact tells_weaken (shutdownChannel_tells (.ofEndpoint id) alwaysAbort m) fun _ shut _ shuts =>
    ⟨shut, rfl, shuts⟩

end

end RemoteClient.Interleaving
