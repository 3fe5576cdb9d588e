import RemoteClient.Proofs.Interleaving.Firing

namespace RemoteClient

namespace Interleaving

/-- Of all channels only this one has changed, and no slot has. What it had of injected open errors,
it had before. -/
structure Amends (id : Nat) (n m : Network) : Prop where
  others : ∀ {ref : ChannelRef}, ref ≠ .ofEndpoint id → m.channel ref = n.channel ref
  has : ∀ ref, m.Has ref ↔ n.Has ref
  errors : ∀ {e : Channel.Error}, (m.channel (.ofEndpoint id)).faults.openError = some e →
    (n.channel (.ofEndpoint id)).faults.openError = some e
  pending : m.endpoint.pending = n.endpoint.pending
  slots : m.controllers = n.controllers

namespace Amends

variable {id : Nat} {n m l : Network}

theorem trans (first : Amends id n m) (second : Amends id m l) : Amends id n l where
  others apart := (second.others apart).trans (first.others apart)
  has ref := (second.has ref).trans (first.has ref)
  errors held := first.errors (second.errors held)
  pending := second.pending.trans first.pending
  slots := second.slots.trans first.slots

theorem told (id : Nat) (n : Network) (waits : Nat) (log : List Log.Event) (history : List Deed) :
    Amends id n { n with waits := waits, log := log, history := history } where
  others {ref} _ := by cases ref <;> rfl
  has ref := by cases ref <;> rfl
  errors held := held
  pending := rfl
  slots := rfl

end Amends

section

variable {id : Nat} {n : Network}

structure Leaves (id : Nat) (ch : Channel) (deed : Deed) (n m : Network) : Prop where
  amends : Amends id n m
  channel : m.channel (.ofEndpoint id) = ch
  history : m.history = deed :: n.history

theorem put_leaves {ch : Channel} {deed : Deed} (has : n.Has (.ofEndpoint id)) (named : ch.id = id)
    (errors : ∀ e, ch.faults.openError = some e →
      (n.channel (.ofEndpoint id)).faults.openError = some e) (log : List Log.Event) :
    Leaves id ch deed n
      { n.putChannel (.ofEndpoint id) ch with log := log, history := deed :: n.history } := by
  have put : (n.putChannel (.ofEndpoint id) ch).channel (.ofEndpoint id) = ch :=
    Network.channel_putChannel_same named has
  constructor
  case channel => exact put
  case history => rfl
  case amends =>
    constructor
    case others =>
      intro ref apart
      have same : (n.putChannel (.ofEndpoint id) ch).channel ref = n.channel ref :=
        Network.channel_putChannel_other named apart
      cases ref <;> exact same
    case has =>
      intro ref
      have same := n.has_putChannel (.ofEndpoint id) ch ref
      cases ref <;> exact same
    case errors =>
      intro e held
      exact errors e (by rwa [← put])
    case pending => rfl
    case slots => rfl

theorem openNow_leaves (has : n.Has (.ofEndpoint id)) :
    ∃ m, (Act.openNow (.ofEndpoint id)).run n = ((n.channel (.ofEndpoint id)).openNow.1, m) ∧
      Leaves id (n.channel (.ofEndpoint id)).openNow.2
        (.ofOpen (.ofEndpoint id) (n.channel (.ofEndpoint id)).openNow.1) n m := by
  have named : (n.channel (.ofEndpoint id)).openNow.2.id = id := by
    rw [Channel.openNow_id]
    exact n.channel_id _
  exact ⟨_, rfl, put_leaves has named (fun e held => by simp at held) _⟩

theorem closeNow_leaves (has : n.Has (.ofEndpoint id)) :
    ∃ m, (Act.closeNow (.ofEndpoint id)).run n = ((n.channel (.ofEndpoint id)).closeNow.1, m) ∧
      Leaves id (n.channel (.ofEndpoint id)).closeNow.2
        (.ofClose (.ofEndpoint id) (n.channel (.ofEndpoint id)).closeNow.1) n m := by
  have named : (n.channel (.ofEndpoint id)).closeNow.2.id = id := by
    rw [Channel.closeNow_id]
    exact n.channel_id _
  exact ⟨_, rfl, put_leaves has named (fun e held => by simpa using held) _⟩

theorem abort_leaves (has : n.Has (.ofEndpoint id)) :
    ∃ m, (Act.abort (.ofEndpoint id)).run n = ((), m) ∧
      Leaves id (n.channel (.ofEndpoint id)).abort (.aborted (.ofEndpoint id)) n m := by
  have named : (n.channel (.ofEndpoint id)).abort.id = id := n.channel_id _
  exact ⟨_, rfl, put_leaves has named (fun _ held => held) _⟩

theorem close_ends (has : n.Has (.ofEndpoint id)) : ∃ closes m result l,
    (Act.closeNow (.ofEndpoint id)).run n = (closes, m) ∧
      (Act.afterClose (.ofEndpoint id) closes).run m = (result, l) ∧
      Amends id n l ∧ (l.channel (.ofEndpoint id)).state = .closed := by
  obtain ⟨m, ran, leaves⟩ := closeNow_leaves has
  cases closes : (n.channel (.ofEndpoint id)).closeNow.1 with
  | ok =>
      refine ⟨.ok (), m, .ok (), m, closes ▸ ran, rfl, leaves.amends, ?_⟩
      rw [leaves.channel]
      exact Channel.closeNow_closes closes
  | error e =>
      obtain ⟨l, aborts, last⟩ := abort_leaves ((leaves.amends.has _).mpr has)
      have closed : (l.channel (.ofEndpoint id)).state = .closed :=
        congrArg Channel.state last.channel
      have amends (log : List Log.Event) : Amends id n { l with log := log } :=
        (leaves.amends.trans last.amends).trans (.told id l l.waits log l.history)
      refine ⟨.error e, m, ?_⟩
      rw [Act.afterClose, Act.abortAfterFailedClose, Act.run_bind, aborts]
      by_cases transient : e.kind.isTransient = true
      · simp only [transient, if_true]
        exact ⟨_, _, closes ▸ ran, rfl, amends _, closed⟩
      · simp only [transient]
        exact ⟨_, _, closes ▸ ran, rfl, amends _, closed⟩

theorem abandon_closes (has : n.Has (.ofEndpoint id)) :
    ∃ m, (Act.abandonHandshake (.ofEndpoint id)).run n = ((), m) ∧ Amends id n m ∧
      (m.channel (.ofEndpoint id)).state = .closed ∧ ∀ deed ∈ n.history, deed ∈ m.history := by
  rw [Act.abandonHandshake, Act.run_channel, Act.run_note]
  obtain ⟨m, aborts, leaves⟩ := abort_leaves (n := { n with log := _ :: n.log }) has
  refine ⟨m, aborts, (Amends.told id n n.waits _ n.history).trans leaves.amends,
    congrArg Channel.state leaves.channel, fun deed told => ?_⟩
  rw [leaves.history]
  exact List.mem_cons_of_mem _ told

theorem resume_unaborted {ref : ChannelRef} (fine : (n.channel ref).aborted = false)
    (h : Handshake) :
    ∃ waits, (∃ later, (h.resume ref).run n = (.pending later, { n with waits := waits })) ∨
      (h.resume ref).run n = (.done (.ok ()), { n with waits := waits }) := by
  cases h with
  | waiting deadline since =>
      refine ⟨n.waits, ?_⟩
      rw [Handshake.resume, Act.run_check fine]
      split
      · exact .inr rfl
      · exact .inl ⟨_, rfl⟩
  | turn =>
      rw [Act.run_turn fine]
      split
      · exact ⟨n.waits, .inr rfl⟩
      · exact ⟨n.waits + 1, .inl ⟨_, rfl⟩⟩

/-- What a poll of a call makes of its own channel while that is being opened. -/
inductive Opens (c id : Nat) (n : Network) : Progress Acquiring (Except Channel.Error Nat) →
    Network → Prop
  | waits {h : Handshake} {m : Network} (amends : Amends id n m)
      (same : m.channel (.ofEndpoint id) = n.channel (.ofEndpoint id)) :
      Opens c id n (.pending (.opening id h)) m
  | fails {e : Channel.Error} {m : Network} (amends : Amends id n m)
      (met : (n.channel (.ofEndpoint id)).faults.openError = some e)
      (closed : (m.channel (.ofEndpoint id)).state = .closed)
      (told : .openFailed (.ofEndpoint id) e ∈ m.history) : Opens c id n (.done (.error e)) m
  | wins {l m : Network} (vacant : Vacant c n) (amends : Amends id n l)
      (opened : (l.channel (.ofEndpoint id)).state = .opened) (endpoint : m.endpoint = l.endpoint)
      (standalone : m.standalone = l.standalone)
      (slots : m.controllers = n.controllers.set c
        ⟨some ⟨id, (n.controller c).generation + 1⟩, (n.controller c).generation + 1⟩) :
      Opens c id n (.done (.ok id)) m
  | loses {winner : Nat} {m : Network} (kept : Keeps n c winner) (amends : Amends id n m)
      (opened : (m.channel (.ofEndpoint id)).state = .opened)
      (fine : (m.channel (.ofEndpoint id)).aborted = false) :
      Opens c id n (.pending (.discarding winner id .turn)) m

/-- What a poll of a call makes of its own channel while that is being closed for the sake of the
winner. -/
inductive Discarded (winner id : Nat) (n : Network) :
    Progress Acquiring (Except Channel.Error Nat) → Network → Prop
  | waits {h : Handshake} {m : Network} (amends : Amends id n m)
      (same : m.channel (.ofEndpoint id) = n.channel (.ofEndpoint id)) :
      Discarded winner id n (.pending (.discarding winner id h)) m
  | settles {m : Network} (amends : Amends id n m)
      (closed : (m.channel (.ofEndpoint id)).state = .closed) :
        Discarded winner id n (.done (.ok winner)) m

inductive Closes (id : Nat) (n : Network) : Progress Handshake (Except Channel.Error Unit) →
    Network → Prop
  | waits {h : Handshake} {m : Network} (amends : Amends id n m)
      (same : m.channel (.ofEndpoint id) = n.channel (.ofEndpoint id)) : Closes id n (.pending h) m
  | ends {result : Except Channel.Error Unit} {m : Network} (amends : Amends id n m)
      (closed : (m.channel (.ofEndpoint id)).state = .closed) : Closes id n (.done result) m

theorem resume_closing (has : n.Has (.ofEndpoint id))
    (fine : (n.channel (.ofEndpoint id)).aborted = false) (h : Handshake) :
    ∃ progress m, (Act.resumeShutdownChannel (.ofEndpoint id) h).run n = (progress, m) ∧
      Closes id n progress m := by
  have told (waits : Nat) : Amends id n { n with waits := waits } :=
    .told id n waits n.log n.history
  obtain ⟨waits, ⟨later, ran⟩ | ran⟩ := resume_unaborted fine h
  · have closing : (Act.resumeClose (.ofEndpoint id) h).run n =
        (.pending later, { n with waits := waits }) := by
      rw [Act.resumeClose, Act.run_bind, ran]
      rfl
    refine ⟨.pending later, _, ?_, .waits (told waits) rfl⟩
    rw [Act.resumeShutdownChannel, Act.run_bind, closing]
    rfl
  · obtain ⟨closes, m, result, l, ends, cleans, amends, closed⟩ :=
      close_ends (n := { n with waits := waits }) (((told waits).has _).mpr has)
    have closing : (Act.resumeClose (.ofEndpoint id) h).run n = (.done closes, m) := by
      rw [Act.resumeClose, Act.run_bind, ran]
      dsimp only
      rw [Act.run_bind, ends]
      rfl
    refine ⟨.done result, l, ?_, .ends ((told waits).trans amends) closed⟩
    rw [Act.resumeShutdownChannel, Act.run_bind, closing]
    dsimp only
    rw [Act.run_bind, cleans]
    rfl

theorem resume_discarding (has : n.Has (.ofEndpoint id))
    (fine : (n.channel (.ofEndpoint id)).aborted = false) (c winner : Nat) (h : Handshake) :
    ∃ progress m, (Act.resumeAcquire c (.discarding winner id h)).run n = (progress, m) ∧
      Discarded winner id n progress m := by
  obtain ⟨progress, m, ran, closes⟩ := resume_closing has fine h
  rw [Act.resumeAcquire, Act.run_bind, ran]
  cases closes with
  | waits amends same => exact ⟨_, _, rfl, .waits amends same⟩
  | ends amends closed =>
      rename_i result
      cases result with
      | ok => exact ⟨_, _, rfl, .settles amends closed⟩
      | error e =>
          exact ⟨_, _, rfl, .settles (amends.trans (.told id m m.waits _ m.history)) closed⟩

theorem settle_opened (opened : (n.channel (.ofEndpoint id)).state = .opened) (c : Nat) :
    (∃ winner, Keeps n c winner ∧
        (Act.settleOpened c id).run n = (.pending (.discarding winner id .turn), n)) ∨
      (Vacant c n ∧ ∃ log history, (Act.settleOpened c id).run n = (.done (.ok id),
        { n with
          controllers := n.controllers.set c
            ⟨some ⟨id, (n.controller c).generation + 1⟩, (n.controller c).generation + 1⟩
          log := log
          history := history })) := by
  cases slot : (n.controller c).slot with
  | none =>
      right
      have installs : ∃ log history, (Act.install c id).run n = (.won, { n with
          controllers := n.controllers.set c
            ⟨some ⟨id, (n.controller c).generation + 1⟩, (n.controller c).generation + 1⟩
          log := log
          history := history }) := by
        rw [Act.install, Act.run_controller, slot]
        exact ⟨_, _, rfl⟩
      obtain ⟨log, history, installed⟩ := installs
      refine ⟨slot, log, history, ?_⟩
      rw [Act.settleOpened, Act.run_bind, installed]
      rfl
  | some held =>
      left
      have installs : (Act.install c id).run n = (.lostTo held.channel, n) := by
        rw [Act.install, Act.run_controller, slot]
        rfl
      have starts : (Act.startShutdownChannel (.ofEndpoint id) false).run n =
          (.pending .turn, n) := by
        rw [Act.startShutdownChannel, Act.run_channel, opened]
        rfl
      refine ⟨held.channel, by simp [Keeps, slot], ?_⟩
      rw [Act.settleOpened, Act.run_bind, installs]
      dsimp only
      rw [Act.run_bind, starts]
      rfl

theorem resume_opening (has : n.Has (.ofEndpoint id))
    (fresh : (n.channel (.ofEndpoint id)).state = .created)
    (fine : (n.channel (.ofEndpoint id)).aborted = false) (c : Nat) (h : Handshake) :
    ∃ progress m, (Act.resumeAcquire c (.opening id h)).run n = (progress, m) ∧
      Opens c id n progress m := by
  have told (waits : Nat) : Amends id n { n with waits := waits } :=
    .told id n waits n.log n.history
  obtain ⟨waits, ⟨later, ran⟩ | ran⟩ := resume_unaborted fine h
  · have opening : (Act.resumeOpen (.ofEndpoint id) h).run n =
        (.pending later, { n with waits := waits }) := by
      rw [Act.resumeOpen, Act.run_bind, ran]
      rfl
    have waiting : (Act.resumeAcquire c (.opening id h)).run n =
        (.pending (.opening id later), { n with waits := waits }) := by
      rw [Act.resumeAcquire, Act.run_bind, opening]
      rfl
    exact ⟨_, _, waiting, .waits (told waits) rfl⟩
  · obtain ⟨m, opens, leaves⟩ :=
      openNow_leaves (n := { n with waits := waits }) (((told waits).has _).mpr has)
    have amends : Amends id n m := (told waits).trans leaves.amends
    have opening : (Act.resumeOpen (.ofEndpoint id) h).run n =
      (.done (n.channel (.ofEndpoint id)).openNow.1, m) := by
      rw [Act.resumeOpen, Act.run_bind, ran]
      dsimp only
      rw [Act.run_bind, opens]
      rfl
    rw [Act.resumeAcquire, Act.run_bind, opening]
    cases met : (n.channel (.ofEndpoint id)).faults.openError with
    | some e =>
        rw [Channel.openNow_fails met]
        dsimp only
        rw [Act.noteOpenFailed, Act.run_note]
        let noted : Network :=
          { m with log := ⟨.debug, "channel open failed", [("error", .shown e.message)]⟩ :: m.log }
        obtain ⟨l, aborts, gives_up, closed, lasts⟩ :=
          abandon_closes (n := noted) ((amends.has _).mpr has)
        rw [Act.run_bind, aborts]
        have told : .openFailed (.ofEndpoint id) e ∈ m.history := by
          rw [leaves.history]
          have failed := congrArg (Deed.ofOpen (.ofEndpoint id)) (Channel.openNow_fails met)
          exact List.mem_cons.mpr (.inl failed.symm)
        have all := (amends.trans (.told id m m.waits _ m.history)).trans gives_up
        exact ⟨_, _, rfl, .fails all met closed (lasts _ told)⟩
    | none =>
        obtain ⟨done, opened⟩ := Channel.openNow_opens fresh met
        have now : (m.channel (.ofEndpoint id)).state = .opened := by
          rw [leaves.channel]
          exact opened
        rw [done]
        dsimp only
        rcases settle_opened now c with ⟨winner, kept, settles⟩ | ⟨vacant, log, history, settles⟩
        · have still : (m.channel (.ofEndpoint id)).aborted = false := by
            rw [leaves.channel, Channel.openNow_aborted]
            exact fine
          have before : Keeps n c winner := by rwa [Keeps, Network.controller, amends.slots] at kept
          exact ⟨_, _, settles, .loses before amends now still⟩
        · have before : Vacant c n := by rwa [Vacant, Network.controller, amends.slots] at vacant
          refine ⟨_, _, settles, .wins before amends now rfl rfl ?_⟩
          rw [Network.controller, amends.slots]
          rfl

theorem run_startAcquire_vacant {c : Nat} (vacant : Vacant c n) : (Act.startAcquire c).run n =
    (.pending (.opening (n.endpoint.channels.length + 1) .turn),
      { n.created with history := .created (n.endpoint.channels.length + 1) :: n.history }) := by
  have stale : (Act.takeStale c).run n = (none, n) := by
    rw [Act.takeStale, Act.run_controller, show (n.controller c).slot = none from vacant]
    rfl
  have empty : (Act.cached c).run n = (none, n) := by
    rw [Act.cached, Act.run_controller, show (n.controller c).slot = none from vacant]
    rfl
  rw [Act.startAcquire, Act.run_bind, stale]
  dsimp only
  rw [Act.reuseOrCreate, Act.run_bind, empty]
  rfl

end

end Interleaving

end RemoteClient
