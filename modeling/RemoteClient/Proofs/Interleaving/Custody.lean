import RemoteClient.Proofs.Interleaving.Standing

/-!
What a computation on the network does in terms of moves. `Upholds` is a triple over the ledger and
the hand of whoever runs the computation; there is a rule for each way to put computations together,
and one statement for each operation that touches the ledger itself.
-/

namespace RemoteClient.Interleaving

/-- What a network tells, when `actor` did all that its history has and `past` happened before. -/
def ledger (past : List Record) (actor : Actor) (n : Network) : Ledger :=
  ⟨n.controllers, n.endpoint.channels.length, sign actor n.history ++ past⟩

namespace Ledger

def Knows (l : Ledger) : Actor → Prop
  | .outside => True
  | .call c _ => c < l.slots.length

def Lodged (l : Ledger) (c id : Nat) : Prop := ∃ actor, l.Did actor (.installed c id)

theorem knows_moves {actor : Actor} {before after : Ledger × Hand} (known : before.1.Knows actor)
    (moves : Moves actor before after) : after.1.Knows actor := by
  cases actor with
  | outside => trivial
  | call c k => exact Nat.lt_of_lt_of_le known (moves_slots moves)

theorem lodged_moves {actor : Actor} {before after : Ledger × Hand} {c id : Nat}
    (lodged : before.1.Lodged c id) (moves : Moves actor before after) : after.1.Lodged c id := by
  obtain ⟨maker, did⟩ := lodged
  exact ⟨maker, moves_did moves did⟩

end Ledger

/-- Whoever keeps to `pre` gets to `post` by moves. -/
def Upholds {α : Type} (actor : Actor) (pre : Ledger → Hand → Prop) (act : Act α)
    (post : α → Ledger → Hand → Prop) : Prop :=
  ∀ past n hands, Standing (ledger past actor n) hands → (ledger past actor n).Knows actor →
    pre (ledger past actor n) (hands actor) →
    ∃ hand, post (act.run n).1 (ledger past actor (act.run n).2) hand ∧
      Moves actor (ledger past actor n, hands actor) (ledger past actor (act.run n).2, hand)

def Quiet {α : Type} (act : Act α) : Prop :=
  ∀ past actor n, ledger past actor (act.run n).2 = ledger past actor n

def holds (h : Hand) : Ledger → Hand → Prop := fun _ hand => hand = h

def closes (id : Nat) : Ledger → Hand → Prop := fun _ hand => ∃ sole, hand = .closing id sole

def opened (id : Nat) : Except Channel.Error Unit → Ledger → Hand → Prop
  | .ok () => holds (.ready id)
  | .error _ => holds (.opening id)

def closed (id : Nat) (sole : Bool) (result : Except Channel.Error Unit) : Ledger → Hand → Prop :=
  fun l hand => hand = .closing id sole ∧ (result = .ok () → l.TornDown id)

section

variable {α β : Type} {actor : Actor} {pre : Ledger → Hand → Prop}

theorem quiet_pure (a : α) : Quiet (pure a : Act α) := fun _ _ _ => rfl

theorem quiet_bind {act : Act α} {f : α → Act β} (first : Quiet act) (second : ∀ a, Quiet (f a)) :
    Quiet (act >>= f) := by
  intro past actor n
  exact (second _ past actor _).trans (first past actor n)

theorem quiet_note (event : Log.Event) : Quiet (Act.note event) := fun _ _ _ => rfl

theorem quiet_trace (message : String) : Quiet (Act.trace message) := fun _ _ _ => rfl

theorem quiet_get : Quiet (get : Act Network) := fun _ _ _ => rfl

theorem quiet_channel (ref : ChannelRef) : Quiet (Act.channel ref) := fun _ _ _ => rfl

theorem quiet_now : Quiet Act.now := fun _ _ _ => rfl

theorem quiet_stamp : Quiet Act.stamp := fun _ _ _ => rfl

theorem quiet_isCancelled (token : String) : Quiet (Act.isCancelled token) := fun _ _ _ => rfl

theorem quiet_putChannel (ref : ChannelRef) (ch : Channel) : Quiet (Act.putChannel ref ch) := by
  intro past actor n
  cases ref with
  | ofEndpoint id =>
      exact congrArg (Ledger.mk n.controllers · (sign actor n.history ++ past)) (List.length_map ..)
  | standalone id => rfl

theorem quiet_modifyChannel (ref : ChannelRef) (f : Channel → Channel) :
    Quiet (Act.modifyChannel ref f) :=
  quiet_bind (quiet_channel ref) fun _ => quiet_putChannel ref _

theorem quiet_call (ref : ChannelRef) (method : String) : Quiet (Act.call ref method) := by
  apply quiet_bind (quiet_channel ref)
  intro ch
  dsimp only
  split
  · apply quiet_bind (quiet_trace _)
    intro _
    exact quiet_bind (quiet_putChannel ref _) fun _ => quiet_pure _
  · exact quiet_bind (quiet_putChannel ref _) fun _ => quiet_pure _

theorem quiet_force (ref : ChannelRef) (state : Channel.State) : Quiet (Act.force ref state) := by
  apply quiet_bind (quiet_channel ref)
  intro ch
  exact quiet_bind (quiet_trace _) fun _ => quiet_putChannel ref _

theorem quiet_cancel (token : String) : Quiet (Act.cancel token) := by
  intro past actor n
  change ledger past actor (if n.cancelled.contains token then n else _) = _
  split <;> rfl

theorem upholds_pure (post : α → Ledger → Hand → Prop) (a : α) :
    Upholds actor (post a) (pure a) post := by
  intro past n hands st known held
  exact ⟨hands actor, held, .refl⟩

theorem upholds_bind {act : Act α} {f : α → Act β} {middle : α → Ledger → Hand → Prop}
    {post : β → Ledger → Hand → Prop} (first : Upholds actor pre act middle)
    (second : ∀ a, Upholds actor (middle a) (f a) post) : Upholds actor pre (act >>= f) post := by
  intro past n hands st known held
  obtain ⟨between, reached, early⟩ := first past n hands st known held
  have standing := moves_standing st early
  have again := second _ past _ _ standing (Ledger.knows_moves known early)
    (by rwa [Function.update_self])
  rw [Function.update_self] at again
  obtain ⟨last, done, late⟩ := again
  exact ⟨last, done, early.trans late⟩

theorem upholds_weaken {act : Act α} {stronger : Ledger → Hand → Prop}
    {post weaker : α → Ledger → Hand → Prop} (upholds : Upholds actor pre act post)
    (before : ∀ l hand, stronger l hand → pre l hand)
    (after : ∀ a l hand, post a l hand → weaker a l hand) : Upholds actor stronger act weaker := by
  intro past n hands st known held
  obtain ⟨hand, done, moves⟩ := upholds past n hands st known (before _ _ held)
  exact ⟨hand, after _ _ _ done, moves⟩

theorem upholds_from {act : Act α} {stronger : Ledger → Hand → Prop}
    {post : α → Ledger → Hand → Prop} (upholds : Upholds actor pre act post)
    (before : ∀ l hand, stronger l hand → pre l hand) :
    Upholds actor stronger act post :=
  upholds_weaken upholds before fun _ _ _ done => done

theorem upholds_return (post : α → Ledger → Hand → Prop) (a : α)
    (before : ∀ l hand, pre l hand → post a l hand) : Upholds actor pre (pure a) post :=
  upholds_from (upholds_pure post a) before

theorem upholds_discard {act : Act α} {post : α → Ledger → Hand → Prop}
    {after : Ledger → Hand → Prop} (upholds : Upholds actor pre act post)
    (reads : ∀ a l hand, post a l hand → after l hand) :
    Upholds actor pre (discard act) fun _ => after := by
  intro past n hands st known held
  obtain ⟨hand, done, moves⟩ := upholds past n hands st known held
  exact ⟨hand, reads _ _ _ done, moves⟩

theorem upholds_quiet {act : Act α} (quiet : Quiet act) : Upholds actor pre act fun _ => pre := by
  intro past n hands st known held
  rw [quiet past actor n]
  exact ⟨hands actor, held, .refl⟩

theorem upholds_exists {ι : Type} {act : Act α} {any : ι → Ledger → Hand → Prop}
    {post : α → Ledger → Hand → Prop} (each : ∀ i, Upholds actor (any i) act post) :
    Upholds actor (fun l hand => ∃ i, any i l hand) act post := by
  intro past n hands st known held
  obtain ⟨i, held⟩ := held
  exact each i past n hands st known held

theorem upholds_after {act : Act α} {f : α → Act β} {post : β → Ledger → Hand → Prop}
    (quiet : Quiet act) (rest : ∀ a, Upholds actor pre (f a) post) :
    Upholds actor pre (act >>= f) post :=
  upholds_bind (upholds_quiet quiet) rest

theorem upholds_lodged {act : Act α} {post : α → Ledger → Hand → Prop} (c id : Nat)
    (upholds : Upholds actor pre act post) :
    Upholds actor (fun l hand => pre l hand ∧ l.Lodged c id) act
      fun a l hand => post a l hand ∧ l.Lodged c id := by
  intro past n hands st known held
  obtain ⟨hand, done, moves⟩ := upholds past n hands st known held.1
  exact ⟨hand, ⟨done, Ledger.lodged_moves held.2 moves⟩, moves⟩

theorem upholds_record {deed : Deed} {post : Ledger → Hand → Prop}
    (move : ∀ l hand, pre l hand → ∃ left, post (l.add ⟨actor, deed⟩) left ∧
      Moves actor (l, hand) (l.add ⟨actor, deed⟩, left)) :
    Upholds actor pre (Act.record deed) fun _ => post := by
  intro past n hands st known held
  exact move _ _ held

theorem upholds_work {ref : ChannelRef} {message : Channel → String} {work : Channel → α × Channel}
    {deed : α → Deed} {post : α → Ledger → Hand → Prop}
    (recorded : ∀ a, Upholds actor pre (Act.record (deed a)) fun _ => post a) :
    Upholds actor pre (do
      let ch ← Act.channel ref
      Act.trace (message ch)
      let (a, ch) := work ch
      Act.putChannel ref ch
      Act.record (deed a)
      return a) post := by
  apply upholds_after (quiet_channel _)
  intro ch
  apply upholds_after (quiet_trace _)
  intro _
  apply upholds_after (quiet_putChannel _ _)
  intro _
  exact upholds_bind (recorded _) fun _ => upholds_pure post _

end

section

variable {c k : Nat}

theorem ledger_created (past : List Record) (actor : Actor) (n : Network) :
    ledger past actor (Act.create.run n).2 = (ledger past actor n).supply actor :=
  congrArg (Ledger.mk n.controllers · _) (List.length_append ..)

theorem create_upholds :
    Upholds (.call c k) (holds .empty) Act.create fun id => holds (.opening id) := by
  intro past n hands st known free
  rw [ledger_created, show hands (.call c k) = .empty from free]
  exact ⟨_, rfl, .single (.create c k _)⟩

theorem record_opened (id : Nat) (result : Except Channel.Error Unit) :
    Upholds (.call c k) (holds (.opening id)) (Act.record (.ofOpen (.ofEndpoint id) result))
      fun _ => opened id result := by
  apply upholds_record
  intro l hand held
  cases show hand = .opening id from held
  cases result with
  | ok => exact ⟨_, rfl, .single (.opened c k l id)⟩
  | error e => exact ⟨_, rfl, .single (.openFailed c k l id e)⟩

theorem openNow_upholds (id : Nat) :
    Upholds (.call c k) (holds (.opening id)) (Act.openNow (.ofEndpoint id)) (opened id) :=
  upholds_work (record_opened id)

variable {id : Nat} {sole : Bool}

theorem record_closed (result : Except Channel.Error Unit) :
    Upholds (.call c k) (holds (.closing id sole)) (Act.record (.ofClose (.ofEndpoint id) result))
      fun _ => closed id sole result := by
  apply upholds_record
  intro l hand held
  cases show hand = .closing id sole from held
  refine ⟨_, ⟨rfl, fun done => ?_⟩, .single (.shut c k l id sole _ ?_)⟩
  · subst done
    exact (Ledger.tornDown_add ..).mpr (.inl (by simp [Deed.ofClose, Deed.tearsDown]))
  · cases result <;> simp [Deed.ofClose, Deed.shuts]

theorem closeNow_upholds :
    Upholds (.call c k) (holds (.closing id sole)) (Act.closeNow (.ofEndpoint id))
      (closed id sole) :=
  upholds_work record_closed

theorem record_tears {deed : Deed} (shuts : deed.shuts id) (tears : deed.tearsDown id) :
    Upholds (.call c k) (holds (.closing id sole)) (Act.record deed) fun _ => holds .empty := by
  apply upholds_record
  intro l hand held
  cases show hand = .closing id sole from held
  have shut := Move.shut c k l id sole deed shuts
  exact ⟨_, rfl, .tail (.single shut) (.release c k _ id sole fun _ =>
    (Ledger.tornDown_add ..).mpr (.inl tears))⟩

theorem abort_upholds :
    Upholds (.call c k) (holds (.closing id sole)) (Act.abort (.ofEndpoint id)) fun _ =>
      holds .empty := by
  apply upholds_after (quiet_channel _)
  intro ch
  apply upholds_after (quiet_trace _)
  intro _
  apply upholds_after (quiet_putChannel _ _)
  intro _
  exact record_tears (by simp [Deed.shuts]) (by simp [Deed.tearsDown])

theorem upholds_reject {α : Type} {act : Act α} {post : α → Ledger → Hand → Prop} {hand : Hand}
    (fresh : hand.fresh? = some id)
    (rest : Upholds (.call c k) (holds (.closing id true)) act post) :
    Upholds (.call c k) (holds hand) act post := by
  intro past n hands st known held
  have move :
      Move (.call c k) (ledger past (.call c k) n, hands (.call c k)) (_, .closing id true) :=
    .reject c k _ _ id (by rwa [show hands (.call c k) = hand from held])
  have after := rest past n _ (move_standing st rfl move) known (Function.update_self ..)
  rw [Function.update_self] at after
  obtain ⟨last, done, moves⟩ := after
  exact ⟨last, done, .head move moves⟩

theorem upholds_release {α : Type} (a : α) :
    Upholds (.call c k) (closed id sole (.ok ())) (pure a) fun _ => holds .empty := by
  intro past n hands st known held
  refine ⟨.empty, rfl, .single ?_⟩
  rw [held.1]
  exact .release c k _ id sole fun _ => held.2 rfl

theorem upholds_controller {pre : Ledger → Hand → Prop} :
    Upholds (.call c k) pre (Act.controller c) fun ctl l hand =>
      (l.slots[c]? = some ctl ∧ ∀ held, ctl.slot = some held → l.Lodged c held.channel) ∧
        pre l hand := by
  intro past n hands st known held
  have inside : c < n.controllers.length := known
  have found : n.controllers[c]? = some (n.controllers.getD c .empty) := by simp [inside]
  refine ⟨_, ⟨⟨found, fun cached slot => ?_⟩, held⟩, .refl⟩
  have filled : (ledger past (.call c k) n).slot? c = some cached.channel := by
    change ((n.controllers[c]?.bind (·.slot)).map (·.channel)) = _
    rw [found]
    exact congrArg (Option.map (·.channel)) slot
  obtain ⟨_, maker, _, _, installed⟩ := st.cached filled
  exact ⟨_, installed⟩

theorem upholds_put {α : Type} {f : Unit → Act α} {pre middle : Ledger → Hand → Prop}
    {post : α → Ledger → Hand → Prop} {ctl : Controller} {deed : Deed}
    (move : ∀ l hand, pre l hand → ∃ left, middle ((l.put c ctl).add ⟨.call c k, deed⟩) left ∧
      Move (.call c k) (l, hand) ((l.put c ctl).add ⟨.call c k, deed⟩, left))
    (rest : ∀ u, Upholds (.call c k) middle (f u) post) :
    Upholds (.call c k) pre (do Act.putController c ctl; let u ← Act.record deed; f u) post := by
  have put :
      Upholds (.call c k) pre (do Act.putController c ctl; Act.record deed) fun _ => middle := by
    intro past n hands st known held
    obtain ⟨left, done, move⟩ := move _ _ held
    exact ⟨left, done, .single move⟩
  have both := upholds_bind put rest
  exact both

theorem remove_upholds {α : Type} {f : Unit → Act α} {post : α → Ledger → Hand → Prop}
    {ctl : Controller} {held : Cached} (cached : ctl.slot = some held)
    (rest : ∀ u, Upholds (.call c k) (holds (.closing held.channel true)) (f u) post) :
    Upholds (.call c k) (fun l hand => l.slots[c]? = some ctl ∧ hand = .empty)
      (do
        Act.putController c { ctl with slot := none }
        let u ← Act.record (.removed c held.channel)
        f u) post := by
  refine upholds_put (fun l hand found => ?_) rest
  obtain ⟨slot, rfl⟩ := found
  obtain ⟨_, generation⟩ := ctl
  cases cached
  exact ⟨_, rfl, .remove c k l held generation slot⟩

def taken : Option Nat → Ledger → Hand → Prop
  | some id => holds (.closing id true)
  | none => holds .empty

theorem take_upholds : Upholds (.call c k) (holds .empty) (Act.take c) taken := by
  apply upholds_bind upholds_controller
  intro ctl
  cases slot : ctl.slot with
  | none => exact upholds_return taken none fun _ _ found => found.2
  | some held =>
      exact upholds_from (remove_upholds slot fun _ => upholds_pure taken (some held.channel))
        fun _ _ found => ⟨found.1.1, found.2⟩

theorem takeStale_upholds : Upholds (.call c k) (holds .empty) (Act.takeStale c) taken := by
  apply upholds_bind upholds_controller
  intro ctl
  cases slot : ctl.slot with
  | none => exact upholds_return taken none fun _ _ found => found.2
  | some held =>
      apply upholds_after (quiet_channel _)
      intro ch
      dsimp only
      split
      · exact upholds_return taken none fun _ _ found => found.2
      · refine upholds_from (remove_upholds slot fun _ => ?_) fun _ _ found => ⟨found.1.1, found.2⟩
        exact upholds_after (quiet_note _) fun _ => upholds_pure taken (some held.channel)

theorem cached_upholds {pre : Ledger → Hand → Prop} :
    Upholds (.call c k) pre (Act.cached c) fun result l hand =>
      (∀ id, result = some id → l.Lodged c id) ∧ pre l hand := by
  apply upholds_bind upholds_controller
  intro ctl past n hands st known found
  refine ⟨_, ⟨fun id cached => ?_, found.2⟩, .refl⟩
  obtain ⟨held, slot, rfl⟩ := Option.map_eq_some_iff.mp cached
  exact found.1.2 held slot

def installed (c id : Nat) : Act.Installed → Ledger → Hand → Prop
  | .won => fun l hand => hand = .empty ∧ l.Lodged c id
  | .lostTo winner => fun l hand => hand = .ready id ∧ l.Lodged c winner

theorem install_upholds :
    Upholds (.call c k) (holds (.ready id)) (Act.install c id) (installed c id) := by
  apply upholds_bind upholds_controller
  intro ctl
  cases slot : ctl.slot with
  | none =>
      apply upholds_after (quiet_note _)
      intro _
      refine upholds_put (fun l hand found => ?_) fun _ => upholds_pure (installed c id) .won
      obtain ⟨⟨free, _⟩, held⟩ := found
      cases show hand = .ready id from held
      obtain ⟨_, generation⟩ := ctl
      cases slot
      exact ⟨_, ⟨rfl, _, (Ledger.did_add ..).mpr (.inl rfl)⟩, .install c k l id generation free⟩
  | some held =>
      exact upholds_return (installed c id) (.lostTo held.channel) fun _ _ found =>
        ⟨found.2, found.1.2 held rfl⟩

theorem detach_upholds :
    Upholds (.call c k) (fun l hand => hand = .empty ∧ l.Lodged c id) (Act.detach c id)
      fun _ => closes id := by
  apply upholds_bind upholds_controller
  intro ctl
  have reach {l : Ledger} {hand : Hand} (free : hand = .empty) (lodged : l.Lodged c id)
      (absent : l.slot? c ≠ some id) :
      ∃ left, closes id l left ∧ Moves (.call c k) (l, hand) (l, left) := by
    obtain ⟨actor, did⟩ := lodged
    subst free
    exact ⟨_, ⟨false, rfl⟩, .single (.reach c k l id actor did absent)⟩
  cases slot : ctl.slot with
  | none =>
      intro past n hands st known found
      obtain ⟨⟨slots, _⟩, free, lodged⟩ := found
      have absent : (ledger past (.call c k) n).slot? c ≠ some id := by
        simp [Ledger.slot?, slots, slot]
      exact reach free lodged absent
  | some held =>
      dsimp only
      split
      next same =>
        apply upholds_after (quiet_note _)
        intro _
        subst same
        have removed := remove_upholds (c := c) (k := k) slot fun _ =>
          upholds_pure (fun _ => holds (.closing held.channel true)) ()
        exact upholds_weaken removed (fun _ _ found => ⟨found.1.1, found.2.1⟩)
          fun _ _ _ done => ⟨true, done⟩
      next other =>
        intro past n hands st known found
        obtain ⟨⟨slots, _⟩, free, lodged⟩ := found
        have absent : (ledger past (.call c k) n).slot? c ≠ some id := by
          simpa [Ledger.slot?, slots, slot] using other
        exact reach free lodged absent

end

end RemoteClient.Interleaving
