import RemoteClient.Proofs.Interleaving.Lasting
import RemoteClient.Proofs.Interleaving.Runs

namespace RemoteClient.Interleaving

structure Endures (n m : Network) : Prop where
  aborted : ∀ {ref : ChannelRef}, (n.channel ref).aborted → (m.channel ref).aborted
  cancelled : ∀ {token : String}, token ∈ n.cancelled → token ∈ m.cancelled
  numbered : n.endpoint.Numbered → m.endpoint.Numbered

namespace Endures

theorem of_channels {n m : Network} (channels : ∀ ref, m.channel ref = n.channel ref)
    (cancelled : m.cancelled = n.cancelled) (numbered : m.endpoint.channels = n.endpoint.channels) :
    Endures n m where
  aborted held := (channels _).symm ▸ held
  cancelled held := cancelled.symm ▸ held
  numbered held := by rwa [Endpoint.Numbered, numbered]

theorem trans {n middle m : Network} (first : Endures n middle) (second : Endures middle m) :
    Endures n m where
  aborted held := second.aborted (first.aborted held)
  cancelled held := second.cancelled (first.cancelled held)
  numbered held := second.numbered (first.numbered held)

theorem putChannel {n : Network} {ref : ChannelRef} {ch : Channel} (named : ch.id = ref.id)
    (aborted : (n.channel ref).aborted → ch.aborted) : Endures n (n.putChannel ref ch) where
  aborted {other} held := by
    rcases Network.channel_putChannel_cases (n := n) named other with same | ⟨rfl, now⟩
    · rwa [same]
    · rw [now]
      exact aborted held
  cancelled held := by cases ref <;> exact held
  numbered held := by
    cases ref with
    | ofEndpoint id => exact Endpoint.replace_numbered held ch
    | standalone id => exact held

theorem create (n : Network) : Endures n n.created where
  aborted {ref} held := by
    rwa [Network.channel_created_known (Network.has_of_aborted held)]
  cancelled held := held
  numbered := Endpoint.create_numbered

end Endures

theorem endures_everlasting : Everlasting Endures where
  refl n := .of_channels (fun _ => rfl) rfl rfl
  trans := Endures.trans
  note n event := .of_channels (fun ref => by cases ref <;> rfl) rfl rfl
  stamp n := .of_channels (fun ref => by cases ref <;> rfl) rfl rfl
  record n deed _ := .of_channels (fun ref => by cases ref <;> rfl) rfl rfl
  work n ref ch worked := .putChannel (Network.worked_named worked) worked.aborted_lasts
  slots n controllers := .of_channels (fun ref => by cases ref <;> rfl) rfl rfl
  retold n history := .of_channels (fun ref => by cases ref <;> rfl) rfl rfl
  create := Endures.create
  force n ref state := .putChannel (n.channel_id ref) fun aborted => aborted
  pending n faults := .of_channels (fun ref => by cases ref <;> rfl) rfl rfl
  cancel n token := ⟨fun {ref} held => by cases ref <;> exact held, List.mem_cons_of_mem _,
    fun held => held⟩
  elapse n clock := .of_channels (fun ref => by cases ref <;> rfl) rfl rfl
  settleTies n timerWins := .of_channels (fun ref => by cases ref <;> rfl) rfl rfl

section

variable {R : Network → Network → Prop}

theorem perform_within {α : Type} (lasting : Lasting R) (s : System) (actor : Actor) {act : Act α}
    (within : Within R act) : R s.network (s.perform actor act).2.network :=
  lasting.trans (lasting.retold s.network []) (within _)

theorem begin_within (lasting : Lasting R) (s : System) (c : Nat) (op : Operation) :
    R s.network (s.begin c op).network := by
  unfold System.begin
  split
  · exact perform_within lasting s (.call c s.tasks.length) (lasting.calling.within_start c op)
  · exact lasting.refl _

theorem proceed_within (lasting : Lasting R) (s : System) (k : Nat) {go : Nat → Stage → Act Stage}
    (within : ∀ c stage, Within R (go c stage)) : R s.network (s.proceed k go).network := by
  unfold System.proceed
  split
  · exact lasting.refl _
  · split
    next => exact lasting.refl _
    next task _ _ => exact perform_within lasting s (.call task.controller k) (within _ _)

theorem step_within (lasting : Everlasting R) (s : System) (e : Event) :
    R s.network (s.step e).network := by
  have lasts := lasting.toLasting
  have calls := lasts.calling
  cases e with
  | newController => exact perform_within lasts s _ fun n => lasting.slots n _
  | begin c op => exact begin_within lasts s c op
  | drop c =>
      change R s.network (s.drop c).network
      unfold System.drop
      split
      · exact begin_within lasts s c .dispose
      · exact calls.refl _
  | resume k => exact proceed_within lasts s k calls.within_resumeStage
  | suspend k => exact proceed_within lasts s k fun _ => calls.within_suspend
  | conclude k outcome => exact proceed_within lasts s k fun _ => calls.within_conclude outcome
  | abandon k => exact proceed_within lasts s k fun _ => calls.within_abandon
  | outside o => exact perform_within lasts s _ (lasting.within_outside o)

end

theorem run_snoc (address : String) (events : List Event) (e : Event) :
    run address (events ++ [e]) = (run address events).step e := by
  simp [run]

theorem run_numbered (address : String) (events : List Event) :
    (run address events).network.endpoint.Numbered := by
  induction events using List.reverseRecOn with
  | nil => rfl
  | append_singleton events e ih =>
      rw [run_snoc]
      exact (step_within endures_everlasting _ e).numbered ih

theorem move_created {actor maker : Actor} {before after : Ledger × Hand} {id : Nat}
    (move : Move actor before after) (did : after.1.Did maker (.created id)) :
    before.1.Did maker (.created id) ∨ 0 < id := by
  cases move with
  | supply l | create c k l =>
      rcases Ledger.created_cases did with ⟨_, rfl⟩ | before
      · exact .inr (Nat.succ_pos _)
      · exact .inl before
  | meddle l deed plain => exact .inl ((Ledger.did_other (Deed.plain_created plain id)).mp did)
  | shut c k l other sole deed shuts =>
      exact .inl ((Ledger.did_other (Deed.plain_created (Deed.shuts_plain shuts) id)).mp did)
  | install c k l other generation free | remove c k l held generation cached =>
      exact .inl ((Ledger.did_other (l := l.put c _) (by simp)).mp did)
  | opened | openFailed => exact .inl ((Ledger.did_other (by simp)).mp did)
  | found | reject | reach | release => exact .inl did

theorem run_created_pos (address : String) (events : List Event) {maker : Actor} {id : Nat}
    (did : ⟨maker, .created id⟩ ∈ (run address events).history) : 0 < id := by
  induction events using List.reverseRecOn with
  | nil => cases did
  | append_singleton events e ih =>
      rw [run_snoc] at did
      obtain ⟨actor, hand, moves, _⟩ := (step_follows (run_sound address events) e).moves
      have older (last : Ledger × Hand)
          (steps : Moves actor ((run address events).ledger, (run address events).hands actor) last)
          (told : last.1.Did maker (.created id)) : 0 < id := by
        induction steps with
        | refl => exact ih told
        | tail _ move earlier =>
            exact (move_created move told).elim earlier fun positive => positive
      exact older _ moves did

theorem run_has (address : String) (events : List Event) {maker : Actor} {id : Nat}
    (did : ⟨maker, .created id⟩ ∈ (run address events).history) :
    (run address events).network.Has (.ofEndpoint id) := by
  have made : id ≤ (run address events).network.endpoint.channels.length :=
    (run_sound address events).standing.created_le did
  have numbered := run_numbered address events
  exact (Endpoint.numbered_isSome numbered).mpr ⟨run_created_pos address events did, made⟩

end RemoteClient.Interleaving
