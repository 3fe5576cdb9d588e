import RemoteClient.Proofs.Interleaving.Runs

namespace RemoteClient.Interleaving

namespace System

def installed (s : System) (c : Nat) : List Nat :=
  ((installs s.history).filter (·.1 == c)).map (·.2)

/-- The channel was created, opened and put into the slot by one call on the controller, and no call
on the controller ever closed or aborted it. -/
structure Pristine (s : System) (c id : Nat) : Prop where
  made : ∃ k, ⟨.call c k, .created id⟩ ∈ s.history ∧
    ⟨.call c k, .opened (.ofEndpoint id)⟩ ∈ s.history ∧ ⟨.call c k, .installed c id⟩ ∈ s.history
  untouched : ∀ k deed, ⟨.call c k, deed⟩ ∈ s.history → deed.attacks id = false

end System

theorem installed_length (s : System) (c : Nat) :
    (s.installed c).length = ((installs s.history).map (·.1)).count c := by
  rw [System.installed, List.length_map, ← List.countP_eq_length_filter, List.count,
    List.countP_map]
  rfl

theorem sound_pristine {s : System} (sound : Sound s) {c id : Nat} (cached : Keeps s.network c id) :
    s.Pristine c id := by
  obtain ⟨untouched, made⟩ := sound.standing.cached ((slot_network s c).trans cached)
  refine ⟨made, fun k deed did => ?_⟩
  by_contra attacks
  exact untouched ⟨k, deed, did, by simpa using attacks⟩

theorem sound_tagged {s : System} (sound : Sound s) {c : Nat} {held : Cached}
    (slot : (s.network.controller c).slot = some held) :
    held.generation = (s.network.controller c).generation := by
  have found : s.ledger.slots[c]? = some ⟨some held, (s.network.controller c).generation⟩ := by
    change s.network.controllers[c]? = _
    cases known : s.network.controllers[c]? with
    | none => simp [Network.controller, known, Controller.empty] at slot
    | some ctl =>
        simp only [Network.controller, List.getD_eq_getElem?_getD, known,
          Option.getD_some] at slot ⊢
        rw [← slot]
  exact sound.standing.tagged found

theorem slot_pristine_and_counted (address : String) (events later : List Event) (c : Nat) :
    (∀ held, ((run address events).network.controller c).slot = some held →
        (run address events).Pristine c held.channel ∧
          held.generation = ((run address events).network.controller c).generation) ∧
      ((run address events).network.controller c).generation =
        ((run address events).installed c).length ∧
      ((run address events).network.controller c).generation ≤
        ((run address (events ++ later)).network.controller c).generation ∧
      ((installs (run address events).history).map (·.2)).Nodup := by
  have sound := run_sound address events
  refine ⟨fun held slot => ⟨sound_pristine sound ?_, sound_tagged sound slot⟩, ?_, ?_,
    sound.standing.installed_once⟩
  · rw [Keeps, slot]
    rfl
  · rw [installed_length, ← generation_network]
    exact sound.standing.counted c
  · rw [← generation_network, ← generation_network]
    exact (run_later address events later c).generation

end RemoteClient.Interleaving
