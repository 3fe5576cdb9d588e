import RemoteClient.Naming.Session
import RemoteClient.Proofs.Naming.Allocation

namespace RemoteClient.Naming

/-- What was said while one scope was the current one: the names that were reserved in it, and the
requests with the names given for them. -/
structure Frame where
  kept : List String
  given : List (String × String)

structure Past where
  current : Frame
  enclosing : List Frame

namespace Past

def opened (names : List String) : Past := ⟨⟨names, []⟩, []⟩

def frames (p : Past) : List Frame := p.current :: p.enclosing

def keep (p : Past) (name : String) : Past :=
  { p with current := { p.current with kept := name :: p.current.kept } }

def give (p : Past) (desired name : String) : Past :=
  { p with current := { p.current with given := (desired, name) :: p.current.given } }

def enter (p : Past) (names : List String) : Past := ⟨⟨names, []⟩, p.frames⟩

def exit (p : Past) : Past :=
  match p.enclosing with
  | [] => p
  | outer :: rest => ⟨outer, rest⟩

def after (p : Past) : Request × Answer → Past
  | (.reserve name, _) => p.keep name
  | (.allocate desired, .name given) => p.give desired given
  | (.enter names, _) => p.enter names
  | (.exit, .depth _) => p.exit
  | _ => p

def ofRun (reserved : List String) (requests : List Request) : Past :=
  (requests.zip ((Table.ofReserved reserved).run requests).1).foldl after (opened reserved)

end Past

namespace Scope

theorem reserve_allocated (s : Scope) (key : String) : (s.reserve key).allocated = s.allocated := by
  unfold reserve
  split <;> rfl

theorem lookup_mem {s : Scope} {key name : String} (found : s.lookup? key = some name) :
    (key, name) ∈ s.allocated := by
  obtain ⟨before, after, split, _⟩ := List.lookup_eq_some_iff.mp found
  rw [split]
  exact List.mem_append_right before List.mem_cons_self

end Scope

namespace Table

def recordedIn (scopes : List Scope) : List (String × String) := scopes.flatMap (·.allocated)

def recorded (t : Table) : List (String × String) := recordedIn t.scopes

theorem recordedIn_cons (s : Scope) (outer : List Scope) :
    recordedIn (s :: outer) = s.allocated ++ recordedIn outer := rfl

theorem reserve_recorded (t : Table) (name : String) : (t.reserve name).recorded = t.recorded := by
  rw [recorded, scopes, recordedIn_cons, reserve_current, Scope.reserve_allocated]
  rfl

theorem allocate_recorded {t : Table} {desired : String}
    (unasked : t.lookupKey? (fold desired) = none) :
    (t.allocate desired).2.recorded = (fold desired, (t.allocate desired).1) :: t.recorded := by
  rw [allocate_new unasked, recorded, scopes, recordedIn_cons, Scope.record,
    Scope.reserve_allocated]
  rfl

theorem lookup_recorded {t : Table} {key name : String} (found : t.lookupKey? key = some name) :
    (key, name) ∈ t.recorded := by
  obtain ⟨s, inside, given⟩ := List.exists_of_findSome?_eq_some found
  exact List.mem_flatMap.mpr ⟨s, inside, Scope.lookup_mem given⟩

theorem unasked_iff (t : Table) (key : String) :
    t.lookupKey? key = none ↔ key ∉ t.recorded.map (·.1) := by
  simp only [lookupKey?, List.findSome?_eq_none_iff, Scope.lookup?, List.lookup_eq_none_iff,
    recorded, recordedIn, List.map_flatMap, List.mem_flatMap, List.mem_map, not_exists, not_and]
  constructor
  · rintro unasked s inside a member rfl
    simpa using unasked s inside a member
  · intro absent s inside a member
    simpa using fun same => absent s inside a member same.symm

/-- Each request is recorded once, under a name of its own that its scope holds. -/
structure Sound (t : Table) : Prop where
  keys : (t.recorded.map (·.1)).Nodup
  names : (t.recorded.map (fold ·.2)).Nodup
  held : ∀ s ∈ t.scopes, ∀ a ∈ s.allocated, s.holds (fold a.2)

theorem Sound.recorded_held {t : Table} (sound : Sound t) {a : String × String}
    (member : a ∈ t.recorded) :
    t.holds (fold a.2) := by
  obtain ⟨s, inside, recorded⟩ := List.mem_flatMap.mp member
  exact List.any_eq_true.mpr ⟨s, inside, sound.held s inside a recorded⟩

theorem Sound.lookup {t : Table} (sound : Sound t) {key name : String}
    (member : (key, name) ∈ t.recorded) :
    t.lookupKey? key = some name := by
  cases asked : t.lookupKey? key with
  | none => exact absurd (List.mem_map_of_mem member) ((unasked_iff t key).mp asked)
  | some other =>
      have same := List.inj_on_of_nodup_map sound.keys (lookup_recorded asked) member rfl
      exact congrArg (some ∘ Prod.snd) same

theorem ofReserved_sound (names : List String) : Sound (ofReserved names) where
  keys := List.nodup_nil
  names := List.nodup_nil
  held := by
    intro s inside a member
    rw [List.mem_singleton.mp inside] at member
    cases member

theorem Sound.reserve {t : Table} (sound : Sound t) (name : String) : Sound (t.reserve name) where
  keys := by
    rw [reserve_recorded]
    exact sound.keys
  names := by
    rw [reserve_recorded]
    exact sound.names
  held := by
    intro s inside a member
    rcases List.mem_cons.mp inside with rfl | inside
    · rw [reserve_current, Scope.reserve_allocated] at member
      rw [reserve_current, Scope.reserve_holds]
      exact .inl (sound.held t.current List.mem_cons_self a member)
    · exact sound.held s (List.mem_cons_of_mem _ inside) a member

theorem Sound.allocate {t : Table} (sound : Sound t) (desired : String) :
    Sound (t.allocate desired).2 := by
  cases asked : t.lookupKey? (fold desired) with
  | some name =>
      rw [allocate_found asked]
      exact sound
  | none =>
      refine ⟨?_, ?_, ?_⟩
      · rw [allocate_recorded asked, List.map_cons, List.nodup_cons]
        exact ⟨(unasked_iff t _).mp asked, sound.keys⟩
      · rw [allocate_recorded asked, List.map_cons, List.nodup_cons]
        refine ⟨fun taken => ?_, sound.names⟩
        -- A recorded name is held, and the new one was free.
        obtain ⟨a, member, same⟩ := List.mem_map.mp taken
        have held := sound.recorded_held member
        rw [same] at held
        exact (allocate_meets asked).free _ List.mem_cons_self held
      · rw [allocate_new asked]
        intro s inside a member
        rcases List.mem_cons.mp inside with rfl | inside
        · rw [Scope.record_holds, Scope.reserve_holds]
          rcases List.mem_cons.mp member with rfl | member
          · exact .inr rfl
          · rw [Scope.reserve_allocated] at member
            exact .inl (sound.held t.current List.mem_cons_self a member)
        · exact sound.held s (List.mem_cons_of_mem _ inside) a member

theorem Sound.enter {t : Table} (sound : Sound t) (names : List String) :
    Sound (t.enter names) where
  keys := sound.keys
  names := sound.names
  held := by
    intro s inside a member
    rcases List.mem_cons.mp inside with rfl | inside
    · cases member
    · exact sound.held s inside a member

theorem Sound.exit {t outer : Table} (sound : Sound t) (left : t.exit? = some outer) :
    Sound outer := by
  obtain ⟨current, enclosing⟩ := t
  cases enclosing with
  | nil => cases left
  | cons parent rest =>
      cases left
      have fewer : (recordedIn (parent :: rest)).Sublist (recordedIn (current :: parent :: rest)) :=
        List.sublist_append_right _ _
      exact {
        keys := sound.keys.sublist (fewer.map _)
        names := sound.names.sublist (fewer.map _)
        held := fun s inside => sound.held s (List.mem_cons_of_mem _ inside) }

/-- The stack of scopes has kept what was said: a scope holds the names that were reserved in it,
and what was given in it is recorded in it or around it. -/
inductive Retells : List Scope → List Frame → Prop
  | nil : Retells [] []
  | cons {s : Scope} {outer : List Scope} {f : Frame} {frames : List Frame} :
    (∀ name ∈ f.kept, s.holds (fold name)) →
    (∀ g ∈ f.given, (fold g.1, g.2) ∈ recordedIn (s :: outer)) →
    Retells outer frames → Retells (s :: outer) (f :: frames)

theorem Retells.kept {scopes : List Scope} {frames : List Frame} (retells : Retells scopes frames) :
    ∀ f ∈ frames, ∀ name ∈ f.kept, scopes.any (·.holds (fold name)) := by
  induction retells with
  | nil => simp
  | cons held _ _ ih =>
      intro f member name kept
      rw [List.any_cons, Bool.or_eq_true]
      rcases List.mem_cons.mp member with rfl | member
      · exact .inl (held name kept)
      · exact .inr (ih f member name kept)

theorem Retells.given {scopes : List Scope} {frames : List Frame}
    (retells : Retells scopes frames) :
    ∀ f ∈ frames, ∀ g ∈ f.given, (fold g.1, g.2) ∈ recordedIn scopes := by
  induction retells with
  | nil => simp
  | cons _ recorded _ ih =>
      intro f member g given
      rcases List.mem_cons.mp member with rfl | member
      · exact recorded g given
      · exact List.mem_append_right _ (ih f member g given)

structure Remembers (t : Table) (p : Past) : Prop where
  sound : Sound t
  retells : Retells t.scopes p.frames

theorem ofReserved_remembers (names : List String) :
    Remembers (ofReserved names) (.opened names) where
  sound := ofReserved_sound names
  retells := by
    refine .cons (fun name member => ?_) (by simp [Past.opened]) .nil
    exact (Scope.reserving_holds names _).mpr (List.mem_map_of_mem member)

theorem Remembers.reserve {t : Table} {p : Past} (remembers : Remembers t p) (name : String) :
    Remembers (t.reserve name) (p.keep name) where
  sound := remembers.sound.reserve name
  retells := by
    obtain _ | ⟨kept, given, outer⟩ := remembers.retells
    refine .cons (fun other member => ?_) (fun g member => ?_) outer
    · rw [reserve_current, Scope.reserve_holds]
      rcases List.mem_cons.mp member with rfl | member
      · exact .inr rfl
      · exact .inl (kept other member)
    · rw [recordedIn_cons, reserve_current, Scope.reserve_allocated]
      exact given g member

theorem Remembers.allocate {t : Table} {p : Past} (remembers : Remembers t p) (desired : String) :
    Remembers (t.allocate desired).2 (p.give desired (t.allocate desired).1) where
  sound := remembers.sound.allocate desired
  retells := by
    obtain _ | ⟨kept, given, outer⟩ := remembers.retells
    cases asked : t.lookupKey? (fold desired) with
    | some name =>
        rw [allocate_found asked]
        refine .cons kept (fun g member => ?_) outer
        rcases List.mem_cons.mp member with rfl | member
        · exact lookup_recorded asked
        · exact given g member
    | none =>
        have recorded := allocate_recorded asked
        rw [allocate_new asked] at recorded ⊢
        refine .cons (fun other member => ?_) (fun g member => ?_) outer
        · rw [Scope.record_holds, Scope.reserve_holds]
          exact .inl (kept other member)
        · change (fold g.1, g.2) ∈ Table.recorded _
          rw [recorded]
          rcases List.mem_cons.mp member with rfl | member
          · exact List.mem_cons_self
          · exact List.mem_cons_of_mem _ (given g member)

theorem Remembers.enter {t : Table} {p : Past} (remembers : Remembers t p) (names : List String) :
    Remembers (t.enter names) (p.enter names) where
  sound := remembers.sound.enter names
  retells := by
    refine .cons (fun name member => ?_) (by simp [Past.enter]) remembers.retells
    exact (Scope.reserving_holds names _).mpr (List.mem_map_of_mem member)

theorem Remembers.exit {t outer : Table} {p : Past} (remembers : Remembers t p)
    (left : t.exit? = some outer) : Remembers outer p.exit where
  sound := remembers.sound.exit left
  retells := by
    obtain ⟨current, enclosing⟩ := t
    obtain ⟨frame, frames⟩ := p
    obtain _ | ⟨_, _, around⟩ := remembers.retells
    cases around with
    | nil => cases left
    | cons kept given rest =>
        cases left
        exact .cons kept given rest

theorem Remembers.step {t : Table} {p : Past} (remembers : Remembers t p) (request : Request) :
    Remembers (t.step request).2 (p.after (request, (t.step request).1)) := by
  cases request with
  | allocate name => exact remembers.allocate name
  | reserve name => exact remembers.reserve name
  | enter names => exact remembers.enter names
  | isReserved | lookup | depth => exact remembers
  | exit =>
      rw [Table.step]
      cases left : t.exit? with
      | none => exact remembers
      | some outer => exact remembers.exit left

theorem Remembers.run {t : Table} {p : Past} (remembers : Remembers t p) (requests : List Request) :
    Remembers (t.run requests).2 ((requests.zip (t.run requests).1).foldl Past.after p) := by
  induction requests generalizing t p with
  | nil => exact remembers
  | cons request rest ih => exact ih (remembers.step request)

theorem run_remembers (reserved : List String) (requests : List Request) :
    Remembers ((ofReserved reserved).run requests).2 (.ofRun reserved requests) :=
  (ofReserved_remembers reserved).run requests

/-- The name differs, up to letter case, from all that a scope in sight holds and from all that was
said while one of them was the current one. -/
structure Fresh (t : Table) (p : Past) (name : String) : Prop where
  free : ∀ s ∈ t.scopes, s.holds (fold name) = false
  unsaid : ∀ f ∈ p.frames, ∀ other ∈ f.kept ++ f.given.map (·.2), fold name ≠ fold other

theorem Remembers.fresh {t : Table} {p : Past} (remembers : Remembers t p) {desired : String}
    (unasked : t.lookupKey? (fold desired) = none) : Fresh t p (t.allocate desired).1 := by
  have free := (allocate_meets unasked).free _ List.mem_cons_self
  refine ⟨fun s inside => ?_, fun f member other said same => free ?_⟩
  · by_contra holds
    exact free (List.any_eq_true.mpr ⟨s, inside, by simpa using holds⟩)
  · rw [same]
    rcases List.mem_append.mp said with kept | given
    · exact remembers.retells.kept f member other kept
    · obtain ⟨g, inside, rfl⟩ := List.mem_map.mp given
      exact remembers.sound.recorded_held (a := (fold g.1, g.2))
        (remembers.retells.given f member g inside)

/-- Whatever was asked of a table: what it gave in a scope in sight is recorded, names recorded for
different requests differ, each is held where it is recorded, and the name for a new request is
fresh. -/
theorem names_stay_apart (reserved : List String) (requests : List Request) :
    let t := ((ofReserved reserved).run requests).2
    let past := Past.ofRun reserved requests
    (∀ f ∈ past.frames, ∀ g ∈ f.given, (fold g.1, g.2) ∈ t.recorded) ∧
      (∀ a ∈ t.recorded, ∀ b ∈ t.recorded, a.1 ≠ b.1 → fold a.2 ≠ fold b.2) ∧
      (∀ s ∈ t.scopes, ∀ a ∈ s.allocated, s.holds (fold a.2)) ∧
      ∀ desired, t.lookup? desired = none →
        Fresh t past (t.allocate desired).1 ∧
          (t.allocate desired).2.current.holds (fold (t.allocate desired).1) := by
  intro t past
  have remembers : Remembers t past := run_remembers reserved requests
  refine ⟨remembers.retells.given, fun a one b other different same => ?_, remembers.sound.held,
    fun desired unasked => ⟨remembers.fresh unasked, ?_⟩⟩
  · exact different
      (congrArg Prod.fst (List.inj_on_of_nodup_map remembers.sound.names one other same))
  · rw [allocate_new unasked, Scope.record_holds, Scope.reserve_holds]
    exact .inr rfl

/-- Requests that are spelled like numbered names, below a scope that keeps the plain one. -/
example :
    ((ofReserved ["A"]).run [.allocate "a", .enter [], .allocate "a_0", .allocate "A", .exit]).1 =
    [.name "a_0", .depth 1, .name "a_0_0", .name "a_0", .depth 0] := by decide +kernel

end Table

end RemoteClient.Naming
