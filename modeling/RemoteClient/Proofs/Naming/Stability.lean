import RemoteClient.Proofs.Naming.Nesting

namespace RemoteClient.Naming.Table

/-- The root is at height 0, and the current scope at the depth of the table. -/
def scopeAt? (t : Table) (height : Nat) : Option Scope := t.scopes.reverse[height]?

def Remains (t : Table) (height : Nat) : List Request → Prop
  | [] => True
  | request :: rest => height ≤ (t.step request).2.depth ∧ (t.step request).2.Remains height rest

def Keeps (t later : Table) (height : Nat) : Prop :=
  ∀ s, t.scopeAt? height = some s → ∃ s', later.scopeAt? height = some s' ∧ s.Extends s'

theorem Keeps.refl (t : Table) (height : Nat) :
    Keeps t t height := fun s found => ⟨s, found, .refl s⟩

theorem Keeps.trans {t later last : Table} {height : Nat} (first : Keeps t later height)
    (second : Keeps later last height) : Keeps t last height := by
  intro s found
  obtain ⟨s', found', grown⟩ := first s found
  obtain ⟨s'', found'', more⟩ := second s' found'
  exact ⟨s'', found'', grown.trans more⟩

theorem scopeAt_current (t : Table) : t.scopeAt? t.depth = some t.current := by
  simp [scopeAt?, scopes, depth]

theorem scopeAt_enclosing {t : Table} {height : Nat} (below : height < t.depth) :
    t.scopeAt? height = t.enclosing.reverse[height]? := by
  have inside : height < t.enclosing.reverse.length := by rwa [List.length_reverse]
  rw [scopeAt?, scopes, List.reverse_cons, List.getElem?_append_left inside]

theorem scopeAt_enter (t : Table) (names : List String) {height : Nat} (inside : height ≤ t.depth) :
    (t.enter names).scopeAt? height = t.scopeAt? height :=
  scopeAt_enclosing (t := t.enter names) (Nat.lt_succ_of_le inside)

theorem scopeAt_exit {t outer : Table} (around : t.enclosing = outer.scopes) {height : Nat}
    (remains : height ≤ outer.depth) : outer.scopeAt? height = t.scopeAt? height := by
  have below : height < t.depth := by
    rw [depth, around]
    exact Nat.lt_succ_of_le remains
  rw [scopeAt_enclosing below, around, scopeAt?]

theorem scopeAt_inside {t : Table} {height : Nat} {s : Scope} (found : t.scopeAt? height = some s) :
    height ≤ t.depth := by
  obtain ⟨inside, _⟩ := List.getElem?_eq_some_iff.mp found
  rw [List.length_reverse] at inside
  exact Nat.le_of_lt_succ inside

theorem scopeAt_mem {t : Table} {height : Nat} {s : Scope} (found : t.scopeAt? height = some s) :
    s ∈ t.scopes :=
  List.mem_reverse.mp (List.mem_of_getElem? found)

theorem keeps_stays {t later : Table} (around : later.enclosing = t.enclosing)
    (grown : t.current.Extends later.current) (height : Nat) : Keeps t later height := by
  have level : later.depth = t.depth := congrArg List.length around
  intro s found
  rcases Nat.eq_or_lt_of_le (scopeAt_inside found) with rfl | below
  · rw [scopeAt_current] at found
    cases found
    exact ⟨later.current, level ▸ scopeAt_current later, grown⟩
  · refine ⟨s, ?_, .refl s⟩
    rw [scopeAt_enclosing below] at found
    rw [scopeAt_enclosing (level ▸ below), around, found]

theorem step_keeps (t : Table) (request : Request) {height : Nat}
    (remains : height ≤ (t.step request).2.depth) :
    Keeps t (t.step request).2 height := by
  obtain ⟨_, around, grown⟩ | ⟨names, rfl, entered⟩ | ⟨rfl, _, same⟩ | ⟨rfl, around⟩ :=
    step_cases t request
  · exact keeps_stays around grown height
  · rw [entered]
    exact fun s found => ⟨s, (scopeAt_enter t names (scopeAt_inside found)).trans found, .refl s⟩
  · rw [same]
    exact .refl t height
  · exact fun s found => ⟨s, (scopeAt_exit around remains).trans found, .refl s⟩

theorem Remains.keeps {t : Table} {height : Nat} {requests : List Request}
    (remains : t.Remains height requests) :
    Keeps t (t.run requests).2 height := by
  induction requests generalizing t with
  | nil => exact .refl t height
  | cons request rest ih => exact (step_keeps t request remains.1).trans (ih remains.2)

theorem Remains.lower {t : Table} {height below : Nat} {requests : List Request}
    (remains : t.Remains height requests) (lower : below ≤ height) : t.Remains below requests := by
  induction requests generalizing t with
  | nil => trivial
  | cons request rest ih => exact ⟨Nat.le_trans lower remains.1, ih remains.2⟩

theorem allocate_recordedAt (t : Table) (desired : String) :
    ∃ height s, (t.allocate desired).2.scopeAt? height = some s ∧
      s.lookup? (fold desired) = some (t.allocate desired).1 ∧
      (t.lookup? desired = none ∧ height = (t.allocate desired).2.depth ∨
        t.lookup? desired = some (t.allocate desired).1 ∧ (t.allocate desired).2 = t) := by
  cases asked : t.lookupKey? (fold desired) with
  | some name =>
      rw [allocate_found asked]
      obtain ⟨s, inside, given⟩ := List.exists_of_findSome?_eq_some asked
      obtain ⟨height, found⟩ := List.getElem?_of_mem (List.mem_reverse.mpr inside)
      exact ⟨height, s, found, given, .inr ⟨asked, rfl⟩⟩
  | none =>
      rw [allocate_new asked]
      refine ⟨_, _, scopeAt_current _, ?_, .inl ⟨asked, rfl⟩⟩
      rw [Scope.lookup?, Scope.record, List.lookup_cons, beq_self_eq_true]

theorem Sound.apart {t : Table} (sound : Sound t) :
    t.scopes.Pairwise fun s s' => ∀ key, s.lookup? key = none ∨ s'.lookup? key = none := by
  have keys := sound.keys
  rw [recorded, recordedIn, List.map_flatMap, List.nodup_flatMap] at keys
  refine keys.2.imp fun {s s'} disjoint key => ?_
  cases asked : s.lookup? key with
  | none => exact .inl rfl
  | some name =>
      cases asked' : s'.lookup? key with
      | none => exact .inr rfl
      | some name' =>
          have one : key ∈ s.allocated.map (·.1) := List.mem_map_of_mem (Scope.lookup_mem asked)
          have other : key ∈ s'.allocated.map (·.1) := List.mem_map_of_mem (Scope.lookup_mem asked')
          exact absurd other (disjoint one)

/-- While the scope that recorded an answer remains, the request is answered so, and whatever was
reserved in that scope or around it stays reserved. -/
theorem Remains.answers {t : Table} {height : Nat} {s : Scope} {desired name : String}
    {requests : List Request} (remains : t.Remains height requests)
    (found : t.scopeAt? height = some s) (given : s.lookup? (fold desired) = some name)
    (sound : Sound (t.run requests).2) :
    (∀ again, fold again = fold desired →
        (t.run requests).2.allocate again = (name, (t.run requests).2) ∧
          (t.run requests).2.lookup? again = some name) ∧
      (t.run requests).2.isReserved name ∧
      ∀ below ≤ height, ∀ outer, t.scopeAt? below = some outer →
        ∀ key, outer.holds key → (t.run requests).2.holds key := by
  obtain ⟨s', found', grown⟩ := remains.keeps s found
  have recorded : (fold desired, name) ∈ (t.run requests).2.recorded :=
    List.mem_flatMap.mpr ⟨s', scopeAt_mem found', grown.allocated (Scope.lookup_mem given)⟩
  have asked := sound.lookup recorded
  have reserved := sound.recorded_held recorded
  refine ⟨fun again same => ?_, reserved, fun below lower outer around key held => ?_⟩
  · rw [← same] at asked
    exact ⟨allocate_found asked, asked⟩
  · obtain ⟨outer', around', grown'⟩ := (remains.lower lower).keeps outer around
    exact List.any_eq_true.mpr ⟨outer', scopeAt_mem around', grown'.holds key held⟩

/-- A request is answered, and some scope records the answer: the current one, unless an enclosing
one had it. From then on, whatever is asked, until that scope is left the request gets the same
answer in any spelling, the given name is reserved, and so is all that the scope or one around it
reserved. At no time do two scopes record one request. -/
theorem answers_last (reserved : List String) (requests : List Request) (desired : String) :
    let t := ((ofReserved reserved).run requests).2
    let name := (t.allocate desired).1
    let answered := (t.allocate desired).2
    (∃ height s, answered.scopeAt? height = some s ∧ s.lookup? (fold desired) = some name ∧
        (t.lookup? desired = none ∧ height = answered.depth ∨
          t.lookup? desired = some name ∧ answered = t) ∧
        ∀ more, answered.Remains height more →
          let later := (answered.run more).2
          (∀ again, fold again = fold desired →
            later.allocate again = (name, later) ∧ later.lookup? again = some name) ∧
          later.isReserved name ∧
          ∀ below ≤ height, ∀ outer, answered.scopeAt? below = some outer →
            ∀ key, outer.holds key → later.holds key) ∧
      t.scopes.Pairwise fun s s' => ∀ key, s.lookup? key = none ∨ s'.lookup? key = none := by
  intro t name answered
  have remembers : Remembers t (.ofRun reserved requests) := run_remembers reserved requests
  obtain ⟨height, s, found, given, place⟩ := allocate_recordedAt t desired
  refine ⟨⟨height, s, found, given, place, fun more remains => ?_⟩, remembers.sound.apart⟩
  exact remains.answers found given ((remembers.allocate desired).run more).sound

def aside : List Request :=
  [.enter ["total_0"], .allocate "total", .reserve "sum", .exit, .reserve "Total_1"]

/-- Neither a scope that reserves the given name nor a later reservation changes the answer. -/
theorem total_keeps_answer :
    let answered := (((ofReserved ["total"]).enter ["count"]).allocate "TOTAL").2
    answered.Remains 1 aside ∧ (answered.run aside).2.lookup? "Total" = some "TOTAL_0" ∧
      (answered.run aside).2.isReserved "TOTAL_0" := by
  intro answered
  have remains : answered.Remains 1 aside := by
    simp only [aside, Remains]
    decide +kernel
  obtain ⟨⟨height, s, found, given, place, lasts⟩, _⟩ :=
    answers_last ["total"] [.enter ["count"]] "TOTAL"
  obtain ⟨_, rfl⟩ | ⟨known, _⟩ := place
  · obtain ⟨alike, held, _⟩ := lasts aside remains
    exact ⟨remains, (alike "Total" (by decide +kernel)).2, held⟩
  · cases known

end RemoteClient.Naming.Table
