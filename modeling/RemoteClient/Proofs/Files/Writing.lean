import RemoteClient.Proofs.Files.Growing

namespace RemoteClient.Files

namespace Tree

section

variable {place q : Location} {nodes : List (Location × Node)} {node : Node}

def exchange (place : Location) (node : Node) (nodes : List (Location × Node)) :
    List (Location × Node) :=
  nodes.map fun entry => if entry.1 = place then (place, node) else entry

theorem lookup_exchange_here (known : nodes.any (·.1 == place)) :
    (exchange place node nodes).lookup place = some node := by
  induction nodes with
  | nil => exact absurd known Bool.false_ne_true
  | cons entry nodes ih =>
      obtain ⟨key, value⟩ := entry
      rw [exchange, List.map_cons, ← exchange]
      by_cases here : key = place
      · simp [here]
      · have later : nodes.any (·.1 == place) := by simpa [here] using known
        have missed : (place == key) = false := beq_false_of_ne (Ne.symm here)
        simp [here, List.lookup_cons, missed, ih later]

theorem lookup_exchange_elsewhere (elsewhere : q ≠ place) :
    (exchange place node nodes).lookup q = nodes.lookup q := by
  have missed : (q == place) = false := beq_false_of_ne elsewhere
  induction nodes with
  | nil => rfl
  | cons entry nodes ih =>
      obtain ⟨key, value⟩ := entry
      rw [exchange, List.map_cons, ← exchange]
      by_cases here : key = place
      · simp [here, List.lookup_cons, missed, ih]
      · simp [here, List.lookup_cons, ih]

theorem lookup_unknown (unknown : ¬ nodes.any (·.1 == place)) : nodes.lookup place = none := by
  rw [List.lookup_eq_none_iff]
  intro entry member
  exact bne_iff_ne.mpr fun same =>
    unknown (List.any_eq_true.mpr ⟨entry, member, beq_iff_eq.mpr same.symm⟩)

end

variable {t t' : Tree} {place q : Location} {node : Node}

theorem put_current (t : Tree) (place : Location) (node : Node) :
    (t.put place node).current = t.current := by
  rw [put]
  split <;> rfl

theorem put_here (inside : place ≠ []) : (t.put place node).node? place = some node := by
  rw [node?, if_neg inside, put]
  split_ifs with known
  · exact lookup_exchange_here known
  · simp [List.lookup_append, lookup_unknown known]

theorem put_elsewhere (elsewhere : q ≠ place) : (t.put place node).node? q = t.node? q := by
  rw [node?, node?, put]
  congr 1
  split_ifs with known
  · exact lookup_exchange_elsewhere elsewhere
  · have missed : (q == place) = false := beq_false_of_ne elsewhere
    simp [List.lookup_append, List.lookup_cons, missed]

theorem put_file_grows (fresh : t.node? place ≠ some .directory) (content : Content) :
    Grows t (t.put place (.file content)) where
  current := put_current ..
  directories {q} held := by
    have elsewhere : q ≠ place := fun here => fresh (here ▸ held)
    rwa [put_elsewhere elsewhere]
  files {q _} held := by
    by_cases here : q = place
    · subst here
      have inside : q ≠ [] := by
        rintro rfl
        exact fresh rfl
      exact ⟨content, put_here inside⟩
    · exact ⟨_, (put_elsewhere here).trans held⟩

theorem put_directory_grows (absent : t.node? place = none) :
    Grows t (t.put place .directory) ∧ Spares t (t.put place .directory) := by
  have still {q : Location} {node : Node} (held : t.node? q = some node) :
      (t.put place .directory).node? q = some node := by
    have elsewhere : q ≠ place := by
      rintro rfl
      exact nomatch held.symm.trans absent
    rwa [put_elsewhere elsewhere]
  exact ⟨⟨put_current .., still, fun held => ⟨_, still held⟩⟩, still⟩

theorem createDirectory_grows (t : Tree) (path : String) :
    Grows t (t.createDirectory path).2 ∧ Spares t (t.createDirectory path).2 := by
  rw [createDirectory]
  split
  next leads => exact put_directory_grows (resolve_absent leads)
  all_goals exact ⟨.refl t, fun held => held⟩

def seat? : Target → Option Location
  | .file place _ false | .free place false => some place
  | .file _ _ true | .free _ true | .directory _ | .tooLong _ | .failed _ => none

theorem seat_spot {target : Target} (leads : seat? target = some place) :
    spot? target = some place := by
  rcases target with ⟨_, _, _ | _⟩ | _ | ⟨_, _ | _⟩ | _ | _ <;> first | exact leads | cases leads

theorem follow_seat {start : Location} {slash : Bool} {names : List String}
    (leads : seat? (t.follow start slash names) = some place) :
    place ≠ [] ∧ t.node? place ≠ some .directory ∧ ∀ content,
      (t.put place (.file content)).follow start slash names = .file place content false := by
  obtain ⟨front, name, goal, rfl, walks, plain, rfl, fresh⟩ := follow_spot (seat_spot leads)
  have inside : goal ++ [name] ≠ [] := List.append_ne_nil_of_right_ne_nil _ (List.cons_ne_nil _ _)
  refine ⟨inside, fresh, fun content => ?_⟩
  have plainly : slash = false := by
    rw [follow_end walks plain] at leads
    cases slash with
    | false => rfl
    | true => split at leads <;> cases leads
  rw [follow_end ((put_file_grows fresh content).walks walks) plain, put_here inside, plainly]

theorem resolve_seat {path : String} (leads : seat? (t.resolve path) = some place) :
    place ≠ [] ∧ t.node? place ≠ some .directory ∧ ∀ content,
      (t.put place (.file content)).resolve path = .file place content false := by
  rcases resolve_cases path with ⟨_, failed⟩ | follows
  · rw [failed] at leads
    cases leads
  · rw [follows] at leads
    simp only [follows, put_current]
    exact follow_seat leads

theorem change_seat {path : String} {update : Option Content → Content}
    (changes : t.change path update = (.ok (), t')) :
    ∃ place before, seat? (t.resolve path) = some place ∧
      t' = t.put place (.file (update before)) := by
  rw [change] at changes
  split at changes
  · next place content found =>
      exact ⟨place, some content, by rw [found]; rfl, (Prod.mk.inj changes).2.symm⟩
  · next place found => exact ⟨place, none, by rw [found]; rfl, (Prod.mk.inj changes).2.symm⟩
  all_goals exact absurd (Prod.mk.inj changes).1 (by simp)

theorem fileExists_written {path text : String} (written : t.write path text = (.ok (), t')) :
    t'.fileExists path = true := by
  obtain ⟨place, _, leads, rfl⟩ := change_seat written
  rw [fileExists, (resolve_seat leads).2.2]
  rfl

theorem readText_written {path text : String} (written : t.write path text = (.ok (), t')) :
    t'.readText path = .ok text := by
  obtain ⟨place, _, leads, rfl⟩ := change_seat written
  rw [readText, (resolve_seat leads).2.2]

end Tree

section

variable {α β : Type}

/-- It makes directories at most: no file is lost or changed. -/
def Furnishes (act : OnTree α) : Prop := ∀ t : Tree, t.Grows (act.run t).2 ∧ t.Spares (act.run t).2

theorem furnishes_still {act : OnTree α} (still : ∀ t : Tree, (act.run t).2 = t) :
    Furnishes act := fun t => by
  rw [still t]
  exact ⟨.refl t, fun held => held⟩

theorem furnishes_bind {act : OnTree α} {f : α → OnTree β} (first : Furnishes act)
    (second : ∀ a, Furnishes (f a)) : Furnishes (act >>= f) := fun t =>
  ⟨(first t).1.trans (second _ _).1, fun held => (second _ _).2 ((first t).2 held)⟩

theorem createDirectory_furnishes (path : String) : Furnishes (Disk.createDirectory path) :=
  fun t => t.createDirectory_grows path

theorem tolerate_furnishes (path : String) (result : Except Error Unit) :
    Furnishes (tolerate path result) := by
  cases result with
  | ok => exact furnishes_still fun _ => rfl
  | error e =>
      refine furnishes_bind (furnishes_still fun _ => rfl) fun present => ?_
      cases present <;> exact furnishes_still fun _ => rfl

theorem createUpTo_furnishes (fuel : Nat) (path : String) : Furnishes (createUpTo fuel path) := by
  induction fuel generalizing path with
  | zero => exact furnishes_still fun _ => rfl
  | succ fuel ih =>
      rw [createUpTo]
      split
      · exact furnishes_still fun _ => rfl
      · refine furnishes_bind (createDirectory_furnishes path) fun result => ?_
        split
        · split
          · exact furnishes_still fun _ => rfl
          next parent _ =>
            refine furnishes_bind (ih parent) fun made => ?_
            cases made with
            | error e => exact furnishes_still fun _ => rfl
            | ok => exact furnishes_bind (createDirectory_furnishes path) (tolerate_furnishes path)
        · exact tolerate_furnishes path result

theorem createParents_furnishes (path : String) : Furnishes (createParents path) := by
  rw [createParents]
  split
  · exact createUpTo_furnishes _ _
  · exact furnishes_still fun _ => rfl

end

/-- Where a failure ends the work, what succeeds has come past every step. -/
theorem run_passed {α β : Type} {act : OnTree (Except Error α)}
    {f : Except Error α → OnTree (Except Error β)} {t t' : Tree} {b : β}
    (ran : (act >>= f).run t = (.ok b, t'))
    (fails : ∀ reason, f (.error reason) = pure (.error reason)) :
    ∃ a middle, act.run t = (.ok a, middle) ∧ (f (.ok a)).run middle = (.ok b, t') := by
  obtain ⟨⟨result, middle⟩, first⟩ : ∃ r, act.run t = r := ⟨_, rfl⟩
  have behind : (f result).run middle = (.ok b, t') := by
    rw [StateT.run_bind, first] at ran
    exact ran
  cases result with
  | error reason =>
      rw [fails] at behind
      cases behind
  | ok a => exact ⟨a, middle, first, behind⟩

section

variable {t : Tree} (path text : String)

theorem run_fileExists : (Disk.fileExists path : OnTree Bool).run t = (t.fileExists path, t) := rfl

theorem run_readText : (Disk.readText path : OnTree _).run t = (t.readText path, t) := rfl

theorem run_write : (Disk.write path text : OnTree _).run t = t.write path text := rfl

end

end RemoteClient.Files
