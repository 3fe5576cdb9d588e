import RemoteClient.Files.Tree
import RemoteClient.Proofs.Files.Paths

namespace RemoteClient.Files

namespace Tree

variable {t t' t'' : Tree} {start goal place : Location} {slash : Bool} {name : String}
    {names : List String}

structure Plain (name : String) : Prop where
  short : ¬ longestName < name.utf8ByteSize
  moves : name ≠ "."
  descends : name ≠ ".."

/-- The names lead from one directory to another. -/
inductive Walks (t : Tree) : Location → List String → Location → Prop
  | stop {place : Location} : Walks t place [] place
  | stay {place goal : Location} {rest : List String} :
      Walks t place rest goal → Walks t place ("." :: rest) goal
  | up {place goal : Location} {rest : List String} :
      Walks t place.dropLast rest goal → Walks t place (".." :: rest) goal
  | down {place goal : Location} {name : String} {rest : List String} (plain : Plain name)
      (there : t.node? (place ++ [name]) = some .directory) :
      Walks t (place ++ [name]) rest goal → Walks t place (name :: rest) goal

theorem follow_stay (t : Tree) (start : Location) (slash : Bool) (rest : List String) :
    t.follow start slash ("." :: rest) = t.follow start slash rest := by
  rw [follow, if_neg (by decide)]
  rfl

theorem follow_up (t : Tree) (start : Location) (slash : Bool) (rest : List String) :
    t.follow start slash (".." :: rest) = t.follow start.dropLast slash rest := by
  rw [follow, if_neg (by decide)]
  rfl

theorem follow_plain (plain : Plain name) (t : Tree) (start : Location) (slash : Bool)
    (rest : List String) :
    t.follow start slash (name :: rest) =
      match t.node? (start ++ [name]) with
      | some .directory => t.follow (start ++ [name]) slash rest
      | some (.file content) =>
        if rest.isEmpty then .file (start ++ [name]) content slash else .failed .notDirectory
      | none => if rest.isEmpty then .free (start ++ [name]) slash else .failed .notFound := by
  have moves : ¬ (name == ".") := by simpa using plain.moves
  have descends : ¬ (name == "..") := by simpa using plain.descends
  rw [follow, if_neg plain.short, if_neg moves]
  exact if_neg descends

theorem Walks.follow (walks : Walks t start names goal) (slash : Bool) (more : List String) :
    t.follow start slash (names ++ more) = t.follow goal slash more := by
  induction walks with
  | stop => rfl
  | stay _ ih => exact (follow_stay ..).trans ih
  | up _ ih => exact (follow_up ..).trans ih
  | down plain there _ ih =>
      rw [List.cons_append, follow_plain plain, there]
      exact ih

theorem Walks.unique {other : Location} (walks : Walks t start names goal)
    (again : Walks t start names other) :
    goal = other := by
  have same : t.follow goal false [] = t.follow other false [] :=
    (walks.follow false []).symm.trans (again.follow false [])
  exact Target.directory.inj same

def spot? : Target → Option Location
  | .file place _ _ | .free place _ => some place
  | .directory _ | .tooLong _ | .failed _ => none

theorem follow_spot (leads : spot? (t.follow start slash names) = some place) :
    ∃ front name goal, names = front ++ [name] ∧ Walks t start front goal ∧ Plain name ∧
      place = goal ++ [name] ∧ t.node? place ≠ some .directory := by
  induction names generalizing start with
  | nil => cases leads
  | cons name rest ih =>
      by_cases long : longestName < name.utf8ByteSize
      · rw [Tree.follow, if_pos long] at leads
        split at leads <;> cases leads
      by_cases same : name = "."
      · subst same
        rw [follow_stay] at leads
        obtain ⟨front, last, goal, rfl, walks, found⟩ := ih leads
        exact ⟨"." :: front, last, goal, rfl, walks.stay, found⟩
      by_cases above : name = ".."
      · subst above
        rw [follow_up] at leads
        obtain ⟨front, last, goal, rfl, walks, found⟩ := ih leads
        exact ⟨".." :: front, last, goal, rfl, walks.up, found⟩
      have plain : Plain name := ⟨long, same, above⟩
      rw [follow_plain plain] at leads
      cases there : t.node? (start ++ [name]) with
      | none =>
          cases rest <;> simp [there, spot?] at leads
          exact ⟨[], name, start, rfl, .stop, plain, leads.symm, by simp [← leads, there]⟩
      | some node =>
          cases node with
          | file content =>
              cases rest <;> simp [there, spot?] at leads
              exact ⟨[], name, start, rfl, .stop, plain, leads.symm, by simp [← leads, there]⟩
          | directory =>
              rw [there] at leads
              obtain ⟨front, last, goal, rfl, walks, found⟩ := ih leads
              exact ⟨name :: front, last, goal, rfl, walks.down plain there, found⟩

theorem follow_end {front : List String} (walks : Walks t start front goal) (plain : Plain name) :
    t.follow start slash (front ++ [name]) =
      match t.node? (goal ++ [name]) with
      | some .directory => .directory (goal ++ [name])
      | some (.file content) => .file (goal ++ [name]) content slash
      | none => .free (goal ++ [name]) slash := by
  rw [walks.follow, follow_plain plain]
  rfl

theorem follow_at {ends : Bool} {content : Content}
    (leads : t.follow start slash names = .file place content ends) :
    t.node? place = some (.file content) ∧ ends = slash := by
  obtain ⟨front, name, goal, rfl, walks, plain, rfl, _⟩ := follow_spot (congrArg spot? leads)
  rw [follow_end walks plain] at leads
  split at leads
  · cases leads
  next found =>
    cases leads
    exact ⟨found, rfl⟩
  · cases leads

theorem follow_absent {ends : Bool} (leads : t.follow start slash names = .free place ends) :
    t.node? place = none := by
  obtain ⟨front, name, goal, rfl, walks, plain, rfl, _⟩ := follow_spot (congrArg spot? leads)
  rw [follow_end walks plain] at leads
  split at leads
  · cases leads
  · cases leads
  next absent => exact absent

/-- A path leads where its names lead, unless it is no path at all. -/
theorem resolve_cases (path : String) : (∃ reason, ∀ t : Tree, t.resolve path = .failed reason) ∨
    ∀ t : Tree, t.resolve path = t.follow (if isAbsolute path then [] else t.current)
      (path.toList.getLast? == some '/') (namesOf path) := by
  by_cases empty : path == ""
  · exact .inl ⟨.notFound, fun t => by rw [resolve, if_pos empty]⟩
  by_cases nul : path.toList.contains '\x00'
  · exact .inl ⟨.nulInName, fun t => by rw [resolve, if_neg empty, if_pos nul]⟩
  by_cases long : longestPath < path.utf8ByteSize
  · exact .inl ⟨.nameTooLong, fun t => by rw [resolve, if_neg empty, if_neg nul, if_pos long]⟩
  · exact .inr fun t => by rw [resolve, if_neg empty, if_neg nul, if_neg long, namesOf]

theorem resolve_at {path : String} {ends : Bool} {content : Content}
    (leads : t.resolve path = .file place content ends) : t.node? place = some (.file content) := by
  rcases resolve_cases path with ⟨_, failed⟩ | follows
  · cases (failed t).symm.trans leads
  · exact (follow_at ((follows t).symm.trans leads)).1

theorem resolve_absent {path : String} {ends : Bool} (leads : t.resolve path = .free place ends) :
    t.node? place = none := by
  rcases resolve_cases path with ⟨_, failed⟩ | follows
  · cases (failed t).symm.trans leads
  · exact follow_absent ((follows t).symm.trans leads)

theorem resolve_join {dir : String} {ends : Bool} {content : Content} (named : IsName name)
    (leads : t.resolve (join dir name) = .file place content ends) :
    ∃ goal, Walks t (if isAbsolute dir then [] else t.current) (namesOf dir) goal ∧
      place = goal ++ [name] := by
  rcases resolve_cases (join dir name) with ⟨_, failed⟩ | follows
  · cases (failed t).symm.trans leads
  · rw [follows, isAbsolute_join dir named, namesOf_join dir named] at leads
    obtain ⟨front, last, goal, same, walks, _, rfl, _⟩ := follow_spot (congrArg spot? leads)
    obtain ⟨rfl, last⟩ := List.append_inj' same rfl
    cases last
    exact ⟨goal, walks, rfl⟩

/-- Nothing is taken away, and nothing turns into something else. -/
structure Grows (t t' : Tree) : Prop where
  current : t'.current = t.current
  directories : ∀ {place}, t.node? place = some .directory → t'.node? place = some .directory
  files : ∀ {place content}, t.node? place = some (.file content) →
    ∃ later, t'.node? place = some (.file later)

def Spares (t t' : Tree) : Prop :=
  ∀ {place content}, t.node? place = some (.file content) → t'.node? place = some (.file content)

namespace Grows

theorem refl (t : Tree) : Grows t t := ⟨rfl, fun held => held, fun held => ⟨_, held⟩⟩

theorem trans (first : Grows t t') (second : Grows t' t'') : Grows t t'' where
  current := second.current.trans first.current
  directories held := second.directories (first.directories held)
  files held := by
    obtain ⟨_, held⟩ := first.files held
    exact second.files held

theorem walks (grows : Grows t t') (walks : Walks t start names goal) :
    Walks t' start names goal := by
  induction walks with
  | stop => exact .stop
  | stay _ ih => exact ih.stay
  | up _ ih => exact ih.up
  | down plain there _ ih => exact ih.down plain (grows.directories there)

theorem follow (grows : Grows t t') {ends : Bool} {content : Content}
    (leads : t.follow start slash names = .file place content ends) :
    ∃ later, t'.follow start slash names = .file place later ends := by
  obtain ⟨held, rfl⟩ := follow_at leads
  obtain ⟨front, name, goal, rfl, walks, plain, rfl, _⟩ := follow_spot (congrArg spot? leads)
  obtain ⟨later, there⟩ := grows.files held
  rw [follow_end (grows.walks walks) plain, there]
  exact ⟨later, rfl⟩

theorem resolve (grows : Grows t t') {path : String} {ends : Bool} {content : Content}
    (leads : t.resolve path = .file place content ends) :
    ∃ later, t'.resolve path = .file place later ends := by
  rcases resolve_cases path with ⟨_, failed⟩ | follows
  · cases (failed t).symm.trans leads
  · rw [follows] at leads ⊢
    rw [grows.current]
    exact grows.follow leads

end Grows

end Tree

end RemoteClient.Files
