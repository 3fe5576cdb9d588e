import RemoteClient.Proofs.Toml.Meaning

/-!
Going down a path through the tables collected so far. What one more part does at the end of its
path is one step of the meaning; so is what it does on the way, from the last key outwards.
-/

namespace RemoteClient.Toml

variable {key : String} {rest path : List String} {c : Content} {p : Part} {parts : List Part}
variable {root entries : Entries} {slot : Option Value} {v : Value} {kind : TableKind}

/-- The table a path goes on in, and what then stands in its place once its entries have changed. -/
structure Way where
  kind : TableKind
  entries : Entries
  back : Entries → Value

def enter? (dotted : Bool) : Option Value → Option Way
  | none =>
    let kind := if dotted then .dotted else .implied
    some ⟨kind, [], .table kind⟩
  | some (.table kind entries) =>
    if canEnter dotted kind then some ⟨kind, entries, .table kind⟩ else none
  | some (.array items true) =>
    match items.getLast? with
    | some (.table kind entries) =>
      some ⟨kind, entries, fun entries => .array (items.dropLast ++ [.table kind entries]) true⟩
    | _ => none
  | some _ => none

section

variable {α β : Type} {dotted : Bool}

theorem descend_cons {act : TableKind → Entries → Option (α × Entries)} :
    descend dotted act (key :: rest) kind entries =
      (enter? dotted (entries.lookup key)).bind fun way =>
      (descend dotted act rest way.kind way.entries).map fun done =>
        (done.1, entries.put key (way.back done.2)) := by
  rw [descend]
  cases entries.lookup key with
  | none =>
      simp only [enter?, Option.bind_eq_bind, Option.bind_some, Option.pure_def]
      cases descend dotted act rest _ [] <;> rfl
  | some v =>
      cases v with
      | table kind inner =>
          simp only [enter?]
          split_ifs
          · simp only [Option.bind_eq_bind, Option.bind_some, Option.pure_def]
            cases descend dotted act rest kind inner <;> rfl
          · rfl
      | array items tables =>
          cases tables with
          | false => rfl
          | true =>
              cases last : items.getLast? with
              | none => simp [enter?, last]
              | some v =>
                  cases v with
                  | table kind inner =>
                      simp only [enter?, last, Option.bind_eq_bind, Option.bind_some,
                        Option.pure_def]
                      cases descend dotted act rest kind inner <;> rfl
                  | _ => simp [enter?, last]
      | _ => rfl

end

/-- A part that leads into what stands at a key is added to the parts inside. -/
theorem Shape.enter {way : Way} (shape : Shape parts slot)
    (entered : enter? p.content.isLine slot = some way) (nested : p.path ≠ [])
    (ends : p.EndsIn way.kind) :
    ∃ inside, Table inside way.entries ∧
      ∀ {after}, Table (inside ++ [p]) after → Shape (parts ++ [p]) (some (way.back after)) := by
  cases shape with
  | absent =>
      cases entered
      refine ⟨[], table_nil.mpr rfl, fun table => ?_⟩
      exact .table (.led (.parts (by simpa using Part.joins_leads nested))) table
  | @value v written => cases v <;> simp_all [enter?, Value.isWritten, canEnter]
  | @table kind _ inside entries opened table =>
      simp only [enter?] at entered
      split_ifs at entered with may
      cases entered
      exact ⟨inside, table,
        fun after => .table (opened.join (joins_iff.mpr ⟨nested, may, ends⟩)) after⟩
  | array elements filled =>
      cases elements with
      | none => exact absurd rfl filled
      | @next earlier later lines items entries elements pass table =>
          simp only [enter?, List.getLast?_concat, List.dropLast_concat] at entered
          cases entered
          refine ⟨_, table, fun after => .array ?_ concat_ne_nil⟩
          rw [List.append_assoc] at after ⊢
          exact .next elements (forall_concat pass ⟨nested, ends⟩) after

/-- The last part to lead into what stands at a key was added to the parts inside. -/
theorem Shape.leave (shape : Shape (parts ++ [p]) (some v)) (nested : p.path ≠ []) :
    ∃ inside kind after, Table (inside ++ [p]) after ∧ p.EndsIn kind ∧
      ∀ {entries}, Table inside entries → ∃ slot back, Shape parts slot ∧
        enter? p.content.isLine slot = some ⟨kind, entries, back⟩ ∧ back after = v := by
  generalize whole : parts ++ [p] = all at shape
  cases shape with
  | value =>
      rcases concat_split (whole.trans (List.nil_append _).symm) with ⟨-, rfl, -⟩ | ⟨more, -, none⟩
      · exact absurd rfl nested
      · exact absurd none.symm concat_ne_nil
  | @table kind _ inside entries opened table =>
      subst whole
      obtain ⟨joins, before, rfl, fresh⟩ := opened.last nested
      obtain ⟨-, may, ends⟩ := joins_iff.mp joins
      refine ⟨before, kind, entries, table, ends, fun {earlier} inside => ?_⟩
      rcases fresh with ⟨rfl, rfl, rfl⟩ | opened
      · rw [table_nil.mp inside]
        exact ⟨none, _, .absent, rfl, rfl⟩
      · exact ⟨_, .table kind, .table opened inside, by simp [enter?, may], rfl⟩
  | array elements filled =>
      cases elements with
      | none => exact absurd whole concat_ne_nil
      | @next earlier later lines items entries elements pass table =>
          rcases concat_split whole with ⟨-, rfl, -⟩ | ⟨more, rfl, rfl⟩
          · exact absurd rfl nested
          · refine ⟨ofLines lines ++ more, .header, entries, by simpa using table,
              (pass p (by simp)).2, ?_⟩
            intro before inside
            let back (entries : Entries) : Value := .array (items ++ [.table .header entries]) true
            have earlier :=
              Elements.next elements (fun q member => pass q (by simp [member])) inside
            refine ⟨some (back before), back, .array earlier concat_ne_nil, ?_, rfl⟩
            simp only [back, enter?, List.getLast?_concat, List.dropLast_concat]

theorem shape_through (nested : p.path ≠ []) (go : TableKind → Entries → Option Entries)
    (goes : ∀ kind inside after, p.EndsIn kind →
      (Table (inside ++ [p]) after ↔ ∃ before, Table inside before ∧ go kind before = some after))
    (barred : ∀ kind before, ¬ p.EndsIn kind → go kind before = none) :
    Shape (parts ++ [p]) (some v) ↔ ∃ slot, Shape parts slot ∧
      ((enter? p.content.isLine slot).bind fun way => (go way.kind way.entries).map way.back) =
        some v := by
  constructor
  · intro shape
    obtain ⟨inside, kind, after, table, ends, leads⟩ := shape.leave nested
    obtain ⟨before, table, gone⟩ := (goes kind inside after ends).mp table
    obtain ⟨slot, back, standing, entered, rfl⟩ := leads table
    exact ⟨slot, standing, by simp [entered, gone]⟩
  · rintro ⟨slot, shape, stepped⟩
    obtain ⟨way, entered, changed⟩ := Option.bind_eq_some_iff.mp stepped
    obtain ⟨after, gone, rfl⟩ := Option.map_eq_some_iff.mp changed
    have ends : p.EndsIn way.kind := by
      by_contra other
      rw [barred _ _ other] at gone
      cases gone
    obtain ⟨inside, table, leads⟩ := shape.enter entered nested ends
    exact leads ((goes _ inside after ends).mpr ⟨_, table, gone⟩)

theorem table_descend {last : String} (act : TableKind → Entries → Option (Unit × Entries))
    (acts : ∀ kind parts root, Part.EndsIn ⟨[last], c⟩ kind →
      (Table (parts ++ [⟨[last], c⟩]) root ↔
        ∃ before, Table parts before ∧ (act kind before).map (·.2) = some root))
    (barred : ∀ kind before, ¬ Part.EndsIn ⟨[last], c⟩ kind → act kind before = none)
    (ends : Part.EndsIn ⟨path ++ [last], c⟩ kind) :
    Table (parts ++ [⟨path ++ [last], c⟩]) root ↔
      ∃ before, Table parts before ∧
        (descend c.isLine act path kind before).map (·.2) = some root := by
  -- A line is held up only where it ends, so that the kind is carried along and the induction goes
  -- down the path.
  induction path generalizing kind parts root with
  | nil => exact acts kind parts root ends
  | cons key path ih =>
      have nested : path ++ [last] ≠ [] := by simp
      have stops : ∀ kind before, ¬ Part.EndsIn ⟨path ++ [last], c⟩ kind →
          (descend c.isLine act path kind before).map (·.2) = none := by
        intro kind before other
        cases path with
        | nil => simp [descend, barred kind before other]
        | cons next path => simp [Part.EndsIn] at other
      rw [List.cons_append,
        table_concat _ fun _ _ => shape_through nested _ (fun _ _ _ ends => ih ends) stops]
      refine exists_congr fun before => and_congr_right fun _ => ?_
      rw [descend_cons, Option.map_bind, Option.map_bind]
      simp [Function.comp_def]

end RemoteClient.Toml
