import RemoteClient.Plan.File
import RemoteClient.Proofs.Plan.Plannable
import Mathlib.Algebra.GroupWithZero.Nat
import Mathlib.Data.List.TakeWhile

/-!
Which services are accepted, what the others are refused for, and what an accepted service gets for
each of its operations. Of several faults the one that is reported is a missing name, else the first
operation that repeats another one, else the first that is emitted in no form.
-/

namespace RemoteClient

namespace Text

theorem trimChars_nil_iff (text : List Char) : trimChars text = [] ↔ ∀ c ∈ text, isBlank c := by
  rw [trimChars, List.reverse_eq_nil_iff, List.dropWhile_eq_nil_iff]
  constructor
  · intro trimmed c member
    rw [← List.takeWhile_append_dropWhile (p := isBlank) (l := text), List.mem_append] at member
    rcases member with before | after
    · exact List.mem_takeWhile_imp before
    · exact trimmed c (List.mem_reverse.mpr after)
  · intro blank c member
    exact blank c ((List.dropWhile_sublist _).subset (List.mem_reverse.mp member))

end Text

namespace Plan

open Naming (Table)

/-- At place `i` stands the first item that has the property, which may look at the items before
it. -/
structure FirstAt {α : Type} (P : List α → α → Prop) (items : List α) (i : Nat) (x : α) : Prop where
  stands : items[i]? = some x
  holds : P (items.take i) x
  before : ∀ j < i, ∀ y, items[j]? = some y → ¬ P (items.take j) y

section FirstAt

variable {α : Type} {P : List α → α → Prop} {x y : α} {rest : List α}

theorem firstAt_head : FirstAt P (x :: rest) 0 y ↔ x = y ∧ P [] x := by
  constructor
  · rintro ⟨stands, holds, _⟩
    cases stands
    exact ⟨rfl, holds⟩
  · rintro ⟨rfl, holds⟩
    exact ⟨rfl, holds, fun j early => absurd early (Nat.not_lt_zero j)⟩

theorem firstAt_tail {i : Nat} :
    FirstAt P (x :: rest) (i + 1) y ↔
      ¬ P [] x ∧ FirstAt (fun earlier => P (x :: earlier)) rest i y := by
  constructor
  · rintro ⟨stands, holds, before⟩
    exact ⟨before 0 (Nat.succ_pos i) x rfl, stands, holds,
      fun j early z found => before (j + 1) (Nat.succ_lt_succ early) z found⟩
  · rintro ⟨skipped, stands, holds, before⟩
    refine ⟨stands, holds, fun j early z found => ?_⟩
    cases j with
    | zero =>
        cases found
        exact skipped
    | succ j => exact before j (Nat.lt_of_succ_lt_succ early) z found

theorem exists_firstAt_cons : (∃ i, FirstAt P (x :: rest) i y) ↔
    (x = y ∧ P [] x) ∨ (¬ P [] x ∧ ∃ i, FirstAt (fun earlier => P (x :: earlier)) rest i y) := by
  constructor
  · rintro ⟨i, first⟩
    cases i with
    | zero => exact .inl (firstAt_head.mp first)
    | succ i => exact .inr ⟨(firstAt_tail.mp first).1, i, (firstAt_tail.mp first).2⟩
  · rintro (here | ⟨skipped, i, later⟩)
    · exact ⟨0, firstAt_head.mpr here⟩
    · exact ⟨i + 1, firstAt_tail.mpr ⟨skipped, later⟩⟩

theorem firstAt_nil {i : Nat} : ¬ FirstAt P [] i y := fun first => by cases first.stands

end FirstAt

def Repeats (earlier : List Service.Operation) (op : Service.Operation) : Prop :=
  ∃ other ∈ earlier, other.name = op.name ∧ other.parameterTypes = op.parameterTypes

def emits (options : GenerationOptions) (op : Service.Operation) : Form → Bool
  | .blocking => op.emitSync
  | .awaited => op.emitAsync && !options.suppressAsync
  | .cancellable =>
    op.emitAsync && !options.suppressAsync && options.wrapper && options.includeCancellable

def Silent (options : GenerationOptions) (_ : List Service.Operation) (op : Service.Operation) :
    Prop :=
  emits options op .blocking = false ∧ emits options op .awaited = false

def Method.route? (m : Method) : Option String := if m.routed then some m.form.route else none

theorem formsFor_emits (options : GenerationOptions) (op : Service.Operation) :
    formsFor options (kindFor options) op = Form.all.filter (emits options op) := by
  obtain ⟨_, _, suppressAsync, _, wrapper, includeCancellable, _⟩ := options
  obtain ⟨_, _, _, _, emitSync, emitAsync⟩ := op
  cases emitSync <;> cases emitAsync <;> cases suppressAsync <;> cases wrapper <;>
    cases includeCancellable <;> rfl

theorem formsFor_nil_iff (options : GenerationOptions) (earlier : List Service.Operation)
    (op : Service.Operation) :
    formsFor options (kindFor options) op = [] ↔ Silent options earlier op := by
  rw [formsFor_emits, List.filter_eq_nil_iff]
  constructor
  · intro none
    exact ⟨by simpa using none .blocking (by decide), by simpa using none .awaited (by decide)⟩
  · rintro ⟨blocking, awaited⟩ form _
    cases form with
    | blocking => simp [blocking]
    | awaited => simp [awaited]
    | cancellable =>
        rw [emits] at awaited
        simp [emits, awaited]

theorem repeats_iff (earlier : List Service.Operation) (op : Service.Operation) :
    Repeats earlier op ↔ op.signature ∈ earlier.map (·.signature) := by
  simp [Repeats, Service.Operation.signature]

theorem firstDuplicate_some_iff (seen : List (String × List String))
    (operations : List Service.Operation) (op : Service.Operation) :
    firstDuplicate? seen operations = some op ↔
      ∃ i, FirstAt (fun earlier op => op.signature ∈ earlier.map (·.signature) ++ seen)
        operations i op := by
  induction operations generalizing seen with
  | nil => exact iff_of_false (by simp [firstDuplicate?]) fun ⟨_, first⟩ => firstAt_nil first
  | cons first rest ih =>
      have passed : (fun (earlier : List Service.Operation) (op : Service.Operation) =>
            op.signature ∈ (first :: earlier).map (·.signature) ++ seen) =
          fun earlier op =>
            op.signature ∈ earlier.map (·.signature) ++ first.signature :: seen := by
        funext earlier op
        rw [List.map_cons, List.cons_append, (List.perm_middle.symm).mem_iff]
      rw [exists_firstAt_cons, passed, firstDuplicate?, ← ih]
      by_cases again : first.signature ∈ seen <;> simp [again]

theorem mapM_error_iff {α β ε : Type} (f : α → Except ε β) (items : List α) (reason : ε) :
    items.mapM f = .error reason ↔
      ∃ i x, FirstAt (fun _ x => ∃ e, f x = .error e) items i x ∧ f x = .error reason := by
  induction items with
  | nil =>
      exact iff_of_false (fun failed => by cases failed) fun ⟨_, _, first, _⟩ => firstAt_nil first
  | cons item rest ih =>
      rw [List.mapM_cons]
      cases met : f item with
      | error e =>
          constructor
          · intro failed
            cases failed
            exact ⟨0, item, firstAt_head.mpr ⟨rfl, reason, met⟩, met⟩
          · rintro ⟨i, x, first, fails⟩
            cases i with
            | zero =>
                obtain ⟨rfl, _⟩ := firstAt_head.mp first
                cases met.symm.trans fails
                rfl
            | succ i => exact absurd ⟨e, met⟩ (firstAt_tail.mp first).1
      | ok result =>
          have fine : ¬ ∃ e, f item = .error e := by simp [met]
          constructor
          · intro failed
            cases others : rest.mapM f with
            | ok results =>
                rw [others] at failed
                cases failed
            | error e =>
                rw [others] at failed
                cases failed
                obtain ⟨i, x, first, fails⟩ := ih.mp others
                exact ⟨i + 1, x, firstAt_tail.mpr ⟨fine, first⟩, fails⟩
          · rintro ⟨i, x, first, fails⟩
            cases i with
            | zero => exact absurd (firstAt_head.mp first).2 fine
            | succ i =>
                rw [ih.mpr ⟨i, x, (firstAt_tail.mp first).2, fails⟩]
                rfl

theorem except_map_error_iff {α β ε : Type} (f : α → β) (result : Except ε α) (reason : ε) :
    result.map f = .error reason ↔ result = .error reason := by
  cases result <;> simp [Except.map]

/-- Why a service is refused. -/
inductive Refused (options : GenerationOptions) (s : Service) : Error → Prop
  | unnamed (blank : ∀ c ∈ s.interfaceName.toList, Text.isBlank c) :
      Refused options s .emptyInterfaceName
  | repeated {i : Nat} {op : Service.Operation}
      (named : ¬ ∀ c ∈ s.interfaceName.toList, Text.isBlank c)
      (first : FirstAt Repeats s.operations i op) :
      Refused options s (.duplicateOperation s.interfaceName op.name)
  | silent {i : Nat} {op : Service.Operation}
      (named : ¬ ∀ c ∈ s.interfaceName.toList, Text.isBlank c)
      (distinct : ∀ j other, ¬ FirstAt Repeats s.operations j other)
      (first : FirstAt (Silent options) s.operations i op) :
      Refused options s (.noForms s.interfaceName op.name)

/-- What the plan of a service has for one of its operations. -/
structure Offers (options : GenerationOptions) (op : Service.Operation) (planned : Operation) :
    Prop where
  name : planned.name = op.name
  parameters : planned.parameters = op.parameters
  void : planned.returnType = none ↔
    op.returnType = none ∨ op.returnType = some "" ∨ op.returnType = some "void"
  returns : ∀ type, planned.returnType = some type → op.returnType = some type
  forms : planned.methods.map (·.form) = Form.all.filter (emits options op)
  routes : ∀ m ∈ planned.methods, m.route? = if options.wrapper then some m.form.route else none

theorem duplicate_iff (operations : List Service.Operation) (op : Service.Operation) :
    firstDuplicate? [] operations = some op ↔ ∃ i, FirstAt Repeats operations i op := by
  have same : Repeats = fun earlier op => op.signature ∈ earlier.map (·.signature) ++ [] := by
    funext earlier op
    rw [List.append_nil, repeats_iff]
  rw [firstDuplicate_some_iff, same]

theorem planAlone_error_iff (options : GenerationOptions) (s : Service) (t : Table)
    (op : Service.Operation) (reason : Error) :
    planAlone options (kindFor options) s t op = .error reason ↔
      Silent options [] op ∧ reason = .noForms s.interfaceName op.name := by
  rw [← formsFor_nil_iff, planAlone]
  cases formsFor options (kindFor options) op with
  | nil => simp [eq_comm (a := reason)]
  | cons first rest => simp

/-- Where no operation repeats another one, the first that cannot be planned decides. -/
theorem planNamed_silent_iff {options : GenerationOptions} {override : Option String}
    {s : Service} (named : Text.trimChars s.interfaceName.toList ≠ [])
    (distinct : firstDuplicate? [] s.operations = none) (reason : Error) :
    planNamed options override s = .error reason ↔
      ∃ i op, FirstAt (Silent options) s.operations i op ∧
        reason = .noForms s.interfaceName op.name := by
  have fails : (fun (_ : List Service.Operation) op => ∃ e, planAlone options (kindFor options) s
        (membersOf options override s).2 op = .error e) = Silent options := by
    funext earlier op
    simp only [planAlone_error_iff, exists_and_left, exists_eq, and_true]
    rfl
  rw [planNamed_distinct named distinct, except_map_error_iff, mapM_error_iff, fails]
  constructor
  · rintro ⟨i, op, first, failed⟩
    exact ⟨i, op, first, ((planAlone_error_iff ..).mp failed).2⟩
  · rintro ⟨i, op, first, rfl⟩
    exact ⟨i, op, first, (planAlone_error_iff ..).mpr ⟨first.holds, rfl⟩⟩

theorem planService_error_iff (options : GenerationOptions) (s : Service) (reason : Error) :
    planService options s = .error reason ↔ Refused options s reason := by
  have blank := Text.trimChars_nil_iff s.interfaceName.toList
  rw [planService]
  by_cases unnamed : Text.trimChars s.interfaceName.toList = []
  · rw [planNamed_blank unnamed]
    constructor
    · intro failed
      cases failed
      exact .unnamed (blank.mp unnamed)
    · intro refused
      cases refused with
      | unnamed => rfl
      | repeated named | silent named => exact absurd (blank.mp unnamed) named
  have named := mt blank.mpr unnamed
  cases again : firstDuplicate? [] s.operations with
  | some op =>
      obtain ⟨i, first⟩ := (duplicate_iff ..).mp again
      rw [planNamed_duplicate unnamed again]
      constructor
      · intro failed
        cases failed
        exact .repeated named first
      · intro refused
        cases refused with
        | unnamed blank => exact absurd blank named
        | repeated _ found =>
            cases again.symm.trans ((duplicate_iff ..).mpr ⟨_, found⟩)
            rfl
        | silent _ distinct => exact absurd first (distinct i op)
  | none =>
      have distinct (j : Nat) (other : Service.Operation) :
          ¬ FirstAt Repeats s.operations j other := by
        intro found
        cases again.symm.trans ((duplicate_iff ..).mpr ⟨j, found⟩)
      rw [planNamed_silent_iff unnamed again]
      constructor
      · rintro ⟨i, op, first, rfl⟩
        exact .silent named distinct first
      · intro refused
        cases refused with
        | unnamed blank => exact absurd blank named
        | repeated _ found => exact absurd found (distinct _ _)
        | silent _ _ first => exact ⟨_, _, first, rfl⟩

theorem operationFor_offers (options : GenerationOptions) (t : Table) (op : Service.Operation) :
    Offers options op (operationFor options (kindFor options) t op) where
  name := rfl
  parameters := rfl
  void := by
    cases returns : op.returnType with
    | none => simp [operationFor, Service.Operation.isVoid, returns]
    | some type =>
        by_cases void : type = "" ∨ type = "void" <;>
          simp [operationFor, Service.Operation.isVoid, returns, void]
  returns type returned := by
    simp only [operationFor] at returned
    split at returned
    · cases returned
    · exact returned
  forms := by
    simp only [operationFor, methodsFor, List.map_map, ← formsFor_emits]
    exact List.map_id _
  routes m member := by
    obtain ⟨form, _, rfl⟩ := List.mem_map.mp member
    unfold Method.route? kindFor
    cases options.wrapper <;> rfl

theorem planFor_methodCount (options : GenerationOptions) (override : Option String) (s : Service) :
    (planFor options override s).methodCount =
      (s.operations.map fun op => Form.all.countP (emits options op)).sum := by
  have each (op : Service.Operation) : (methodsFor options (kindFor options) op).length =
      Form.all.countP (emits options op) := by
    rw [methodsFor, List.length_map, formsFor_emits, List.countP_eq_length_filter]
  simp only [methodCount, planFor, assemble, List.map_map, ← List.sum_eq_foldr]
  exact congrArg List.sum (List.map_congr_left fun op _ => each op)

/-- A service is refused for one of three reasons or has a plan, and the plan has all of its
operations, in their order, each in the forms that are emitted for it. -/
theorem service_refused_or_offered (options : GenerationOptions) (s : Service) :
    (∀ reason, planService options s = .error reason ↔ Refused options s reason) ∧
      ((∃ p, planService options s = .ok p) ↔ ∀ reason, ¬ Refused options s reason) ∧
      ∀ p, planService options s = .ok p →
        (p.kind = .client ↔ options.wrapper) ∧
          List.Forall₂ (Offers options) s.operations p.operations ∧
          p.methodCount = (s.operations.map fun op => Form.all.countP (emits options op)).sum := by
  refine ⟨planService_error_iff options s, ?_, fun p planned => ?_⟩
  · simp only [← planService_error_iff]
    cases planService options s <;> simp
  · obtain ⟨_, rfl⟩ := (planNamed_iff_plannable ..).mp planned
    refine ⟨?_, ?_, planFor_methodCount ..⟩
    · change kindFor options = .client ↔ _
      unfold kindFor
      cases options.wrapper <;> simp
    · change List.Forall₂ _ _ (s.operations.map _)
      rw [List.forall₂_map_right_iff, List.forall₂_same]
      exact fun op _ => operationFor_offers options _ op

def depot : Service :=
  .named "IDepot" [.named "Open" [⟨"key", "Key"⟩] (some "void"),
    { Service.Operation.named "Count" [] (some "int") with emitAsync := false }]

/-- The second operation is emitted in no form, but the third one repeats the first. -/
def muddle : Service :=
  .named "IMuddle" [.named "Get" [⟨"id", "int"⟩] none,
    { Service.Operation.named "Put" [] none with emitSync := false, emitAsync := false },
    .named "Get" [⟨"key", "int"⟩] (some "Item")]

theorem depot_offered_muddle_refused :
    planService .standard depot = .ok (planFor .standard none depot) ∧
      List.Forall₂ (Offers .standard) depot.operations (planFor .standard none depot).operations ∧
      (planFor .standard none depot).methodCount = 4 ∧
      planService .standard muddle = .error (.duplicateOperation "IMuddle" "Get") ∧
      Refused .standard muddle (.duplicateOperation "IMuddle" "Get") := by
  have planned : planService .standard depot = .ok (planFor .standard none depot) :=
    (planNamed_iff_plannable ..).mpr ⟨⟨by decide, by decide, by decide⟩, rfl⟩
  have refused : planService .standard muddle = .error (.duplicateOperation "IMuddle" "Get") := rfl
  obtain ⟨_, offers, count⟩ := (service_refused_or_offered .standard depot).2.2 _ planned
  exact ⟨planned, offers, count, refused,
    ((service_refused_or_offered .standard muddle).1 _).mp refused⟩

end Plan

end RemoteClient
