import RemoteClient.Plan.Planner
import RemoteClient.Proofs.Naming.Nesting
import Mathlib.Data.List.Forall2
import Mathlib.Data.Prod.Basic

namespace RemoteClient.Plan

open Naming (Table)

theorem mapM_ok_iff {α β ε : Type} (f : α → Except ε β) (items : List α) (results : List β) :
    items.mapM f = .ok results ↔
      List.Forall₂ (fun item result => f item = .ok result) items results := by
  induction items generalizing results with
  | nil =>
      rw [List.forall₂_nil_left_iff]
      exact ⟨fun made => (Except.ok.inj made).symm, fun empty => empty ▸ rfl⟩
  | cons item rest ih =>
      rw [List.mapM_cons, List.forall₂_cons_left_iff]
      cases first : f item with
      | error reason =>
          constructor
          · intro made
            cases made
          · rintro ⟨_, _, made, _⟩
            cases made
      | ok result =>
          constructor
          · intro made
            cases others : rest.mapM f with
            | error reason =>
                rw [others] at made
                cases made
            | ok tail =>
                rw [others] at made
                cases made
                exact ⟨result, tail, rfl, (ih tail).mp others, rfl⟩
          · rintro ⟨_, tail, made, others, rfl⟩
            cases made
            rw [(ih tail).mpr others]
            rfl

theorem membersFor_client (t : Table) :
    membersFor .client t = (some (allocateMembers t).1, (allocateMembers t).2) := by
  simp only [membersFor]
  exact Prod.map_apply' ..

theorem localsFor_client (t : Table) (op : Service.Operation) :
    localsFor .client t op = (some (allocateLocals t op).1, (allocateLocals t op).2) := by
  simp only [localsFor]
  exact Prod.map_apply' ..

/-- The scope of an operation is left again, and takes its names with it. -/
theorem allocateLocals_table (t : Table) (op : Service.Operation) :
    (allocateLocals t op).2 = t := by
  have nested : Naming.Nested [.allocate "proxy", .allocate "cancellationToken", .allocate "s"] :=
    .plain rfl (.plain rfl (.plain rfl .nil))
  exact Table.nested_leave nested t op.parameterNames

theorem localsFor_table (kind : Kind) (t : Table) (op : Service.Operation) :
    (localsFor kind t op).2 = t := by
  cases kind with
  | client =>
      rw [localsFor_client]
      exact allocateLocals_table t op
  | proxy => rfl

section Alone

variable (options : GenerationOptions) (kind : Kind) (s : Service) (t : Table)

def operationFor (op : Service.Operation) : Operation where
  name := op.name
  parameters := op.parameters
  returnType := if op.isVoid then none else op.returnType
  methods := methodsFor options kind op
  locals := (localsFor kind t op).1

def planAlone (op : Service.Operation) : Except Error Operation :=
  match formsFor options kind op with
  | [] => .error (.noForms s.interfaceName op.name)
  | _ => .ok (operationFor options kind t op)

theorem planOperation_alone (op : Service.Operation) :
    planOperation options kind s t op = (planAlone options kind s t op).map (·, t) := by
  unfold planOperation planAlone operationFor methodsFor
  cases formsFor options kind op with
  | nil => rfl
  | cons form rest =>
      rw [Except.map, ← localsFor_table kind t op]
      simp only [List.map_cons, localsFor_table]

theorem planOperations_alone (operations : List Service.Operation) :
    planOperations options kind s t operations =
      (operations.mapM (planAlone options kind s t)).map (·, t) := by
  induction operations with
  | nil => rfl
  | cons op rest ih =>
      rw [planOperations, planOperation_alone, List.mapM_cons]
      cases planAlone options kind s t op with
      | error reason => rfl
      | ok planned =>
          change (planOperations options kind s t rest >>= fun others =>
            pure (planned :: others.1, others.2)) = _
          rw [ih]
          cases rest.mapM (planAlone options kind s t) <;> rfl

end Alone

def membersOf (options : GenerationOptions) (override : Option String) (s : Service) :
    Option MemberNames × Table :=
  membersFor (kindFor options)
    (.ofReserved (takenNames s (typeNameFor (kindFor options) override s)))

/-- The operation is planned as the plan of its service demands. -/
def Plans (options : GenerationOptions) (override : Option String) (s : Service)
    (op : Service.Operation) (planned : Operation) : Prop :=
  planAlone options (kindFor options) s (membersOf options override s).2 op = .ok planned

def assemble (options : GenerationOptions) (override : Option String) (s : Service)
    (operations : List Operation) : Plan where
  interfaceName := s.interfaceName
  qualifiedName := s.qualifiedName
  kind := kindFor options
  typeName := typeNameFor (kindFor options) override s
  visibility := options.visibility
  warningComments := !options.suppressWarnings
  members := (membersOf options override s).1
  operations := operations

theorem planNamed_blank {options : GenerationOptions} {override : Option String} {s : Service}
    (blank : Text.trimChars s.interfaceName.toList = []) :
    planNamed options override s = .error .emptyInterfaceName := by
  rw [planNamed, if_pos blank]
  rfl

theorem planNamed_duplicate {options : GenerationOptions} {override : Option String} {s : Service}
    {op : Service.Operation} (named : Text.trimChars s.interfaceName.toList ≠ [])
    (repeated : firstDuplicate? [] s.operations = some op) :
    planNamed options override s = .error (.duplicateOperation s.interfaceName op.name) := by
  rw [planNamed, if_neg named, repeated]
  rfl

theorem planNamed_distinct {options : GenerationOptions} {override : Option String} {s : Service}
    (named : Text.trimChars s.interfaceName.toList ≠ [])
    (distinct : firstDuplicate? [] s.operations = none) :
    planNamed options override s =
      (s.operations.mapM (planAlone options (kindFor options) s
        (membersOf options override s).2)).map (assemble options override s) := by
  rw [planNamed, if_neg named, distinct]
  change (planOperations options (kindFor options) s (membersOf options override s).2
    s.operations >>= fun planned => pure (assemble options override s planned.1)) = _
  rw [planOperations_alone]
  cases s.operations.mapM (planAlone options (kindFor options) s (membersOf options override s).2)
    <;> rfl

theorem planNamed_ok_iff (options : GenerationOptions) (override : Option String) (s : Service)
    (p : Plan) :
    planNamed options override s = .ok p ↔
      Text.trimChars s.interfaceName.toList ≠ [] ∧ firstDuplicate? [] s.operations = none ∧
        ∃ operations, List.Forall₂ (Plans options override s) s.operations operations ∧
          p = assemble options override s operations := by
  by_cases blank : Text.trimChars s.interfaceName.toList = []
  · simp [planNamed_blank blank, blank]
  · cases repeated : firstDuplicate? [] s.operations with
    | some op => simp [planNamed_duplicate blank repeated]
    | none =>
        rw [planNamed_distinct blank repeated]
        constructor
        · intro made
          cases planned : s.operations.mapM
              (planAlone options (kindFor options) s (membersOf options override s).2) with
          | error reason =>
              rw [planned] at made
              cases made
          | ok operations =>
              rw [planned] at made
              cases made
              exact ⟨blank, rfl, operations, (mapM_ok_iff _ _ _).mp planned, rfl⟩
        · rintro ⟨_, _, operations, planned, rfl⟩
          rw [(mapM_ok_iff _ _ _).mpr planned]
          rfl

end RemoteClient.Plan
