import RemoteClient.Proofs.Naming.Interchange
import RemoteClient.Proofs.Plan.Names
import RemoteClient.Proofs.Plan.Plannable

/-!
The plan of an operation depends on the operation, the options, and what the service's type and
methods are called; not on the other operations otherwise, nor on their order.
-/

namespace RemoteClient.Plan

open Naming (Table fold methodName)

def methodKeys (s : Service) : List String :=
  s.operationNames.flatMap fun name => [fold (methodName name false), fold (methodName name true)]

theorem takenNames_keys (s : Service) (typeName : String) :
    (takenNames s typeName).map fold = fold typeName :: methodKeys s := by
  rw [takenNames, List.map_cons, List.map_flatMap, methodKeys, Service.operationNames,
    List.flatMap_map]
  rfl

theorem allocateMembers_interchange {t t' : Table} (same : t.Interchangeable t') :
    (allocateMembers t).1 = (allocateMembers t').1 ∧
      (allocateMembers t).2.Interchangeable (allocateMembers t').2 := by
  obtain ⟨names, tables⟩ := same.allocateAll memberRequests
  rw [allocateMembers_table, allocateMembers_table]
  refine ⟨?_, tables⟩
  simp only [memberRequests, Table.allocateAll, List.cons.injEq] at names
  simp only [allocateMembers, names]

theorem allocateLocals_interchange {t t' : Table} (same : t.Interchangeable t')
    (op : Service.Operation) :
    (allocateLocals t op).1 = (allocateLocals t' op).1 := by
  obtain ⟨names, _⟩ := (same.enter op.parameterNames).allocateAll localRequests
  simp only [localRequests, Table.allocateAll, List.cons.injEq] at names
  simp only [allocateLocals, names]

section Members

variable {options : GenerationOptions} {override : Option String} {s s' : Service}

theorem taken_interchange {typeName typeName' : String} (types : fold typeName = fold typeName')
    (methods : ∀ key, key ∈ methodKeys s ↔ key ∈ methodKeys s') :
    (Table.ofReserved (takenNames s typeName)).Interchangeable
      (.ofReserved (takenNames s' typeName')) := by
  apply Table.ofReserved_interchangeable
  intro key
  rw [takenNames_keys, takenNames_keys, List.mem_cons, List.mem_cons, types, methods]

/-- Services with one type name and one set of method names have the same members, and leave the
same choice of names to each operation. -/
theorem members_local
    (types : fold (typeNameFor (kindFor options) override s) =
      fold (typeNameFor (kindFor options) override s'))
    (methods : ∀ key, key ∈ methodKeys s ↔ key ∈ methodKeys s') :
    (membersOf options override s).1 = (membersOf options override s').1 ∧
      operationFor options (kindFor options) (localsTable options override s) =
        operationFor options (kindFor options) (localsTable options override s') := by
  unfold localsTable membersOf
  revert types
  cases kindFor options with
  | proxy => exact fun _ => ⟨rfl, rfl⟩
  | client =>
      intro types
      obtain ⟨members, tables⟩ := allocateMembers_interchange (taken_interchange types methods)
      rw [membersFor_client, membersFor_client]
      refine ⟨congrArg some members, funext fun op => ?_⟩
      have locals := allocateLocals_interchange tables op
      simp only [operationFor, localsFor_client, locals]

/-- If only the operations of a service change, and they keep their names up to order and letter
case, only the plans of its operations change, each with its operation. -/
theorem planFor_operations (operations : List Service.Operation)
    (methods : ∀ key, key ∈ methodKeys s ↔ key ∈ methodKeys { s with operations }) :
    planFor options override { s with operations } =
      { planFor options override s with
        operations := operations.map
          (operationFor options (kindFor options) (localsTable options override s)) } := by
  obtain ⟨members, plans⟩ := @members_local options override s { s with operations } rfl methods
  rw [planFor, ← plans, assemble, ← members]
  rfl

end Members

theorem methodKeys_perm {s : Service} {operations : List Service.Operation}
    (perm : operations.Perm s.operations) (key : String) :
    key ∈ methodKeys s ↔ key ∈ methodKeys { s with operations } :=
  (((perm.map (·.name)).flatMap_right _).mem_iff).symm

theorem names_set {operations : List Service.Operation} {i : Nat} {op changed : Service.Operation}
    (known : operations[i]? = some op) (name : changed.name = op.name) :
    (operations.set i changed).map (·.name) = operations.map (·.name) := by
  obtain ⟨bound, rfl⟩ := List.getElem?_eq_some_iff.mp known
  have inside : i < (operations.map (·.name)).length := by
    rw [List.length_map]
    exact bound
  calc (operations.set i changed).map (·.name)
    _ = (operations.map (·.name)).set i (operations.map (·.name))[i] := by
      rw [List.map_set, name, List.getElem_map]
    _ = operations.map (·.name) := List.set_getElem_self inside

theorem methodKeys_named {s : Service} {operations : List Service.Operation}
    (names : operations.map (·.name) = s.operationNames) (key : String) :
    key ∈ methodKeys s ↔ key ∈ methodKeys { s with operations } := by
  change _ ↔ key ∈ List.flatMap _ (operations.map (·.name))
  rw [names]
  rfl

section Changes

variable {options : GenerationOptions} {s : Service}

theorem Plannable.perm (plannable : Plannable options s) {operations : List Service.Operation}
    (perm : operations.Perm s.operations) : Plannable options { s with operations } where
  named := plannable.named
  distinct := (perm.map _).nodup_iff.mpr plannable.distinct
  emitted := fun op member => plannable.emitted op (perm.mem_iff.mp member)

theorem Plannable.set (plannable : Plannable options s) {i : Nat} {op changed : Service.Operation}
    (known : s.operations[i]? = some op) (forms : formsFor options (kindFor options) changed =
      formsFor options (kindFor options) op)
    (distinct : ((s.operations.set i changed).map (·.signature)).Nodup) :
    Plannable options { s with operations := s.operations.set i changed } where
  named := plannable.named
  distinct := distinct
  emitted := by
    intro other member
    rcases List.mem_or_eq_of_mem_set member with member | rfl
    · exact plannable.emitted other member
    · rw [forms]
      exact plannable.emitted op (List.mem_of_getElem? known)

end Changes

/-- A plan is local and does not depend on the order of the operations. A service whose type and
methods are called alike has the same members, and an operation that it shares has the same plan.
Rearranged operations are planned again, and their plans are rearranged with them. With other
parameters or another return type, an operation changes its own plan only. -/
theorem plans_local_and_unordered {options : GenerationOptions} {s : Service} {p : Plan}
    (planned : planService options s = .ok p) :
    (∀ (s' : Service) (p' : Plan), planService options s' = .ok p' →
      fold p.typeName = fold p'.typeName →
        (∀ key, key ∈ methodKeys s ↔ key ∈ methodKeys s') →
        p.members = p'.members ∧ ∀ (i j : Nat) (op : Service.Operation),
          s.operations[i]? = some op → s'.operations[j]? = some op →
          ∃ plan, p.operations[i]? = some plan ∧ p'.operations[j]? = some plan) ∧
      (∀ operations : List Service.Operation, operations.Perm s.operations →
        ∃ plans : List Operation,
        planService options { s with operations } = .ok { p with operations := plans } ∧
          plans.length = operations.length ∧
          (operations.zip plans).Perm (s.operations.zip p.operations)) ∧
      ∀ (i : Nat) (op : Service.Operation) (parameters : List Service.Parameter)
        (returnType : Option String),
        s.operations[i]? = some op →
        ((s.operations.set i { op with parameters, returnType }).map (·.signature)).Nodup → ∃ plan,
          planService options
            { s with operations := s.operations.set i { op with parameters, returnType } } =
            .ok { p with operations := p.operations.set i plan } := by
  obtain ⟨plannable, rfl⟩ := (planNamed_iff_plannable ..).mp planned
  refine ⟨fun s' p' planned' types methods => ?_, fun operations perm => ?_,
    fun i op parameters returnType known distinct => ?_⟩
  · obtain ⟨_, rfl⟩ := (planNamed_iff_plannable ..).mp planned'
    obtain ⟨members, plans⟩ := members_local types methods
    refine ⟨members, fun i j op known known' => ?_⟩
    refine ⟨operationFor options (kindFor options) (localsTable options options.clientName s) op,
      ?_, ?_⟩
    · rw [planFor, assemble, List.getElem?_map, known]
      rfl
    · rw [planFor, assemble, List.getElem?_map, known', ← plans]
      rfl
  · refine ⟨_, (planNamed_iff_plannable ..).mpr
      ⟨plannable.perm perm, (planFor_operations operations (methodKeys_perm perm)).symm⟩,
        List.length_map _, ?_⟩
    rw [planFor, assemble, ← List.map_prod_left_eq_zip, ← List.map_prod_left_eq_zip]
    exact perm.map _
  · have names : (s.operations.set i { op with parameters, returnType }).map (·.name) =
        s.operationNames :=
      names_set known rfl
    have planned' := @planFor_operations options options.clientName s _ (methodKeys_named names)
    rw [List.map_set] at planned'
    exact ⟨_, (planNamed_iff_plannable ..).mpr ⟨plannable.set known rfl distinct, planned'.symm⟩⟩

def close : Service.Operation := .named "Close" [] none

def fetchById : Service.Operation := .named "Fetch" [⟨"proxy", "int"⟩] none

def desk : Service := .named "IDesk" [fetchById, close]

def otherDesk : Service := .named "Desk" [close, .named "FETCH" [⟨"key", "string"⟩] (some "Item")]

theorem desk_planned : planService .standard desk = .ok (planFor .standard none desk) :=
  (planNamed_iff_plannable ..).mpr ⟨⟨by decide, by decide, by decide⟩, rfl⟩

theorem otherDesk_planned :
    planService .standard otherDesk = .ok (planFor .standard none otherDesk) :=
  (planNamed_iff_plannable ..).mpr ⟨⟨by decide, by decide, by decide⟩, rfl⟩

theorem desks_share_close :
    ((planFor .standard none desk).members = (planFor .standard none otherDesk).members ∧
      ∃ plan, (planFor .standard none desk).operations[1]? = some plan ∧
        (planFor .standard none otherDesk).operations[0]? = some plan) ∧
      ∃ plans, planService .standard { desk with operations := [close, fetchById] } =
        .ok { planFor .standard none desk with operations := plans } := by
  obtain ⟨alike, rearranged, _⟩ := plans_local_and_unordered desk_planned
  have keys : (methodKeys desk).Perm (methodKeys otherDesk) := by decide +kernel
  obtain ⟨members, shared⟩ :=
    alike otherDesk _ otherDesk_planned (by decide +kernel) fun _ => keys.mem_iff
  obtain ⟨plans, planned, _⟩ := rearranged [close, fetchById] (by decide)
  exact ⟨⟨members, shared 1 0 close rfl rfl⟩, plans, planned⟩

end RemoteClient.Plan
