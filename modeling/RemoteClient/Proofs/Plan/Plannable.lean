import RemoteClient.Proofs.Plan.Planned
import Mathlib.Data.List.Nodup

namespace RemoteClient.Plan

open Naming (Table)

theorem firstDuplicate_none_iff (seen : List (String × List String))
    (operations : List Service.Operation) :
    firstDuplicate? seen operations = none ↔
      (operations.map (·.signature)).Nodup ∧ ∀ op ∈ operations, op.signature ∉ seen := by
  induction operations generalizing seen with
  | nil => simp [firstDuplicate?]
  | cons op rest ih =>
      rw [firstDuplicate?, List.map_cons, List.nodup_cons, List.forall_mem_cons]
      by_cases repeated : op.signature ∈ seen
      · simp [repeated]
      · rw [if_neg (by simpa using repeated), ih]
        constructor
        · rintro ⟨distinct, later⟩
          refine ⟨⟨fun again => ?_, distinct⟩, repeated, fun other member before => ?_⟩
          · obtain ⟨other, member, same⟩ := List.mem_map.mp again
            exact later other member (same ▸ List.mem_cons_self)
          · exact later other member (List.mem_cons_of_mem _ before)
        · rintro ⟨⟨first, distinct⟩, _, later⟩
          refine ⟨distinct, fun other member before => ?_⟩
          rcases List.mem_cons.mp before with same | before
          · exact first (same ▸ List.mem_map_of_mem member)
          · exact later other member before

theorem planAlone_ok_iff (options : GenerationOptions) (kind : Kind) (s : Service) (t : Table)
    (op : Service.Operation) (planned : Operation) :
    planAlone options kind s t op = .ok planned ↔
      formsFor options kind op ≠ [] ∧ planned = operationFor options kind t op := by
  unfold planAlone
  cases formsFor options kind op with
  | nil => simp
  | cons first rest => simp [eq_comm (a := planned)]

def localsTable (options : GenerationOptions) (override : Option String) (s : Service) : Table :=
  (membersOf options override s).2

theorem all_plans_iff (options : GenerationOptions) (override : Option String) (s : Service)
    (operations : List Service.Operation) (planned : List Operation) :
    List.Forall₂ (Plans options override s) operations planned ↔
      (∀ op ∈ operations, formsFor options (kindFor options) op ≠ []) ∧
        planned = operations.map
          (operationFor options (kindFor options) (localsTable options override s)) := by
  have separate : Plans options override s = fun op planned =>
      formsFor options (kindFor options) op ≠ [] ∧
        operationFor options (kindFor options) (localsTable options override s) op = planned := by
    funext op planned
    rw [Plans, planAlone_ok_iff, eq_comm (a := planned)]
    rfl
  rw [separate, List.forall₂_and_left, ← List.forall₂_map_left_iff (R := Eq), List.forall₂_eq_eq_eq,
    eq_comm (a := planned)]

/-- What a service must be to have a plan. -/
structure Plannable (options : GenerationOptions) (s : Service) : Prop where
  named : Text.trimChars s.interfaceName.toList ≠ []
  distinct : (s.operations.map (·.signature)).Nodup
  emitted : ∀ op ∈ s.operations, formsFor options (kindFor options) op ≠ []

def planFor (options : GenerationOptions) (override : Option String) (s : Service) : Plan :=
  assemble options override s
    (s.operations.map (operationFor options (kindFor options) (localsTable options override s)))

theorem planNamed_iff_plannable (options : GenerationOptions) (override : Option String)
    (s : Service) (p : Plan) :
    planNamed options override s = .ok p ↔
      Plannable options s ∧ p = planFor options override s := by
  rw [planNamed_ok_iff, firstDuplicate_none_iff]
  constructor
  · rintro ⟨named, ⟨distinct, _⟩, operations, planned, rfl⟩
    obtain ⟨emitted, rfl⟩ := (all_plans_iff ..).mp planned
    exact ⟨⟨named, distinct, emitted⟩, rfl⟩
  · rintro ⟨⟨named, distinct, emitted⟩, rfl⟩
    exact ⟨named, ⟨distinct, fun _ _ => List.not_mem_nil⟩, _,
      (all_plans_iff ..).mpr ⟨emitted, rfl⟩, rfl⟩

end RemoteClient.Plan
