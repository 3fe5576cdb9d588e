import RemoteClient.Proofs.Plan.Plannable

/-!
When two methods of a plan share a name. The check for duplicates looks at the names of operations,
before the ending of an awaitable method is added, so that the ending can bring two methods
together: they clash where the operations are called alike up to that ending.
-/

namespace RemoteClient.Naming

def Suffixed (operation : String) : Prop := "Async".toList <:+ operation.toList

instance (operation : String) : Decidable (Suffixed operation) :=
  inferInstanceAs (Decidable ("Async".toList <:+ operation.toList))

def stem (operation : String) : String :=
  String.ofList ((dropEnding? "Async".toList operation.toList).getD operation.toList)

theorem ending_suffixed {operation : String} (suffixed : Suffixed operation) :
    "Async".toList.isSuffixOf operation.toList = true :=
  List.isSuffixOf_iff_suffix.mpr suffixed

theorem ending_plain {operation : String} (plain : ¬ Suffixed operation) :
    "Async".toList.isSuffixOf operation.toList = false :=
  Bool.eq_false_iff.mpr (mt List.isSuffixOf_iff_suffix.mp plain)

theorem stem_plain {operation : String} (plain : ¬ Suffixed operation) :
    stem operation = operation := by
  rw [stem, dropEnding?, ending_plain plain]
  exact String.ofList_toList

theorem stem_suffixed {operation : String} (suffixed : Suffixed operation) :
    stem operation ++ "Async" = operation := by
  have ending := ending_suffixed suffixed
  obtain ⟨base, whole⟩ := suffixed
  apply String.toList_inj.mp
  rw [stem, dropEnding?, ending, ← whole]
  simp

theorem methodName_awaitable (operation : String) :
    methodName operation true = stem operation ++ "Async" := by
  by_cases suffixed : Suffixed operation
  · rw [stem_suffixed suffixed, methodName, ending_suffixed suffixed]
    rfl
  · rw [stem_plain suffixed, methodName, ending_plain suffixed]
    rfl

theorem methodName_blocking (operation : String) : methodName operation false = operation := rfl

theorem append_ending_inj {base other : String} (same : base ++ "Async" = other ++ "Async") :
    base = other := by
  apply String.toList_inj.mp
  have parts := congrArg String.toList same
  rw [String.toList_append, String.toList_append] at parts
  exact List.append_cancel_right parts

theorem awaitable_names_eq_iff (a b : String) :
    methodName a true = methodName b true ↔ stem a = stem b := by
  rw [methodName_awaitable, methodName_awaitable]
  exact ⟨append_ending_inj, congrArg (· ++ "Async")⟩

theorem mixed_names_eq_iff (a b : String) :
    methodName a false = methodName b true ↔ stem a = stem b ∧ Suffixed a := by
  rw [methodName_awaitable, methodName_blocking]
  constructor
  · intro same
    have suffixed : Suffixed a := by
      rw [same]
      exact ⟨(stem b).toList, String.toList_append.symm⟩
    rw [← stem_suffixed suffixed] at same
    exact ⟨append_ending_inj same, suffixed⟩
  · rintro ⟨same, suffixed⟩
    rw [← same, stem_suffixed suffixed]

end RemoteClient.Naming

namespace RemoteClient.Plan

open Naming (methodName stem Suffixed)

/-- Two methods of the plan that callers tell apart by nothing but the name: the parameters have the
same types, and both take a cancellation token or neither does. -/
structure Rivals (p : Plan) (i j : Nat) (a b : Operation) (m n : Method) : Prop where
  first : p.operations[i]? = some a
  second : p.operations[j]? = some b
  own : m ∈ a.methods
  other : n ∈ b.methods
  distinct : (i, m.form) ≠ (j, n.form)
  types : a.parameters.map (·.typeName) = b.parameters.map (·.typeName)
  tokens : m.form = .cancellable ↔ n.form = .cancellable

theorem form_names_eq_iff (a b : String) {form form' : Form}
    (awaitable : form ≠ .blocking ∨ form' ≠ .blocking) :
    methodName a form.isAwaitable = methodName b form'.isAwaitable ↔
      stem a = stem b ∧ (form = .blocking → Suffixed a) ∧ (form' = .blocking → Suffixed b) := by
  cases form with
  | blocking =>
      have other : form'.isAwaitable = true := by
        cases form' with
        | blocking => exact absurd rfl (awaitable.resolve_left (· rfl))
        | awaited | cancellable => rfl
      have waits : form' ≠ .blocking := awaitable.resolve_left (· rfl)
      rw [other]
      simpa [Form.isAwaitable, waits] using Naming.mixed_names_eq_iff a b
  | awaited | cancellable =>
      cases form' with
      | blocking =>
          rw [eq_comm, eq_comm (a := stem a)]
          simpa [Form.isAwaitable] using Naming.mixed_names_eq_iff b a
      | awaited | cancellable => simpa [Form.isAwaitable] using Naming.awaitable_names_eq_iff a b

theorem method_named {options : GenerationOptions} {kind : Kind} {op : Service.Operation}
    {m : Method} (member : m ∈ methodsFor options kind op) :
    m.name = methodName op.name m.form.isAwaitable := by
  obtain ⟨form, _, rfl⟩ := List.mem_map.mp member
  rfl

section Planned

variable {options : GenerationOptions} {s : Service} {p : Plan} {i j : Nat} {a b : Operation}
    {m n : Method}

theorem planned_operation (planned : planService options s = .ok p)
    (found : p.operations[i]? = some a) :
    ∃ op, s.operations[i]? = some op ∧ a.name = op.name ∧ a.parameters = op.parameters ∧
      ∀ m ∈ a.methods, m.name = methodName a.name m.form.isAwaitable := by
  obtain ⟨_, rfl⟩ := (planNamed_iff_plannable ..).mp planned
  obtain ⟨op, known, rfl⟩ := Option.map_eq_some_iff.mp (List.getElem?_map.symm.trans found)
  exact ⟨op, known, rfl, rfl, fun m member => method_named member⟩

theorem planned_apart (planned : planService options s = .ok p) (first : p.operations[i]? = some a)
    (second : p.operations[j]? = some b) (names : a.name = b.name)
    (types : a.parameters.map (·.typeName) = b.parameters.map (·.typeName)) : i = j := by
  obtain ⟨op, known, name, parameters, _⟩ := planned_operation planned first
  obtain ⟨op', known', name', parameters', _⟩ := planned_operation planned second
  obtain ⟨plannable, _⟩ := (planNamed_iff_plannable ..).mp planned
  have signatures : op.signature = op'.signature := by
    rw [name, name'] at names
    rw [parameters, parameters'] at types
    exact Prod.ext names types
  have bound : i < (s.operations.map (·.signature)).length := by
    rw [List.length_map]
    exact (List.getElem?_eq_some_iff.mp known).1
  apply (List.getElem?_inj bound plannable.distinct).mp
  rw [List.getElem?_map, List.getElem?_map, known, known']
  exact congrArg some signatures

/-- Rivals share a name exactly where one of them is awaitable, their operations are called alike up
to the ending of awaitable methods, and a blocking one among them belongs to an operation with that
ending. No rivals do where neither operation has the ending, as descriptors are meant to be. -/
theorem rivals_share_name_iff (planned : planService options s = .ok p)
    (rivals : Rivals p i j a b m n) :
    (m.name = n.name ↔
      (m.form ≠ .blocking ∨ n.form ≠ .blocking) ∧ stem a.name = stem b.name ∧
        (m.form = .blocking → Suffixed a.name) ∧ (n.form = .blocking → Suffixed b.name)) ∧
      (¬ Suffixed a.name → ¬ Suffixed b.name → m.name ≠ n.name) := by
  obtain ⟨_, _, _, _, named⟩ := planned_operation planned rivals.first
  obtain ⟨_, _, _, _, named'⟩ := planned_operation planned rivals.second
  have apart : a.name = b.name → i = j := fun names =>
    planned_apart planned rivals.first rivals.second names rivals.types
  have share : m.name = n.name ↔
    (m.form ≠ .blocking ∨ n.form ≠ .blocking) ∧ stem a.name = stem b.name ∧
      (m.form = .blocking → Suffixed a.name) ∧ (n.form = .blocking → Suffixed b.name) := by
    rw [named m rivals.own, named' n rivals.other]
    by_cases awaitable : m.form ≠ .blocking ∨ n.form ≠ .blocking
    · rw [form_names_eq_iff a.name b.name awaitable, and_iff_right awaitable]
    · -- Blocking methods are called like their operations, which differ.
      obtain ⟨blocks, blocks'⟩ := not_or.mp awaitable
      rw [not_ne_iff] at blocks blocks'
      refine iff_of_false (fun same => ?_) (fun both => awaitable both.1)
      rw [blocks, blocks'] at same
      exact rivals.distinct (Prod.ext (apart same) (blocks.trans blocks'.symm))
  refine ⟨share, fun plain plain' same => ?_⟩
  obtain ⟨_, stems, suffixed, suffixed'⟩ := share.mp same
  rw [Naming.stem_plain plain, Naming.stem_plain plain'] at stems
  -- Two methods of one operation that both wait differ in the token.
  have forms : m.form = n.form := by
    have tokens := rivals.tokens
    revert tokens suffixed suffixed'
    cases m.form <;> cases n.form <;> simp [plain, plain']
  exact rivals.distinct (Prod.ext (apart stems) forms)

end Planned

def fetch : Service.Operation := .named "Fetch" [] none

def fetchAsync : Service.Operation :=
  { Service.Operation.named "FetchAsync" [] none with emitAsync := false }

/-- The awaitable method of its first operation is called like the blocking one of its second. -/
def feed : Service := .named "IFeed" [fetch, fetchAsync]

def feedPlan : Plan := planFor .standard none feed

theorem feed_planned : planService .standard feed = .ok feedPlan :=
  (planNamed_iff_plannable ..).mpr ⟨⟨by decide, by decide, by decide⟩, rfl⟩

def feedOperation (op : Service.Operation) : Operation :=
  operationFor .standard .client (localsTable .standard none feed) op

theorem feed_rivals : Rivals feedPlan 0 1 (feedOperation fetch) (feedOperation fetchAsync)
    ⟨.awaited, "FetchAsync", true⟩ ⟨.blocking, "FetchAsync", true⟩ where
  first := rfl
  second := rfl
  own := by decide
  other := by decide
  distinct := by decide
  types := rfl
  tokens := by decide

theorem feed_clash_explained :
    planService .standard feed = .ok feedPlan ∧ stem "Fetch" = stem "FetchAsync" ∧
      Suffixed "FetchAsync" := by
  obtain ⟨_, stems, _, suffixed⟩ := (rivals_share_name_iff feed_planned feed_rivals).1.mp rfl
  exact ⟨feed_planned, stems, suffixed rfl⟩

theorem methods_not_always_apart :
    ¬ ∀ (options : GenerationOptions) (s : Service) (p : Plan) (i j : Nat) (a b : Operation)
    (m n : Method),
      planService options s = .ok p → Rivals p i j a b m n → m.name ≠ n.name := by
  intro apart
  exact apart _ _ _ _ _ _ _ _ _ feed_planned feed_rivals rfl

end RemoteClient.Plan
