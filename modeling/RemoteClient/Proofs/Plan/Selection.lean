import RemoteClient.Proofs.Plan.Plannable
import Mathlib.Data.List.Find

/-!
Asking for one service by its qualified name. A service that stands earlier and has that name as its
plain interface name is found in its place, and nothing else is.
-/

namespace RemoteClient.Plan

theorem planNamed_restrict (options : GenerationOptions) (wanted : String)
    (override : Option String) (s : Service) :
    planNamed (options.restrict (some wanted)) override s = planNamed options override s := by
  simp only [planNamed, planOperations_alone]
  rfl

theorem planAll_selected {options : GenerationOptions} {c : Catalogue} {wanted : String}
    {s : Service} (selected : select (options.restrict (some wanted)) c = .ok [s]) :
    planAll (options.restrict (some wanted)) c = (planService options s).map fun p => [p] := by
  rw [planAll, selected]
  change ([s].mapM (planNamed (options.restrict (some wanted)) options.clientName)) = _
  rw [List.mapM_cons, List.mapM_nil, planNamed_restrict, planService]
  cases planNamed options options.clientName s <;> rfl

/-- The service that is found under the qualified name of the one at `i`. -/
def foundFor (c : Catalogue) (i : Nat) (s : Service) : Service :=
  ((c.services.take i).find? (·.interfaceName == s.qualifiedName)).getD s

section Listed

variable {c : Catalogue} {i : Nat} {s : Service}

theorem listed_split (listed : c.services[i]? = some s) :
    c.services = c.services.take i ++ s :: c.services.drop (i + 1) := by
  obtain ⟨bound, rfl⟩ := List.getElem?_eq_some_iff.mp listed
  rw [List.getElem_cons_drop, List.take_append_drop]

theorem earlier_apart (distinct : (c.services.map (·.qualifiedName)).Nodup)
    (listed : c.services[i]? = some s) :
    ∀ other ∈ c.services.take i, other.qualifiedName ≠ s.qualifiedName := by
  intro other earlier same
  rw [listed_split listed, List.map_append, List.nodup_append] at distinct
  exact distinct.2.2 _ (List.mem_map_of_mem earlier) _ (List.mem_map_of_mem List.mem_cons_self) same

theorem select_qualified (options : GenerationOptions)
    (distinct : (c.services.map (·.qualifiedName)).Nodup) (listed : c.services[i]? = some s) :
    select (options.restrict (some s.qualifiedName)) c = .ok [foundFor c i s] := by
  -- The services before it cannot be met by their qualified names.
  have before : (c.services.take i).find? (fun other =>
        other.interfaceName == s.qualifiedName || other.qualifiedName == s.qualifiedName) =
      (c.services.take i).find? (·.interfaceName == s.qualifiedName) := by
    refine List.find?_congr fun other earlier => ?_
    rw [beq_false_of_ne (earlier_apart distinct listed other earlier), Bool.or_false]
  have found : c.services.find? (fun other =>
        other.interfaceName == s.qualifiedName || other.qualifiedName == s.qualifiedName) =
      some (foundFor c i s) := by
    rw [listed_split listed, List.find?_append, before, List.find?_cons, beq_self_eq_true,
      Bool.or_true, foundFor]
    cases (c.services.take i).find? (·.interfaceName == s.qualifiedName) <;> rfl
  simp only [select, GenerationOptions.restrict, found]

theorem foundFor_cases (distinct : (c.services.map (·.qualifiedName)).Nodup)
    (listed : c.services[i]? = some s) :
    ((∀ other ∈ c.services.take i, other.interfaceName ≠ s.qualifiedName) ∧ foundFor c i s = s) ∨
      ∃ rival ∈ c.services.take i, rival.interfaceName = s.qualifiedName ∧
        rival.qualifiedName ≠ s.qualifiedName ∧ foundFor c i s = rival := by
  rw [foundFor]
  cases early : (c.services.take i).find? (·.interfaceName == s.qualifiedName) with
  | none =>
      refine .inl ⟨fun other earlier same => ?_, rfl⟩
      exact List.find?_eq_none.mp early other earlier (beq_iff_eq.mpr same)
  | some rival =>
      have earlier := List.mem_of_find?_eq_some early
      have same : rival.interfaceName = s.qualifiedName := by simpa using List.find?_some early
      exact .inr ⟨rival, earlier, same, earlier_apart distinct listed rival earlier, rfl⟩

end Listed

theorem planned_names {options : GenerationOptions} {s : Service} {p : Plan}
    (planned : planService options s = .ok p) :
    p.interfaceName = s.interfaceName ∧ p.qualifiedName = s.qualifiedName := by
  obtain ⟨_, rfl⟩ := (planNamed_iff_plannable ..).mp planned
  exact ⟨rfl, rfl⟩

/-- In a catalogue whose qualified names all differ, a service that has a plan is planned under its
qualified name, and only it, exactly if no service before it has that name as its interface name;
else what the first such service gives takes its place. -/
theorem planned_by_qualified_name_iff {options : GenerationOptions} {c : Catalogue} {i : Nat}
    {s : Service} {p : Plan} (distinct : (c.services.map (·.qualifiedName)).Nodup)
    (listed : c.services[i]? = some s) (planned : planService options s = .ok p) :
    p.interfaceName = s.interfaceName ∧ p.qualifiedName = s.qualifiedName ∧
      (planAll (options.restrict (some s.qualifiedName)) c = .ok [p] ↔
        ∀ other ∈ c.services.take i, other.interfaceName ≠ s.qualifiedName) ∧
      ∀ rival, (c.services.take i).find? (·.interfaceName == s.qualifiedName) = some rival →
        planAll (options.restrict (some s.qualifiedName)) c =
          (planService options rival).map fun q => [q] := by
  obtain ⟨plain, qualified⟩ := planned_names planned
  have made := planAll_selected (select_qualified options distinct listed)
  refine ⟨plain, qualified, ?_, fun rival first => ?_⟩
  · rw [made]
    obtain ⟨free, self⟩ | ⟨rival, earlier, same, apart, found⟩ := foundFor_cases distinct listed
    · rw [self, planned]
      exact iff_of_true rfl free
    · rw [found]
      refine iff_of_false (fun alike => ?_) fun free => free rival earlier same
      cases others : planService options rival with
      | error reason =>
          rw [others] at alike
          cases alike
      | ok q =>
          rw [others] at alike
          cases alike
          exact apart ((planned_names others).2.symm.trans qualified)
  · rw [made, foundFor, first, Option.getD_some]

def shopOrder : Service :=
  { Service.named "IOrder" [.named "Place" [] none] with enclosing := some "Shop" }

def order : Service := .named "IOrder" [.named "Cancel" [] none]

theorem shopOrder_planned :
    planService .standard shopOrder = .ok (planFor .standard none shopOrder) :=
  (planNamed_iff_plannable ..).mpr ⟨⟨by decide, by decide, by decide⟩, rfl⟩

theorem order_planned : planService .standard order = .ok (planFor .standard none order) :=
  (planNamed_iff_plannable ..).mpr ⟨⟨by decide, by decide, by decide⟩, rfl⟩

/-- The interface names are the same, but that of the first service is not the qualified name of the
second. -/
theorem shop_order_found_second :
    planAll (GenerationOptions.standard.restrict (some "Shop.IOrder"))
      (.ofServices [order, shopOrder]) =
      .ok [planFor .standard none shopOrder] := by
  obtain ⟨_, _, alone, _⟩ :=
    planned_by_qualified_name_iff (c := .ofServices [order, shopOrder]) (i := 1)
      (by decide) rfl shopOrder_planned
  exact alone.mpr (by decide)

/-- With the services the other way round, the one without a namespace cannot be asked for. -/
theorem qualified_name_not_always_enough :
    ¬ ∀ (options : GenerationOptions) (c : Catalogue) (i : Nat) (s : Service) (p : Plan),
      (c.services.map (·.qualifiedName)).Nodup → c.services[i]? = some s →
        planService options s = .ok p →
        planAll (options.restrict (some s.qualifiedName)) c = .ok [p] ∧
          p.interfaceName = s.interfaceName ∧ p.qualifiedName = s.qualifiedName := by
  intro enough
  let c : Catalogue := .ofServices [shopOrder, order]
  have distinct : (c.services.map (·.qualifiedName)).Nodup := by decide
  have made := planAll_selected (select_qualified .standard (i := 1) distinct (s := order) rfl)
  have rival : foundFor c 1 order = shopOrder := by decide
  rw [rival, shopOrder_planned] at made
  have one := (enough .standard c 1 order _ distinct rfl order_planned).1
  have same : planFor .standard none shopOrder = planFor .standard none order := by
    injection made.symm.trans one with plans
    exact List.head_eq_of_cons_eq plans
  exact absurd (congrArg Plan.qualifiedName same) (by decide)

end RemoteClient.Plan
