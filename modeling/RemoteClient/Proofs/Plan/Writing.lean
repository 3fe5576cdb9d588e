import RemoteClient.Plan.File
import RemoteClient.Plan.Planner
import RemoteClient.Proofs.Files.Writing

/-!
Plans that are written one after another, each to the file that is called like its type. Of the
plans that share a file only the last one can be read afterwards.
-/

namespace RemoteClient.Plan

open Files (OnTree Tree Location Content)

variable {t t' : Tree} {dir : String} {plans : List Plan} {paths : List String}

theorem writeText_ok {path text : String}
    (wrote : (writeText path text : OnTree _).run t = (.ok (), t')) :
    t.Grows t' ∧ ∃ place, t'.resolve path = .file place (.text text) false ∧
      ∀ {q content}, q ≠ place → t.node? q = some (.file content) →
        t'.node? q = some (.file content) := by
  rw [writeText] at wrote
  obtain ⟨_, middle, made, wrote⟩ := Files.run_passed wrote fun _ => rfl
  have furnished := Files.createParents_furnishes path t
  rw [made] at furnished
  have put : middle.write path text = (.ok (), t') := wrote
  obtain ⟨place, _, leads, rfl⟩ := Tree.change_seat put
  obtain ⟨_, fresh, written⟩ := Tree.resolve_seat leads
  refine ⟨furnished.1.trans (Tree.put_file_grows fresh _), place, written _,
    fun elsewhere held => ?_⟩
  rw [Tree.put_elsewhere elsewhere]
  exact furnished.2 held

def placeIn (t : Tree) (dir : String) (p : Plan) : Option Location :=
  Tree.seat? (t.resolve (Files.join dir p.fileName))

/-- What there is after the plans were written. Files that none of them was written to are left
alone. -/
structure Written (dir : String) (plans : List Plan) (t t' : Tree) : Prop where
  grows : t.Grows t'
  leads : ∀ p ∈ plans, ∃ place content, t'.resolve (Files.join dir p.fileName) =
    .file place content false
  last : ∀ {q p}, plans.reverse.find? (placeIn t' dir · == some q) = some p →
    t'.node? q = some (.file (.text p.render))
  others : ∀ {q content}, (∀ p ∈ plans, placeIn t' dir p ≠ some q) →
    t.node? q = some (.file content) →
    t'.node? q = some (.file content)

theorem placeIn_file {p : Plan} {place : Location} {content : Content}
    (leads : t.resolve (Files.join dir p.fileName) = .file place content false) :
    placeIn t dir p = some place := by
  rw [placeIn, leads]
  rfl

/-- A plan's file keeps what was written to it unless a later plan has the same file. -/
theorem Written.cons {middle : Tree} {p : Plan} {rest : List Plan} {place : Location}
    (grown : t.Grows middle)
    (leads : middle.resolve (Files.join dir p.fileName) = .file place (.text p.render) false)
    (spared : ∀ {q content}, q ≠ place → t.node? q = some (.file content) →
      middle.node? q = some (.file content)) (written : Written dir rest middle t') :
    Written dir (p :: rest) t t' := by
  obtain ⟨content, now⟩ := written.grows.resolve leads
  have own : placeIn t' dir p = some place := placeIn_file now
  constructor
  case grows => exact grown.trans written.grows
  case leads =>
    intro q member
    rcases List.mem_cons.mp member with rfl | member
    · exact ⟨place, content, now⟩
    · exact written.leads q member
  case last =>
    intro q r found
    rw [List.reverse_cons, List.find?_append] at found
    cases behind : rest.reverse.find? (placeIn t' dir · == some q) with
    | some later =>
        rw [behind] at found
        cases found
        exact written.last behind
    | none =>
        rw [behind, Option.none_or, List.find?_singleton] at found
        split at found
        next here =>
          cases found
          cases own.symm.trans (eq_of_beq here)
          refine written.others (fun other member same => ?_) (Tree.resolve_at leads)
          have missed := List.find?_eq_none.mp behind other (List.mem_reverse.mpr member)
          exact missed (beq_iff_eq.mpr same)
        · cases found
  case others =>
    intro q content apart held
    have elsewhere : q ≠ place := by
      rintro rfl
      exact apart p List.mem_cons_self own
    have before : middle.node? q = some (.file content) := spared elsewhere held
    exact written.others (fun other member => apart other (List.mem_cons_of_mem p member)) before

theorem writeEach_ok (wrote : (writeEach dir plans : OnTree _).run t = (.ok paths, t')) :
    paths = plans.map (fun p => Files.join dir p.fileName) ∧ Written dir plans t t' := by
  induction plans generalizing t paths with
  | nil =>
      cases wrote
      exact ⟨rfl, .refl _, by simp, by simp, fun _ held => held⟩
  | cons p rest ih =>
      rw [writeEach] at wrote
      obtain ⟨_, middle, first, wrote⟩ := Files.run_passed wrote fun _ => rfl
      obtain ⟨others, final, later, ends⟩ := Files.run_passed wrote fun _ => rfl
      cases ends
      obtain ⟨grown, place, leads, spared⟩ := writeText_ok first
      obtain ⟨rfl, written⟩ := ih later
      exact ⟨rfl, .cons grown leads spared written⟩

theorem writeToDirectory_ok
    (wrote : (writeToDirectory plans dir : OnTree _).run t = (.ok paths, t')) :
    paths = plans.map (fun p => Files.join dir p.fileName) ∧ Written dir plans t t' := by
  rw [writeToDirectory, Files.createDirectories] at wrote
  obtain ⟨_, middle, made, each⟩ := Files.run_passed wrote fun _ => rfl
  have furnished := Files.createUpTo_furnishes (dir.length + 1) dir t
  rw [made] at furnished
  obtain ⟨same, written⟩ := writeEach_ok each
  refine ⟨same, furnished.1.trans written.grows, written.leads, written.last, ?_⟩
  exact fun apart held => written.others apart (furnished.2 held)

theorem fileName_isName {p : Plan} (whole : '/' ∉ p.typeName.toList) : Files.IsName p.fileName := by
  constructor
  · simp [fileName]
  · simpa [fileName] using whole

namespace Written

variable (written : Written dir plans t t')
include written

/-- Where no type is called like a path, plans share a file exactly if their types are called
alike. -/
theorem placeIn_iff {p q : Plan} (inside : p ∈ plans) (inside' : q ∈ plans)
    (whole : '/' ∉ p.typeName.toList) (whole' : '/' ∉ q.typeName.toList) :
    placeIn t' dir p = placeIn t' dir q ↔ p.typeName = q.typeName := by
  obtain ⟨place, _, leads⟩ := written.leads p inside
  obtain ⟨place', _, leads'⟩ := written.leads q inside'
  obtain ⟨goal, walks, rfl⟩ := Tree.resolve_join (fileName_isName whole) leads
  obtain ⟨goal', walks', rfl⟩ := Tree.resolve_join (fileName_isName whole') leads'
  cases walks.unique walks'
  rw [placeIn_file leads, placeIn_file leads']
  simp [fileName, ← String.toList_inj]

theorem reads {p : Plan} (inside : p ∈ plans) :
    ∃ last, plans.reverse.find? (placeIn t' dir · == placeIn t' dir p) = some last ∧
      t'.readText (Files.join dir p.fileName) = .ok last.render := by
  obtain ⟨place, content, leads⟩ := written.leads p inside
  rw [placeIn_file leads]
  cases found : plans.reverse.find? (placeIn t' dir · == some place) with
  | none =>
      have missed := List.find?_eq_none.mp found p (List.mem_reverse.mpr inside)
      exact absurd (beq_iff_eq.mpr (placeIn_file leads)) missed
  | some last =>
      have held := (Tree.resolve_at leads).symm.trans (written.last found)
      cases held
      exact ⟨last, rfl, by rw [Tree.readText, leads]⟩

theorem survive_iff : (∀ p ∈ plans, t'.readText (Files.join dir p.fileName) = .ok p.render) ↔
    ∀ p ∈ plans, ∀ q ∈ plans, placeIn t' dir p = placeIn t' dir q → p.render = q.render := by
  constructor
  · intro survive p inside q inside' same
    obtain ⟨last, found, read⟩ := written.reads inside
    obtain ⟨last', found', read'⟩ := written.reads inside'
    rw [same, found'] at found
    cases found
    have first : p.render = last.render := Except.ok.inj ((survive p inside).symm.trans read)
    have second : q.render = last.render := Except.ok.inj ((survive q inside').symm.trans read')
    exact first.trans second.symm
  · intro alike p inside
    obtain ⟨last, found, read⟩ := written.reads inside
    have member : last ∈ plans := List.mem_reverse.mp (List.mem_of_find?_eq_some found)
    have same : placeIn t' dir last = placeIn t' dir p := by simpa using List.find?_some found
    rw [read, alike last member p inside same]

end Written

/-- What can be read of plans that were written to a directory. The paths are as many as the plans,
but may lead to one file, and do so where the types are called alike; that file then holds the last
of its plans. So all plans are kept exactly if those that share a file are printed alike. -/
theorem written_plans_kept_iff
    (wrote : (writeToDirectory plans dir : OnTree _).run t = (.ok paths, t')) :
    paths = plans.map (fun p => Files.join dir p.fileName) ∧
    (∀ p ∈ plans, ∃ last, plans.reverse.find? (placeIn t' dir · == placeIn t' dir p) = some last ∧
      t'.readText (Files.join dir p.fileName) = .ok last.render) ∧
    ((∀ p ∈ plans, t'.readText (Files.join dir p.fileName) = .ok p.render) ↔
      ∀ p ∈ plans, ∀ q ∈ plans, placeIn t' dir p = placeIn t' dir q → p.render = q.render) ∧
    ∀ p ∈ plans, ∀ q ∈ plans, '/' ∉ p.typeName.toList → '/' ∉ q.typeName.toList →
      (placeIn t' dir p = placeIn t' dir q ↔ p.typeName = q.typeName) := by
  obtain ⟨same, written⟩ := writeToDirectory_ok wrote
  exact ⟨same, fun _ => written.reads, written.survive_iff,
    fun _ inside _ inside' => written.placeIn_iff inside inside'⟩

def namesakes : Catalogue :=
  .ofServices [{ Service.named "IOrder" [.named "Place" [] none] with enclosing := some "Shop" },
    { Service.named "IOrder" [.named "Settle" [] none] with enclosing := some "Billing" }]

def orderPlan (enclosing operation : String) : Plan where
  interfaceName := "IOrder"
  qualifiedName := enclosing ++ ".IOrder"
  kind := .client
  typeName := "OrderClient"
  visibility := .everywhere
  warningComments := true
  members := some ⟨"m_cachedProxy", "m_proxyFactory", "GetProxy", "GetProxyAsync", "EnsureProxy",
    "EnsureProxyAsync", "CloseProxy", "CloseProxyAsync"⟩
  operations :=
    [{ name := operation
       parameters := []
       returnType := none
       methods := [⟨.blocking, operation, true⟩, ⟨.awaited, operation ++ "Async", true⟩,
         ⟨.cancellable, operation ++ "Async", true⟩]
       locals := some ⟨"proxy", "cancellationToken", "s"⟩ }]

theorem orderPlan_path (enclosing operation : String) :
    Files.join "out" (orderPlan enclosing operation).fileName = "out/OrderClient.plan.json" := by
  change Files.join "out" ("OrderClient" ++ ".plan.json") = _
  decide +kernel

theorem orderPlan_placeIn (t : Tree) (enclosing operation : String) :
    placeIn t "out" (orderPlan enclosing operation) =
      Tree.seat? (t.resolve "out/OrderClient.plan.json") := by
  rw [placeIn, orderPlan_path]

def namesakePlans : List Plan := [orderPlan "Shop" "Place", orderPlan "Billing" "Settle"]

theorem namesakes_planned : planAll .standard namesakes = .ok namesakePlans := by decide +kernel

theorem namesakes_written : ∃ t, (writeToDirectory namesakePlans "out" : OnTree _).run ⟨[], []⟩ =
    (.ok ["out/OrderClient.plan.json", "out/OrderClient.plan.json"], t) := by
  have written : ((writeToDirectory namesakePlans "out" : OnTree _).run ⟨[], []⟩).1 =
      .ok ["out/OrderClient.plan.json", "out/OrderClient.plan.json"] := by
    decide +kernel
  obtain ⟨⟨result, t⟩, ran⟩ : ∃ r, (writeToDirectory namesakePlans "out" : OnTree _).run ⟨[], []⟩ =
    r := ⟨_, rfl⟩
  rw [ran] at written
  cases written
  exact ⟨t, ran⟩

theorem orderPlans_differ :
    (orderPlan "Shop" "Place").render ≠ (orderPlan "Billing" "Settle").render := by
  have texts : Json.prettyChars 0 (orderPlan "Shop" "Place").toJson ≠
      Json.prettyChars 0 (orderPlan "Billing" "Settle").toJson := by
    decide +kernel
  simpa [render, Json.pretty, ← String.toList_inj] using texts

theorem second_namesake_kept : ∃ t, (writeToDirectory namesakePlans "out" : OnTree _).run ⟨[], []⟩ =
      (.ok ["out/OrderClient.plan.json", "out/OrderClient.plan.json"], t) ∧
    t.readText "out/OrderClient.plan.json" = .ok (orderPlan "Billing" "Settle").render ∧
    ¬ ∀ p ∈ namesakePlans, t.readText (Files.join "out" p.fileName) = .ok p.render := by
  obtain ⟨t, wrote⟩ := namesakes_written
  obtain ⟨_, reads, kept, _⟩ := written_plans_kept_iff wrote
  have shared : placeIn t "out" (orderPlan "Shop" "Place") =
      placeIn t "out" (orderPlan "Billing" "Settle") := by
    rw [orderPlan_placeIn, orderPlan_placeIn]
  refine ⟨t, wrote, ?_, fun all => ?_⟩
  · obtain ⟨last, found, read⟩ := reads (orderPlan "Billing" "Settle") (.tail _ (.head _))
    simp only [namesakePlans, List.reverse_cons, List.reverse_nil, List.nil_append,
      List.singleton_append, List.find?_cons, beq_self_eq_true, Option.some.injEq] at found
    subst found
    rwa [orderPlan_path] at read
  · exact orderPlans_differ (kept.mp all _ (.head _) _ (.tail _ (.head _)) shared)

/-- A plan can be lost although everything was written. -/
theorem plans_not_always_kept :
    ¬ ∀ (options : GenerationOptions) (c : Catalogue) (plans : List Plan) (dir : String)
    (t t' : Tree) (paths : List String), planAll options c = .ok plans →
    (writeToDirectory plans dir : OnTree _).run t = (.ok paths, t') →
    ∀ (i : Nat) (p : Plan) (path : String), plans[i]? = some p → paths[i]? = some path →
      t'.readText path = .ok p.render := by
  intro kept
  obtain ⟨t, wrote⟩ := namesakes_written
  have both := kept .standard namesakes namesakePlans "out" ⟨[], []⟩ t _ namesakes_planned wrote
  have first := both 0 _ _ rfl rfl
  have second := both 1 _ _ rfl rfl
  exact orderPlans_differ (Except.ok.inj (first.symm.trans second))

end RemoteClient.Plan
