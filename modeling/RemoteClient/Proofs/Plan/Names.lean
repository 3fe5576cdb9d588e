import RemoteClient.Proofs.Naming.Allocation
import RemoteClient.Proofs.Plan.Planned

/-!
The names in the plan of a client: no member is called like another, like the type or like a method,
and no local variable is called like any of these or like a parameter.
-/

namespace RemoteClient.Plan

open Naming (Table fold methodName)

def memberRequests : List String :=
  ["CloseProxy", "CloseProxyAsync", "GetProxyAsync", "GetProxy", "EnsureProxy", "EnsureProxyAsync",
    "m_cachedProxy", "m_proxyFactory"]

def localRequests : List String := ["proxy", "cancellationToken", "s"]

theorem requests_distinct : ((memberRequests ++ localRequests).map fold).Nodup := by decide

theorem members_perm (m : MemberNames) :
    m.toList.Perm [m.closeProxy, m.closeProxyAsync, m.getProxyAsync, m.getProxy, m.ensureProxy,
      m.ensureProxyAsync, m.cachedProxyField, m.proxyFactoryField] := by
  rw [List.perm_iff_count]
  intro name
  simp only [MemberNames.toList, List.count_cons, List.count_nil]
  omega

theorem allocateMembers_names (t : Table) :
    (allocateMembers t).1.toList.Perm (t.allocateAll memberRequests).1 := by
  simpa only [allocateMembers, memberRequests, Table.allocateAll] using members_perm
    (allocateMembers t).1

theorem allocateMembers_table (t : Table) :
    (allocateMembers t).2 = (t.allocateAll memberRequests).2 := by
  simp only [allocateMembers, memberRequests, Table.allocateAll]

theorem allocateLocals_names (t : Table) (op : Service.Operation) :
    (allocateLocals t op).1.toList = ((t.enter op.parameterNames).allocateAll localRequests).1 :=
  rfl

theorem members_meet (taken : List String) :
    (Table.ofReserved taken).Meets memberRequests
      (allocateMembers (.ofReserved taken)).1.toList (allocateMembers (.ofReserved taken)).2 := by
  have distinct : (memberRequests.map fold).Nodup :=
    requests_distinct.sublist ((List.sublist_append_left _ _).map fold)
  have met := Table.allocateAll_meets (t := .ofReserved taken) distinct fun _ _ => rfl
  have names := allocateMembers_names (.ofReserved taken)
  rw [allocateMembers_table]
  exact {
    distinct := (names.map fold).nodup_iff.mpr met.distinct
    free := fun name member => met.free name (names.mem_iff.mp member)
    held := fun key => by rw [met.held, (names.map fold).mem_iff]
    others := met.others }

theorem locals_meet {t : Table} (op : Service.Operation)
    (unasked : ∀ desired ∈ localRequests, t.lookupKey? (fold desired) = none) :
    ∃ later, (t.enter op.parameterNames).Meets localRequests
      (allocateLocals t op).1.toList later := by
  have distinct : (localRequests.map fold).Nodup :=
    requests_distinct.sublist ((List.sublist_append_right _ _).map fold)
  have entered : ∀ desired ∈ localRequests,
      (t.enter op.parameterNames).lookupKey? (fold desired) = none := by
    intro desired asked
    rw [Table.enter_lookup]
    exact unasked desired asked
  have met := Table.allocateAll_meets distinct entered
  rw [← allocateLocals_names] at met
  exact ⟨_, met⟩

/-- The name is not, up to letter case, that of the type or of a method that an operation may be
given. -/
structure Outside (s : Service) (typeName name : String) : Prop where
  type : fold name ≠ fold typeName
  methods : ∀ op ∈ s.operations, ∀ awaitable, fold name ≠ fold (methodName op.name awaitable)

theorem outside_taken {s : Service} {typeName name : String}
    (free : fold name ∉ (takenNames s typeName).map fold) : Outside s typeName name := by
  have apart : ∀ taken ∈ takenNames s typeName, fold name ≠ fold taken := by
    intro taken member same
    exact free (same ▸ List.mem_map_of_mem member)
  refine ⟨apart typeName List.mem_cons_self, fun op member awaitable => apart _ ?_⟩
  refine List.mem_cons_of_mem typeName (List.mem_flatMap.mpr ⟨op, member, ?_⟩)
  cases awaitable <;> simp

/-- What the names of one operation's local variables keep clear of. -/
structure Clear (s : Service) (typeName : String) (m : MemberNames) (op : Service.Operation)
    (name : String) : Prop where
  outside : Outside s typeName name
  members : ∀ member ∈ m.toList, fold name ≠ fold member
  parameters : ∀ parameter ∈ op.parameters, fold name ≠ fold parameter.name

section Client

variable (s : Service) (typeName : String)

def clientMembers : MemberNames × Table := allocateMembers (.ofReserved (takenNames s typeName))

theorem client_members_distinct : ((clientMembers s typeName).1.toList.map fold).Nodup :=
  (members_meet (takenNames s typeName)).distinct

theorem client_members_outside :
    ∀ name ∈ (clientMembers s typeName).1.toList, Outside s typeName name := by
  intro name member
  have free := (members_meet (takenNames s typeName)).free name member
  rw [Table.ofReserved_holds] at free
  exact outside_taken free

theorem client_locals_meet (op : Service.Operation) :
    ∃ later, ((clientMembers s typeName).2.enter op.parameterNames).Meets localRequests
      (allocateLocals (clientMembers s typeName).2 op).1.toList later := by
  apply locals_meet
  intro desired asked
  -- The requests for members do not answer those for local variables.
  have other : fold desired ∉ memberRequests.map fold := by
    intro member
    have disjoint := requests_distinct
    rw [List.map_append, List.nodup_append] at disjoint
    exact disjoint.2.2 _ member _ (List.mem_map_of_mem asked) rfl
  exact (members_meet (takenNames s typeName)).others _ other

theorem client_locals_distinct (op : Service.Operation) :
    ((allocateLocals (clientMembers s typeName).2 op).1.toList.map fold).Nodup := by
  obtain ⟨_, met⟩ := client_locals_meet s typeName op
  exact met.distinct

theorem client_locals_clear (op : Service.Operation) :
    ∀ name ∈ (allocateLocals (clientMembers s typeName).2 op).1.toList,
      Clear s typeName (clientMembers s typeName).1 op name := by
  intro name member
  obtain ⟨_, met⟩ := client_locals_meet s typeName op
  have free := met.free name member
  have held := (members_meet (takenNames s typeName)).held (fold name)
  rw [Table.enter_holds, clientMembers, held, Table.ofReserved_holds, not_or, not_or] at free
  obtain ⟨noParameter, notTaken, noMember⟩ := free
  refine ⟨outside_taken notTaken, fun other inside same => ?_, fun parameter inside same => ?_⟩
  · exact noMember (same ▸ List.mem_map_of_mem inside)
  · refine noParameter (same ▸ List.mem_map_of_mem ?_)
    exact List.mem_map_of_mem inside

end Client

theorem membersOf_wrapper {options : GenerationOptions} (wrapper : options.wrapper = true)
    (override : Option String) (s : Service) : membersOf options override s =
      (some (clientMembers s (typeNameFor (kindFor options) override s)).1,
        (clientMembers s (typeNameFor (kindFor options) override s)).2) := by
  have kind : kindFor options = .client := if_pos wrapper
  rw [membersOf, kind, membersFor_client, clientMembers]

theorem plans_wrapper {options : GenerationOptions} {override : Option String} {s : Service}
    {op : Service.Operation} {planned : Operation} (wrapper : options.wrapper = true)
    (made : Plans options override s op planned) :
    planned.name = op.name ∧ planned.parameters = op.parameters ∧
      planned.locals = some
        (allocateLocals (clientMembers s (typeNameFor (kindFor options) override s)).2 op).1 := by
  have kind : kindFor options = .client := if_pos wrapper
  rw [Plans, membersOf_wrapper wrapper, planAlone] at made
  split at made
  · cases made
  · cases made
    exact ⟨rfl, rfl, by rw [operationFor, kind, localsFor_client]⟩

/-- The names in a client's plan never collide, up to letter case. -/
theorem client_names_never_collide {options : GenerationOptions} {s : Service} {p : Plan}
    (wrapper : options.wrapper = true) (planned : planService options s = .ok p) :
    ∃ m, p.members = some m ∧ (m.toList.map fold).Nodup ∧
      (∀ name ∈ m.toList, Outside s p.typeName name) ∧
      List.Forall₂ (fun op plannedOp =>
        plannedOp.name = op.name ∧ plannedOp.parameters = op.parameters ∧
        ∃ l, plannedOp.locals = some l ∧ (l.toList.map fold).Nodup ∧
          ∀ name ∈ l.toList, Clear s p.typeName m op name) s.operations p.operations := by
  rw [planService, planNamed_ok_iff] at planned
  obtain ⟨_, _, operations, made, rfl⟩ := planned
  let typeName := typeNameFor (kindFor options) options.clientName s
  refine ⟨(clientMembers s typeName).1, ?_, client_members_distinct s typeName,
    client_members_outside s typeName, made.imp fun op plannedOp made => ?_⟩
  · rw [assemble, membersOf_wrapper wrapper]
  · obtain ⟨name, parameters, locals⟩ := plans_wrapper wrapper made
    exact ⟨name, parameters, _, locals, client_locals_distinct s typeName op,
      client_locals_clear s typeName op⟩

/-- Its one operation is called like a member, and its parameters like a local variable and the next
candidate for it. -/
def crowded : Service :=
  .named "IDesk" [.named "CLOSEPROXY" [⟨"proxy", "int"⟩, ⟨"Proxy_0", "int"⟩] none]

def crowdedMembers : MemberNames where
  cachedProxyField := "m_cachedProxy"
  proxyFactoryField := "m_proxyFactory"
  getProxy := "GetProxy"
  getProxyAsync := "GetProxyAsync"
  ensureProxy := "EnsureProxy"
  ensureProxyAsync := "EnsureProxyAsync"
  closeProxy := "CloseProxy_0"
  closeProxyAsync := "CloseProxyAsync_0"

def crowdedPlan : Plan where
  interfaceName := "IDesk"
  qualifiedName := "IDesk"
  kind := .client
  typeName := "DeskClient"
  visibility := .everywhere
  warningComments := true
  members := some crowdedMembers
  operations :=
    [{ name := "CLOSEPROXY"
       parameters := [⟨"proxy", "int"⟩, ⟨"Proxy_0", "int"⟩]
       returnType := none
       methods := [⟨.blocking, "CLOSEPROXY", true⟩, ⟨.awaited, "CLOSEPROXYAsync", true⟩,
         ⟨.cancellable, "CLOSEPROXYAsync", true⟩]
       locals := some ⟨"proxy_1", "cancellationToken", "s"⟩ }]

theorem crowded_planned : planService .standard crowded = .ok crowdedPlan := by decide +kernel

theorem crowded_names_apart : planService .standard crowded = .ok crowdedPlan ∧
    (crowdedMembers.toList.map fold).Nodup ∧
    ∀ name ∈ crowdedMembers.toList, Outside crowded "DeskClient" name := by
  obtain ⟨m, members, distinct, outside, _⟩ := client_names_never_collide rfl crowded_planned
  cases members
  exact ⟨crowded_planned, distinct, outside⟩

end RemoteClient.Plan
