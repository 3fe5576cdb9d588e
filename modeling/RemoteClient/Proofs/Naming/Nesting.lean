import RemoteClient.Proofs.Naming.History
import Mathlib.Data.List.Forall2

/-!
Scopes are entered and left in pairs. What happens between the two leaves no trace in the table, and
the stack is as high as there are scopes that were entered and not yet left.
-/

namespace RemoteClient.Naming

namespace Request

def stays : Request → Bool
  | .enter _ | .exit => false
  | _ => true

/-- The scopes that were entered and not yet left, the innermost first, each as the names it was
entered with. The root is none of them. -/
def entered (alive : List (List String)) : Request → List (List String)
  | .enter names => names :: alive
  | .exit => alive.tail
  | _ => alive

theorem entered_stays {request : Request} (stays : request.stays) (alive : List (List String)) :
    request.entered alive = alive := by
  cases request with
  | enter | exit => cases stays
  | allocate | reserve | isReserved | lookup | depth => rfl

end Request

/-- Every scope that is entered is left again, and no other is. -/
inductive Nested : List Request → Prop
  | nil : Nested []
  | plain {request : Request} {rest : List Request} :
    request.stays → Nested rest → Nested (request :: rest)
  | scope (names : List String) {inside rest : List Request} :
    Nested inside → Nested rest → Nested (.enter names :: inside ++ .exit :: rest)

structure Scope.Extends (s later : Scope) : Prop where
  allocated : s.allocated ⊆ later.allocated
  holds : ∀ key, s.holds key → later.holds key

namespace Scope.Extends

theorem refl (s : Scope) : s.Extends s := ⟨List.Subset.refl _, fun _ => id⟩

theorem trans {s later last : Scope} (first : s.Extends later) (second : later.Extends last) :
    s.Extends last where
  allocated := List.Subset.trans first.allocated second.allocated
  holds key := second.holds key ∘ first.holds key

theorem reserve (s : Scope) (key : String) : s.Extends (s.reserve key) where
  allocated := by
    rw [reserve_allocated]
    exact List.Subset.refl _
  holds other held := (reserve_holds s key other).mpr (.inl held)

theorem record (s : Scope) (key name : String) : s.Extends (s.record key name) where
  allocated := List.subset_cons_self _ _
  holds _ := id

end Scope.Extends

namespace Table

theorem run_cons (t : Table) (request : Request) (rest : List Request) :
    t.run (request :: rest) =
      ((t.step request).1 :: ((t.step request).2.run rest).1, ((t.step request).2.run rest).2) :=
  rfl

theorem run_append (t : Table) (first rest : List Request) :
    t.run (first ++ rest) =
      ((t.run first).1 ++ ((t.run first).2.run rest).1, ((t.run first).2.run rest).2) := by
  induction first generalizing t with
  | nil => rfl
  | cons request first ih =>
      rw [List.cons_append, run_cons, ih]
      rfl

theorem allocate_extends (t : Table) (desired : String) :
    (t.allocate desired).2.enclosing = t.enclosing ∧
      t.current.Extends (t.allocate desired).2.current := by
  cases asked : t.lookupKey? (fold desired) with
  | some name =>
      rw [allocate_found asked]
      exact ⟨rfl, .refl _⟩
  | none =>
      rw [allocate_new asked]
      exact ⟨rfl, (Scope.Extends.reserve _ _).trans (.record _ _ _)⟩

theorem step_stays (t : Table) {request : Request} (stays : request.stays) :
    (t.step request).2.enclosing = t.enclosing ∧ t.current.Extends (t.step request).2.current := by
  cases request with
  | enter | exit => cases stays
  | allocate desired => exact allocate_extends t desired
  | reserve name => exact ⟨rfl, .reserve _ _⟩
  | isReserved | lookup | depth => exact ⟨rfl, .refl _⟩

theorem exit_enclosed {t outer : Table} (around : t.enclosing = outer.scopes) :
    t.exit? = some outer := by
  rw [exit?, around]
  rfl

theorem step_cases (t : Table) (request : Request) :
    (request.stays ∧ (t.step request).2.enclosing = t.enclosing ∧
      t.current.Extends (t.step request).2.current) ∨
      (∃ names, request = .enter names ∧ (t.step request).2 = t.enter names) ∨
      (request = .exit ∧ t.enclosing = [] ∧ (t.step request).2 = t) ∨
      (request = .exit ∧ t.enclosing = (t.step request).2.scopes) := by
  cases stays : request.stays with
  | true => exact .inl ⟨rfl, step_stays t stays⟩
  | false =>
      cases request with
      | allocate | reserve | isReserved | lookup | depth => cases stays
      | enter names => exact .inr (.inl ⟨names, rfl, rfl⟩)
      | exit =>
          obtain ⟨current, enclosing⟩ := t
          cases enclosing with
          | nil => exact .inr (.inr (.inl ⟨rfl, rfl, rfl⟩))
          | cons parent rest => exact .inr (.inr (.inr ⟨rfl, rfl⟩))

theorem step_exit {t outer : Table} (left : t.exit? = some outer) :
    t.step .exit = (.depth outer.depth, outer) := by
  rw [step, left]

theorem nested_enclosing {requests : List Request} (nested : Nested requests) (t : Table) :
    (t.run requests).2.enclosing = t.enclosing := by
  induction nested generalizing t with
  | nil => rfl
  | plain stays _ ih => rw [run_cons, ih, (step_stays t stays).1]
  | @scope names inside _ _ _ within after =>
      -- The inner requests leave the current scope enclosed, so that the exit comes back to it.
      have left : ((t.enter names).run inside).2.exit? = some t :=
        exit_enclosed (within (t.enter names))
      rw [List.cons_append, run_cons, run_append, run_cons]
      change ((((t.enter names).run inside).2.step .exit).2.run _).2.enclosing = _
      rw [step_exit left, after]

theorem nested_left {inside : List Request} (nested : Nested inside) (t : Table)
    (names : List String) :
    ((t.enter names).run inside).2.exit? = some t :=
  exit_enclosed (nested_enclosing nested (t.enter names))

theorem nested_leave {inside : List Request} (nested : Nested inside) (t : Table)
    (names : List String) :
    ((t.enter names).run inside).2.leave = t := by
  rw [leave, nested_left nested]
  rfl

/-- Once the scope is left, the table goes on from where it was entered. -/
theorem run_scope {inside : List Request} (nested : Nested inside) (t : Table) (names : List String)
    (later : List Request) :
    t.run (.enter names :: inside ++ .exit :: later) =
      (.depth (t.depth + 1) :: ((t.enter names).run inside).1 ++ .depth t.depth :: (t.run later).1,
        (t.run later).2) := by
  rw [List.cons_append, run_cons, run_append, run_cons]
  change (Answer.depth (t.depth + 1) :: (((t.enter names).run inside).1 ++
      (((t.enter names).run inside).2.step .exit).1 ::
        ((((t.enter names).run inside).2.step .exit).2.run later).1),
    ((((t.enter names).run inside).2.step .exit).2.run later).2) = _
  rw [step_exit (nested_left nested t names)]
  rfl

/-- The scopes in sight are those that are still entered, on top of the root, and each holds the
names it began with. -/
def Raised (t : Table) (begun : List (List String)) : Prop :=
  List.Forall₂ (fun s names => ∀ name ∈ names, s.holds (fold name)) t.scopes begun

theorem reserving_begun (names : List String) :
    ∀ name ∈ names, (Scope.reserving names).holds (fold name) :=
  fun _ member => (Scope.reserving_holds names _).mpr (List.mem_map_of_mem member)

theorem ofReserved_raised (names : List String) : Raised (ofReserved names) [names] :=
  .cons (reserving_begun names) .nil

theorem Raised.depth {t : Table} {alive : List (List String)} {root : List String}
    (raised : Raised t (alive ++ [root])) : t.depth = alive.length := by
  have lengths := List.Forall₂.length_eq raised
  rw [List.length_append] at lengths
  exact Nat.succ.inj lengths

theorem Raised.step {t : Table} {alive : List (List String)} {root : List String}
    (raised : Raised t (alive ++ [root])) (request : Request) :
    Raised (t.step request).2 (request.entered alive ++ [root]) := by
  obtain ⟨stays, around, grown⟩ | ⟨names, rfl, entered⟩ | ⟨rfl, atRoot, same⟩ | ⟨rfl, around⟩ :=
    step_cases t request
  · rw [Request.entered_stays stays, Raised, scopes, around]
    cases alive with
    | nil | cons =>
        obtain ⟨held, outer⟩ := List.forall₂_cons.mp raised
        exact .cons (fun name member => grown.holds _ (held name member)) outer
  · rw [entered]
    exact .cons (reserving_begun names) raised
  · have level := raised.depth
    rw [Table.depth, atRoot] at level
    rw [List.length_eq_zero_iff.mp level.symm] at raised ⊢
    rwa [same]
  · rw [Raised, scopes, around] at raised
    cases alive with
    | nil =>
        obtain ⟨_, outer⟩ := List.forall₂_cons.mp raised
        cases outer
    | cons names alive => exact (List.forall₂_cons.mp raised).2

theorem Raised.run {t : Table} {alive : List (List String)} {root : List String}
    (raised : Raised t (alive ++ [root])) (requests : List Request) :
    Raised (t.run requests).2 (requests.foldl Request.entered alive ++ [root]) := by
  induction requests generalizing t alive with
  | nil => exact raised
  | cons request rest ih => exact ih (raised.step request)

/-- Whatever was asked of a table: to enter a scope, to do there what one likes, and to leave it
again gives back the very table, which answers all that follows as if nothing had been. The stack
holds the scopes that are still entered, and below them the root with all that the table began
with. -/
theorem leaving_undoes_scope (reserved : List String) (requests : List Request) :
    let t := ((ofReserved reserved).run requests).2
    let alive := requests.foldl Request.entered []
    (∀ (names : List String) (inside : List Request), Nested inside →
        ((t.enter names).run inside).2.exit? = some t ∧
          ∀ later, t.run (.enter names :: inside ++ .exit :: later) =
            (.depth (t.depth + 1) :: ((t.enter names).run inside).1 ++ .depth t.depth ::
              (t.run later).1,
              (t.run later).2)) ∧
      t.depth = alive.length ∧ Raised t (alive ++ [reserved]) := by
  intro t alive
  have begun : Raised (ofReserved reserved) ([] ++ [reserved]) := ofReserved_raised reserved
  have raised : Raised t (alive ++ [reserved]) := begun.run requests
  exact ⟨fun names inside nested => ⟨nested_left nested t names, run_scope nested t names⟩,
    raised.depth, raised⟩

/-- One exit more than there are scopes, and then a scope with another inside. -/
theorem inner_scope_undone :
    let requests := [.allocate "Total", .enter ["a"], .exit, .exit, .enter ["b"]]
    let inside := [.reserve "sum", .allocate "total", .enter ["x"], .allocate "count", .exit]
    let t := ((ofReserved ["total"]).run requests).2
    Nested inside ∧ ((t.enter ["count"]).run inside).2.exit? = some t ∧ t.depth = 1 := by
  intro requests inside t
  have nested : Nested inside :=
    .plain rfl (.plain rfl (.scope ["x"] (.plain rfl .nil) .nil))
  obtain ⟨undone, height, _⟩ := leaving_undoes_scope ["total"] requests
  exact ⟨nested, (undone ["count"] inside nested).1, height⟩

end Table

end RemoteClient.Naming
