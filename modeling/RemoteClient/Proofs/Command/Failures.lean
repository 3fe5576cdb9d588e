import RemoteClient.Command.Run
import RemoteClient.Proofs.Plan.Acceptance
import RemoteClient.Proofs.Service.Descriptors
import RemoteClient.Proofs.Settings.Documents

/-!
A run of the planner that fails before it has all its plans writes none of them: only the log file
can have changed, and that only by log lines at its end.
-/

namespace RemoteClient

/-! ## Adding to a file -/

namespace Files

theorem bytes_from (bytes : ByteArray) (i : Nat) (read : List UInt8) :
    ByteArray.toList.loop bytes i read = read.reverse ++ bytes.data.toList.drop i := by
  fun_induction ByteArray.toList.loop bytes i read with
  | case1 i read more ih =>
      have inside : i < bytes.data.toList.length := more
      have byte : bytes.get! i = bytes.data.toList[i] := by simp [ByteArray.get!, more]
      rw [ih, byte, List.reverse_cons, List.append_assoc, List.singleton_append,
        List.getElem_cons_drop]
  | case2 i read done =>
      have finished : bytes.data.toList.length ≤ i := Nat.le_of_not_lt done
      rw [List.drop_of_length_le finished, List.append_nil]

theorem bytes_append (first second : ByteArray) :
    (first ++ second).toList = first.toList ++ second.toList := by
  simp [ByteArray.toList, bytes_from]

theorem Content.append_append (content : Content) (first second : String) :
    (content.append first).append second = content.append (first ++ second) := by
  cases content with
  | text value => simp [Content.append, String.append_assoc]
  | binary bytes => simp [Content.append, bytes_append]

namespace Tree

variable {t t' t'' : Tree} {place : Location} {path text more : String}

def held (t : Tree) (place : Location) : Content :=
  match t.node? place with
  | some (.file content) => content
  | some .directory | none => .text ""

/-- A file got more at its end, or was made with it. Everything else is as it was. -/
structure Extended (place : Location) (more : String) (t t' : Tree) : Prop where
  current : t'.current = t.current
  elsewhere : ∀ q, q ≠ place → t'.node? q = t.node? q
  here : t'.node? place = some (.file ((t.held place).append more))

theorem Extended.trans (first : Extended place text t t') (second : Extended place more t' t'') :
    Extended place (text ++ more) t t'' where
  current := second.current.trans first.current
  elsewhere q apart := (second.elsewhere q apart).trans (first.elsewhere q apart)
  here := by
    have between : t'.held place = (t.held place).append text := by rw [held, first.here]
    rw [second.here, between, Content.append_append]

theorem put_extended (inside : place ≠ []) :
    Extended place more t (t.put place (.file ((t.held place).append more))) where
  current := put_current ..
  elsewhere _ apart := put_elsewhere apart
  here := put_here inside

/-- What is added goes to the end of the file that the path leads to, or nothing changes. -/
theorem append_cases (t : Tree) (path text : String) :
    (seat? (t.resolve path) = none ∧ ∃ reason, t.append path text = (.error reason, t)) ∨
      ∃ place t', t.append path text = (.ok (), t') ∧ seat? (t.resolve path) = some place ∧
        seat? (t'.resolve path) = some place ∧ Extended place text t t' := by
  have added {place : Location} (leads : seat? (t.resolve path) = some place)
      (appends : t.append path text = (.ok (), t.put place (.file ((t.held place).append text)))) :
      ∃ place t', t.append path text = (.ok (), t') ∧ seat? (t.resolve path) = some place ∧
        seat? (t'.resolve path) = some place ∧ Extended place text t t' := by
    obtain ⟨inside, _, later⟩ := resolve_seat leads
    exact ⟨place, _, appends, leads, by rw [later]; rfl, put_extended inside⟩
  rw [append, change] at added ⊢
  split at added
  next place content found =>
    right
    refine added (by rw [found]; rfl) ?_
    rw [held, resolve_at found]
  next place found =>
    right
    refine added (by rw [found]; rfl) ?_
    simp [held, resolve_absent found, Content.append]
  all_goals
    next found => exact .inl ⟨by rw [found]; rfl, _, rfl⟩

end Tree

theorem run_append (path text : String) (t : Tree) :
    (Disk.append path text : OnTree _).run t = t.append path text := rfl

theorem run_after {α β : Type} {act : OnTree α} {next : α → OnTree β} {t middle : Tree} {a : α}
    (ran : act.run t = (a, middle)) : (act >>= next).run t = (next a).run middle := by
  rw [StateT.run_bind, ran]
  rfl

end Files

/-! ## The log -/

open Files (OnTree Tree Location)

variable {t t' : Tree}

namespace Log

theorem render_append (level : Level) (first second : List Event) :
    render level (first ++ second) = render level first ++ render level second := by
  simp [render, keep, String.join_append]

/-- The log got these events. If it has a file, they stand at its end; nothing else has changed. -/
def Logged (sink : Sink) (events : List Event) (t t' : Tree) : Prop :=
  match sink.file with
  | none => t' = t
  | some path => ∃ place, Tree.seat? (t.resolve path) = some place ∧
      Tree.seat? (t'.resolve path) = some place ∧ t.Extended place (render sink.level events) t'

/-- A log that cannot be set up leaves no file behind. -/
theorem setup_cases (level : String) (file : Option String) (t : Tree) :
    (∃ reason, (Sink.setup level file : OnTree _).run t = (.error reason, t)) ∨
      ∃ parsed t', Level.parse? level = some parsed ∧
        (Sink.setup level file : OnTree _).run t = (.ok ⟨parsed, file⟩, t') ∧
          Logged ⟨parsed, file⟩ [] t t' := by
  rw [Sink.setup]
  cases known : Level.parse? level with
  | none => exact .inl ⟨_, rfl⟩
  | some parsed =>
      cases file with
      | none => exact .inr ⟨parsed, t, rfl, rfl, rfl⟩
      | some path =>
          dsimp only
          rw [StateT.run_bind, Files.run_append]
          rcases t.append_cases path "" with ⟨_, reason, fails⟩ | ⟨place, t', added, logged⟩
          · rw [fails]
            exact .inl ⟨.file reason, rfl⟩
          · rw [added]
            exact .inr ⟨parsed, t', rfl, rfl, place, logged⟩

theorem emit_logged {sink : Sink} {events : List Event} {middle : Tree}
    (logged : Logged sink events t middle) (more : List Event) :
    ∃ console t', (sink.emit more : OnTree _).run middle = (console, t') ∧
      Logged sink (events ++ more) t t' := by
  obtain ⟨level, file⟩ := sink
  cases file with
  | none => exact ⟨_, _, rfl, logged⟩
  | some path =>
      obtain ⟨place, from', leads, first⟩ := logged
      rcases middle.append_cases path (render level more) with
        ⟨free, _⟩ | ⟨place', t', added, leads', still, second⟩
      · exact absurd (leads.symm.trans free) (by simp)
      · cases leads.symm.trans leads'
        refine ⟨"", t', ?_, place, from', still, ?_⟩
        · change ("", (middle.append path (render level more)).2) = ("", t')
          rw [added]
        · rw [render_append]
          exact first.trans second

end Log

/-! ## The run -/

namespace Settings

theorem run_loadOrStandard (env : Files.Environment) (path : Option String) (t : Tree) :
    ∃ result, (loadOrStandard env path : OnTree _).run t = (result, t) := by
  cases path with
  | some path => exact ⟨_, run_load⟩
  | none =>
      rw [loadOrStandard]
      cases defaultPath? env with
      | none => exact ⟨_, rfl⟩
      | some path =>
          dsimp only
          rw [StateT.run_bind, Files.run_fileExists]
          cases t.fileExists path with
          | true => exact ⟨_, run_load⟩
          | false => exact ⟨_, rfl⟩

end Settings

namespace Command

def Failure.OfServices : Failure → Prop
  | .services _ _ | .plan _ => True
  | .settings _ | .logging _ | .channel _ | .file _ | .alreadyExists _ => False

section

variable {env : Files.Environment} {given input output service : Option String} {write : Bool}
variable {settings : Settings} {middle : Tree} {outcome : Outcome}

theorem planAll_refused {options : GenerationOptions} {c : Catalogue} {selected : List Service}
    {s : Service} (chosen : Plan.select options c = .ok selected) (inside : s ∈ selected)
    (refused : ¬ Plan.Plannable options s) :
    ∃ reason, Plan.planAll options c = .error reason := by
  cases planned : Plan.planAll options c with
  | error reason => exact ⟨reason, rfl⟩
  | ok plans =>
      rw [Plan.planAll, chosen] at planned
      have made := (Plan.mapM_ok_iff ..).mp planned
      obtain ⟨i, bound, rfl⟩ := List.getElem_of_mem inside
      exact absurd
        ((Plan.planNamed_iff_plannable ..).mp (made.get bound (made.length_eq ▸ bound))).1 refused

theorem writePlans_failed {plans : List Plan} {failure : Failure}
    (ran : (writePlans settings output write plans : OnTree _).run t = (.error failure, t')) :
    ∃ reason, failure = .file reason := by
  unfold writePlans at ran
  cases write with
  | true =>
      rw [if_pos rfl] at ran
      obtain ⟨⟨result, after⟩, wrote⟩ :
        ∃ r, (Plan.writeToDirectory plans settings.codegen.outputDir : OnTree _).run t = r :=
          ⟨_, rfl⟩
      rw [Files.run_after wrote] at ran
      cases result with
      | error reason =>
          cases ran
          exact ⟨reason, rfl⟩
      | ok paths => cases ran
  | false =>
      rw [if_neg Bool.false_ne_true] at ran
      cases output with
      | none => cases ran
      | some path =>
          obtain ⟨⟨result, after⟩, wrote⟩ :
            ∃ r, (Plan.writeText path (Plan.renderAll plans) : OnTree _).run t = r := ⟨_, rfl⟩
          dsimp only at ran
          rw [Files.run_after wrote] at ran
          cases result with
          | error reason =>
              cases ran
              exact ⟨reason, rfl⟩
          | ok => cases ran

section Planning

variable {catalogue : Catalogue} {sink : Log.Sink}

theorem planServices_unloaded {reason : Catalogue.LoadFailure}
    (loaded : (Catalogue.load (input.getD settings.codegen.inputPath) : OnTree _).run t =
      (.error reason, t)) :
    (planServices settings sink input output write service : OnTree _).run t =
      (.failed (.services (input.getD settings.codegen.inputPath) reason), t) := by
  rw [planServices, Files.run_after loaded]
  rfl

theorem planServices_unplanned {reason : Plan.Error} {console : String}
    (loaded : (Catalogue.load (input.getD settings.codegen.inputPath) : OnTree _).run t =
      (.ok catalogue, t))
    (planned : Plan.planAll (settings.generation.restrict service) catalogue = .error reason)
    (emitted : (sink.emit
      (Plan.planAllLog (settings.generation.restrict service) catalogue) : OnTree _).run t =
      (console, t')) :
    (planServices settings sink input output write service : OnTree _).run t =
      (⟨.error (.plan reason), console⟩, t') := by
  rw [planServices, Files.run_after loaded]
  simp only [planned]
  rw [Files.run_after emitted]
  rfl

theorem planServices_planned {plans : List Plan} {console : String}
    {result : Except Failure String}
    (loaded : (Catalogue.load (input.getD settings.codegen.inputPath) : OnTree _).run t =
      (.ok catalogue, t))
    (planned : Plan.planAll (settings.generation.restrict service) catalogue = .ok plans)
    (emitted : (sink.emit (Plan.planAllLog (settings.generation.restrict service) catalogue ++
      [plannedEvent plans.length
        (input.getD settings.codegen.inputPath)]) : OnTree _).run t = (console, middle))
    (wrote : (writePlans settings output write plans : OnTree _).run middle = (result, t')) :
    (planServices settings sink input output write service : OnTree _).run t =
      (⟨result, console⟩, t') := by
  rw [planServices, Files.run_after loaded]
  simp only [planned]
  rw [Files.run_after emitted, Files.run_after wrote]
  rfl

theorem planServices_failed {failure : Failure} (opened : Log.Logged sink [] t middle)
    (ran : (planServices settings sink input output write service : OnTree _).run middle =
      (outcome, t')) (failed : outcome.result = .error failure) :
    (failure.OfServices ∧ ∃ events, Log.Logged sink events t t') ∨
      ∃ reason, failure = .file reason := by
  obtain ⟨result, loaded⟩ :
    ∃ result, (Catalogue.load (input.getD settings.codegen.inputPath) : OnTree _).run middle =
    (result, middle) := ⟨_, Catalogue.run_load⟩
  cases result with
  | error reason =>
      cases (planServices_unloaded loaded).symm.trans ran
      cases failed
      exact .inl ⟨trivial, [], opened⟩
  | ok catalogue =>
      cases planned : Plan.planAll (settings.generation.restrict service) catalogue with
      | error reason =>
          obtain ⟨console, final, emitted, logged⟩ :=
            Log.emit_logged opened
              (Plan.planAllLog (settings.generation.restrict service) catalogue)
          cases (planServices_unplanned loaded planned emitted).symm.trans ran
          cases failed
          exact .inl ⟨trivial, _, logged⟩
      | ok plans =>
          obtain ⟨⟨result, final⟩, wrote⟩ :
            ∃ r, (writePlans settings output write plans : OnTree _).run
            ((sink.emit (Plan.planAllLog (settings.generation.restrict service) catalogue ++
              [plannedEvent plans.length
                (input.getD settings.codegen.inputPath)]) : OnTree _).run middle).2 = r :=
            ⟨_, rfl⟩
          cases (planServices_planned loaded planned rfl wrote).symm.trans ran
          cases failed
          exact .inr (writePlans_failed wrote)

theorem planServices_refused {selected : List Service} {s : Service}
    (loaded : (Catalogue.load (input.getD settings.codegen.inputPath) : OnTree _).run t =
      (.ok catalogue, t))
    (chosen : Plan.select (settings.generation.restrict service) catalogue = .ok selected)
    (inside : s ∈ selected) (refused : ¬ Plan.Plannable (settings.generation.restrict service) s) :
    ∃ reason, ((planServices settings sink input output write service : OnTree _).run t).1.result =
      .error (.plan reason) := by
  obtain ⟨reason, planned⟩ := planAll_refused chosen inside refused
  exact ⟨reason, by rw [planServices_unplanned loaded planned rfl]⟩

end Planning

theorem run_plan_cases
    (ran : (run env ⟨given, .plan input output write service⟩ : OnTree _).run t = (outcome, t')) :
    (∃ reason, (Settings.loadOrStandard env given : OnTree _).run t = (.error reason, t) ∧
      outcome = .failed (.settings reason) ∧ t' = t) ∨
    ∃ settings, (Settings.loadOrStandard env given : OnTree _).run t = (.ok settings, t) ∧
      ((∃ reason, (Log.Sink.setup settings.logging.level settings.logging.file : OnTree _).run t =
        (.error reason, t) ∧
        outcome = .failed (.logging reason) ∧ t' = t) ∨
      ∃ level middle, Log.Level.parse? settings.logging.level = some level ∧
        (Log.Sink.setup settings.logging.level settings.logging.file : OnTree _).run t =
          (.ok ⟨level, settings.logging.file⟩, middle) ∧
        Log.Logged ⟨level, settings.logging.file⟩ [] t middle ∧
        (planServices settings
          ⟨level, settings.logging.file⟩ input output write service : OnTree _).run middle =
          (outcome, t')) := by
  change (withSettings env given fun settings sink =>
    planServices settings sink input output write service : OnTree _).run t = _ at ran
  obtain ⟨result, loaded⟩ := Settings.run_loadOrStandard env given t
  rw [withSettings, Files.run_after loaded] at ran
  cases result with
  | error reason =>
      cases ran
      exact .inl ⟨reason, loaded, rfl, rfl⟩
  | ok settings =>
      refine .inr ⟨settings, loaded, ?_⟩
      dsimp only at ran
      rcases Log.setup_cases settings.logging.level settings.logging.file t with
        ⟨reason, fails⟩ | ⟨level, middle, known, sets, logged⟩
      · rw [Files.run_after fails] at ran
        cases ran
        exact .inl ⟨reason, fails, rfl, rfl⟩
      · rw [Files.run_after sets] at ran
        exact .inr ⟨level, middle, known, sets, logged, ran⟩

/-- A run of the planner that ends before it has all its plans changes nothing, apart from log lines
at the end of the log file if there is one; and not even these if the settings cannot be loaded or
the log cannot be set up. It does end so if any of the selected services has no plan, wherever that
one stands. -/
theorem failed_run_writes_no_plan
    (ran : (run env ⟨given, .plan input output write service⟩ : OnTree _).run t = (outcome, t')) :
    (∀ reason, outcome.result = .error (.settings reason) → t' = t) ∧
    (∀ reason, outcome.result = .error (.logging reason) → t' = t) ∧
    (∀ failure, outcome.result = .error failure → failure.OfServices → ∃ settings level events,
      (Settings.loadOrStandard env given : OnTree _).run t = (.ok settings, t) ∧
        Log.Level.parse? settings.logging.level = some level ∧
          Log.Logged ⟨level, settings.logging.file⟩ events t t') ∧
    ∀ settings sink middle catalogue selected s,
      (Settings.loadOrStandard env given : OnTree _).run t = (.ok settings, t) →
      (Log.Sink.setup settings.logging.level settings.logging.file : OnTree _).run t =
        (.ok sink, middle) →
      (Catalogue.load (input.getD settings.codegen.inputPath) : OnTree _).run middle =
        (.ok catalogue, middle) →
      Plan.select (settings.generation.restrict service) catalogue = .ok selected → s ∈ selected →
      ¬ Plan.Plannable (settings.generation.restrict service) s →
        ∃ reason, outcome.result = .error (.plan reason) := by
  rcases run_plan_cases ran with
    ⟨reason, loaded, rfl, rfl⟩ |
    ⟨settings, loaded, ⟨reason, fails, rfl, rfl⟩ | ⟨level, middle, known, sets, logged, plans⟩⟩
  · refine ⟨fun _ _ => rfl, fun _ _ => rfl, fun failure failed early => ?_, ?_⟩
    · cases failed
      exact early.elim
    · intro _ _ _ _ _ _ others
      cases loaded.symm.trans others
  · refine ⟨fun _ _ => rfl, fun _ _ => rfl, fun failure failed early => ?_, ?_⟩
    · cases failed
      exact early.elim
    · intro _ _ _ _ _ _ others set
      cases loaded.symm.trans others
      cases fails.symm.trans set
  · have fails {failure : Failure} (failed : outcome.result = .error failure) :=
      planServices_failed logged plans failed
    refine ⟨fun reason failed => ?_, fun reason failed => ?_, fun failure failed early => ?_, ?_⟩
    · rcases fails failed with ⟨other, _⟩ | ⟨_, other⟩
      · exact other.elim
      · cases other
    · rcases fails failed with ⟨other, _⟩ | ⟨_, other⟩
      · exact other.elim
      · cases other
    · rcases fails failed with ⟨_, events, logged⟩ | ⟨_, rfl⟩
      · exact ⟨settings, level, events, loaded, known, logged⟩
      · exact early.elim
    · intro _ _ _ _ _ _ others set read chosen inside refused
      cases loaded.symm.trans others
      cases sets.symm.trans set
      obtain ⟨reason, failed⟩ := planServices_refused read chosen inside refused
      rw [plans] at failed
      exact ⟨reason, failed⟩

end

/-! Two services, of which only the first has a plan, with a log of all details. -/

def deskSettings : Settings := ⟨⟨"trace", some "run.log"⟩, .standard, ⟨"ir.json", "out"⟩⟩

def deskServices : Catalogue := .ofServices [.named "IDepot" [.named "Open" [] none], .named " " []]

def deskRequest : Request := ⟨some "steward.toml", .plan none none true none⟩

section

variable (settings services : String)

def desk : Tree :=
  ⟨[], [(["steward.toml"], .file (.text settings)), (["ir.json"], .file (.text services))]⟩

def openedDesk : Tree := (desk settings services).put ["run.log"] (.file (.text ""))

theorem desk_setup :
    (Log.Sink.setup "trace" (some "run.log") : OnTree _).run (desk settings services) =
    (.ok ⟨.trace, some "run.log"⟩, openedDesk settings services) := rfl

theorem desk_loads : (Settings.loadOrStandard ⟨none, none⟩ (some "steward.toml") : OnTree _).run
    (desk settings services) =
      ((Settings.parse settings).mapError .content, desk settings services) := by
  have there : (desk settings services).fileExists "steward.toml" = true := rfl
  have text : (desk settings services).readText "steward.toml" = .ok settings := rfl
  change (Settings.load "steward.toml" : OnTree _).run _ = _
  rw [Settings.run_load, there, text]
  rfl

theorem openedDesk_loads :
    (Catalogue.load "ir.json" : OnTree _).run (openedDesk settings services) =
    ((Catalogue.parse services).mapError .content, openedDesk settings services) := by
  have text : (openedDesk settings services).readText "ir.json" = .ok services := rfl
  rw [Catalogue.run_load, text]
  rfl

end

/-- The first plan is not written either. -/
theorem second_service_refused :
    parse ["plan", "--config", "steward.toml", "--write"] = .ok deskRequest ∧
      ∃ outcome t',
        (run ⟨none, none⟩ deskRequest : OnTree _).run
          (desk deskSettings.render deskServices.render) = (outcome, t') ∧
        (∃ reason, outcome.result = .error (.plan reason)) ∧
          ∃ level events,
            Log.Logged ⟨level, some "run.log"⟩ events
              (desk deskSettings.render deskServices.render) t' := by
  obtain ⟨⟨outcome, t'⟩, ran⟩ : ∃ r, (run ⟨none, none⟩ deskRequest : OnTree _).run
    (desk deskSettings.render deskServices.render) = r := ⟨_, rfl⟩
  obtain ⟨_, _, logs, fails⟩ := failed_run_writes_no_plan ran
  have loads := desk_loads deskSettings.render deskServices.render
  have reads := openedDesk_loads deskSettings.render deskServices.render
  rw [Settings.parse_render] at loads
  rw [Catalogue.parse_render] at reads
  have refused : ¬ Plan.Plannable .standard (.named " " []) :=
    fun plannable => plannable.named (by decide)
  obtain ⟨reason, failed⟩ :=
    fails _ _ _ _ _ _ loads (desk_setup ..) reads rfl (.tail _ (.head _)) refused
  obtain ⟨settings, level, events, loaded, _, logged⟩ := logs _ failed trivial
  cases loads.symm.trans loaded
  exact ⟨by decide +kernel, outcome, t', ran, ⟨reason, failed⟩, level, events, logged⟩

end Command

end RemoteClient
