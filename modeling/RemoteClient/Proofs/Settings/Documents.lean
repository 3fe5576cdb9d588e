import Mathlib.Tactic.Convert
import RemoteClient.Proofs.Files.Writing
import RemoteClient.Proofs.Toml.Lines
import RemoteClient.Settings.File

namespace RemoteClient.Settings

open Toml (Bare Entries Lines Statement Value)

section

variable {key : String}

theorem textLine_lines (bare : Bare key) (value : String) :
    Lines (textLine key value).toList [.assign [key] (.text value)] := by
  simpa [textLine, line] using Lines.assign bare (Toml.stands_text value)

theorem flagLine_lines (bare : Bare key) (value : Bool) :
    Lines (flagLine key value).toList [.assign [key] (.bool value)] := by
  simpa [flagLine, line] using Lines.assign bare (Toml.stands_flag value)

def optionalAssign (key : String) (value : Option String) : List Statement :=
  value.toList.map fun present => .assign [key] (.text present)

theorem optionalLine_lines (bare : Bare key) (value : Option String) :
    Lines (optionalLine key value).toList (optionalAssign key value) := by
  cases value with
  | none => exact .none
  | some present => exact textLine_lines bare present

end

def loggingStatements (l : LoggingSettings) : List Statement :=
  .assign ["level"] (.text l.level) :: optionalAssign "file" l.file

def generationStatements (g : GenerationOptions) : List Statement :=
  optionalAssign "source_interface_name" g.sourceInterface ++
    optionalAssign "client_name" g.clientName
    ++ [.assign ["suppress_async_methods"] (.bool g.suppressAsync),
      .assign ["suppress_warning_comments"] (.bool g.suppressWarnings),
      .assign ["wrapper"] (.bool g.wrapper),
      .assign ["include_cancellable_async"] (.bool g.includeCancellable),
      .assign ["constructor_visibility"] (.text g.visibility.name)]

def codegenStatements (c : CodegenSettings) : List Statement :=
  [.assign ["input_path"] (.text c.inputPath), .assign ["output_dir"] (.text c.outputDir)]

def statements (s : Settings) : List Statement :=
  .header ["logging"] :: loggingStatements s.logging
    ++ .header ["generation"] :: generationStatements s.generation
    ++ .header ["codegen"] :: codegenStatements s.codegen

def names : List String :=
  ["logging", "level", "file", "generation", "source_interface_name", "client_name",
    "suppress_async_methods", "suppress_warning_comments", "wrapper", "include_cancellable_async",
    "constructor_visibility", "codegen", "input_path", "output_dir"]

theorem names_bare : ∀ key ∈ names, Bare key := by
  have each : names.all fun key => !key.toList.isEmpty && key.toList.all Toml.isBare := by
    decide +kernel
  intro key known
  have bare := List.all_eq_true.mp each key known
  simp only [Bool.and_eq_true, Bool.not_eq_true', List.isEmpty_eq_false_iff,
    List.all_eq_true] at bare
  exact ⟨bare.1, bare.2⟩

theorem render_lines (s : Settings) : Lines s.render.toList s.statements := by
  have bare := names_bare
  simp only [names, List.forall_mem_cons] at bare
  obtain ⟨logging, level, file, generation, source, client, async, warnings, wrapper, cancellable,
    visibility, codegen, input, output, _⟩ := bare
  have first : Lines "[logging]\n".toList [.header ["logging"]] := .header logging
  have second : Lines "\n[generation]\n".toList [.header ["generation"]] :=
    Lines.blank.append (.header generation)
  have third : Lines "\n[codegen]\n".toList [.header ["codegen"]] :=
    Lines.blank.append (.header codegen)
  have whole := first.append (textLine_lines level s.logging.level)
    |>.append (optionalLine_lines file s.logging.file)
    |>.append second
    |>.append (optionalLine_lines source s.generation.sourceInterface)
    |>.append (optionalLine_lines client s.generation.clientName)
    |>.append (flagLine_lines async s.generation.suppressAsync)
    |>.append (flagLine_lines warnings s.generation.suppressWarnings)
    |>.append (flagLine_lines wrapper s.generation.wrapper)
    |>.append (flagLine_lines cancellable s.generation.includeCancellable)
    |>.append (textLine_lines visibility s.generation.visibility.name)
    |>.append third
    |>.append (textLine_lines input s.codegen.inputPath)
    |>.append (textLine_lines output s.codegen.outputDir)
  unfold render
  simp only [← String.toList_append] at whole
  convert whole using 1
  simp only [statements, loggingStatements, generationStatements, codegenStatements,
    List.append_assoc, List.cons_append, List.nil_append]

def optionalEntry (key : String) (value : Option String) : Entries :=
  value.toList.map fun present => (key, .text present)

def loggingEntries (l : LoggingSettings) : Entries :=
  optionalEntry "file" l.file ++ [("level", .text l.level)]

def generationEntries (g : GenerationOptions) : Entries :=
  optionalEntry "client_name" g.clientName
    ++ [("constructor_visibility", .text g.visibility.name),
      ("include_cancellable_async", .bool g.includeCancellable)]
    ++ optionalEntry "source_interface_name" g.sourceInterface
    ++ [("suppress_async_methods", .bool g.suppressAsync),
      ("suppress_warning_comments", .bool g.suppressWarnings), ("wrapper", .bool g.wrapper)]

def codegenEntries (c : CodegenSettings) : Entries :=
  [("input_path", .text c.inputPath), ("output_dir", .text c.outputDir)]

def entries (s : Settings) : Entries :=
  [("codegen", .table .header (codegenEntries s.codegen)),
    ("generation", .table .header (generationEntries s.generation)),
    ("logging", .table .header (loggingEntries s.logging))]

section

variable (root : Entries) (place : Toml.Section)

theorem add_assign (current : Entries) (key : String) (value : Value) (rest : List Statement) :
    Toml.Collection.addAll? ⟨root, current, place⟩ (.assign [key] value :: rest) =
      if (current.lookup key).isSome then none
      else Toml.Collection.addAll? ⟨root, current.put key value, place⟩ rest := by
  by_cases taken : (current.lookup key).isSome <;>
    simp [Toml.Collection.addAll?, Toml.Collection.add?, Toml.splitLast, Toml.descend, Toml.assign?,
      Toml.Entries.insert?, taken]

theorem add_nothing (current : Entries) :
    Toml.Collection.addAll? ⟨root, current, place⟩ [] = some ⟨root, current, place⟩ := rfl

theorem add_logging (l : LoggingSettings) :
    Toml.Collection.addAll? ⟨root, [], place⟩ (loggingStatements l) =
      some ⟨root, loggingEntries l, place⟩ := by
  obtain ⟨level, file⟩ := l
  cases file <;>
    simp only [loggingStatements, optionalAssign, loggingEntries, optionalEntry, Option.toList_none,
      Option.toList_some, List.map_nil, List.map_cons, List.nil_append, List.cons_append,
        add_assign, add_nothing,
      Toml.Entries.put, List.lookup_nil, List.lookup_cons, String.reduceLT, String.reduceEq,
        String.reduceBEq,
      Option.isSome_none, Bool.false_eq_true, reduceIte]

theorem add_generation (g : GenerationOptions) :
    Toml.Collection.addAll? ⟨root, [], place⟩ (generationStatements g)
      = some ⟨root, generationEntries g, place⟩ := by
  obtain ⟨source, client, async, warnings, wrapper, cancellable, visibility⟩ := g
  cases source <;> cases client <;>
    simp only [generationStatements, optionalAssign, generationEntries, optionalEntry,
      Option.toList_none, Option.toList_some, List.map_nil, List.map_cons, List.nil_append,
      List.cons_append, add_assign, add_nothing, Toml.Entries.put, List.lookup_nil,
      List.lookup_cons, String.reduceLT, String.reduceEq, String.reduceBEq, Option.isSome_none,
      Bool.false_eq_true, reduceIte]

theorem add_codegen (c : CodegenSettings) :
    Toml.Collection.addAll? ⟨root, [], place⟩ (codegenStatements c) =
      some ⟨root, codegenEntries c, place⟩ := by
  simp only [codegenStatements, codegenEntries, add_assign, add_nothing, Toml.Entries.put,
    List.lookup_nil, List.lookup_cons, String.reduceLT, String.reduceEq, String.reduceBEq,
    Option.isSome_none, Bool.false_eq_true, reduceIte]

end

theorem addAll_append (c : Toml.Collection) (first second : List Statement) :
    c.addAll? (first ++ second) = (c.addAll? first).bind (·.addAll? second) := by
  induction first generalizing c with
  | nil => rfl
  | cons statement first ih => 
      simp only [List.cons_append, Toml.Collection.addAll?, Option.bind_eq_bind, ih,
        Option.bind_assoc]

theorem collect_statements (s : Settings) : Toml.collect? s.statements = some s.entries := by
  simp only [Toml.collect?, statements, entries, List.cons_append, List.append_assoc, addAll_append,
    Toml.Collection.start, Toml.Collection.addAll?, Toml.Collection.add?, Toml.Collection.open?,
    Toml.Collection.takeImplied, Toml.Collection.finish, Toml.splitLast, Toml.descend, add_logging,
      add_generation,
    add_codegen, Toml.Entries.insert?, Toml.Entries.put, List.lookup_nil, List.lookup_cons,
      String.reduceLT,
    String.reduceEq, String.reduceBEq, Option.isSome_none, Bool.false_eq_true, reduceIte,
      Option.pure_def,
    Option.bind_eq_bind, Option.bind_some, Option.map_some]

theorem decode_logging (l : LoggingSettings) :
    LoggingSettings.decode (.table .header (loggingEntries l)) = .ok l := by
  obtain ⟨level, file⟩ := l
  cases file <;>
    simp [LoggingSettings.decode, loggingEntries, optionalEntry, Value.decodeRecord,
      Value.decodeEntries, loggingRecord, Decode.Record.field?, Decode.Record.missing?, Toml.field,
      Value.decodeText, Value.decodePath, bind, Except.bind, pure, Except.pure, Except.map]

theorem decode_visibility (v : Visibility) : Visibility.decode (.text v.name) = .ok v := by
  cases v <;> rfl

theorem decode_generation (g : GenerationOptions) :
    GenerationOptions.decode (.table .header (generationEntries g)) = .ok g := by
  obtain ⟨source, client, async, warnings, wrapper, cancellable, visibility⟩ := g
  cases source <;> cases client <;>
    simp [GenerationOptions.decode, generationEntries, optionalEntry, Value.decodeRecord,
      Value.decodeEntries, generationRecord, Decode.Record.field?, Decode.Record.missing?,
      Toml.field, Value.decodeText, Value.decodeBool, decode_visibility, GenerationOptions.ofDraft,
      GenerationOptions.standard, bind, Except.bind, pure, Except.pure, Except.map]

theorem decode_codegen (c : CodegenSettings) :
    CodegenSettings.decode (.table .header (codegenEntries c)) = .ok c := by
  simp [CodegenSettings.decode, codegenEntries, Value.decodeRecord, Value.decodeEntries,
    codegenRecord, Decode.Record.field?, Decode.Record.missing?, Toml.field, Value.decodePath, bind,
    Except.bind, pure, Except.pure, Except.map]

theorem decode_entries (s : Settings) :
    Value.decodeEntries record ⟨none, none, none⟩ s.entries
      = .ok ⟨some s.logging, some s.generation, some s.codegen⟩ := by
  simp [entries, Value.decodeEntries, record, Decode.Record.field?, Decode.Record.missing?,
    Toml.field, decode_logging, decode_generation, decode_codegen, bind, Except.bind, Except.map]

theorem parse_render (s : Settings) : parse s.render = .ok s := by
  have lines := s.render_lines
  obtain ⟨more, shape⟩ : ∃ more, s.render.toList = '[' :: more := by
    unfold render
    simp
  rw [shape] at lines
  have read := lines.read (by decide)
  rw [collect_statements, ← shape] at read
  simp [parse, read, decode_entries, ofDraft, pure, Except.pure]

section

open Files (OnTree Tree)

variable {t t' : Tree} {path : String} {s : Settings}

theorem save_writes (saved : (s.save path : OnTree _).run t = (.ok (), t')) :
    t.write path s.render = (.ok (), t') := by
  rw [save, StateT.run_bind, Files.run_write] at saved
  cases written : t.write path s.render with
  | mk result after =>
      rw [written] at saved
      cases result with
      | error reason => exact absurd (Prod.mk.inj saved).1 (by simp [Except.mapError])
      | ok => exact congrArg _ (Prod.mk.inj saved).2

theorem run_load : (load path : OnTree _).run t
    = (if t.fileExists path then (t.readText path).mapError .file >>= fun text =>
      (parse text).mapError .content
      else .error (.notFound path), t) := by
  rw [load, StateT.run_bind, Files.run_fileExists]
  cases t.fileExists path with
  | false => rfl
  | true =>
      change StateT.run (if true then _ else _) t = _
      rw [if_pos rfl, StateT.run_bind, Files.run_readText]
      cases t.readText path <;> rfl

/-- Settings that were saved are loaded from the same path. -/
theorem saved_settings_load (saved : (s.save path : OnTree _).run t = (.ok (), t')) :
    (load path : OnTree _).run t' = (.ok s, t') := by
  have written := save_writes saved
  rw [run_load, Tree.fileExists_written written, Tree.readText_written written]
  simp [Except.mapError, bind, Except.bind, parse_render]

/-- Settings with texts that need each of the four kinds of quotes. -/
def sample : Settings :=
  { logging := ⟨"say \"hi\"", some "C:\\log"⟩
    generation := { GenerationOptions.standard with
      sourceInterface := some "'\"\"\"'\n", clientName := some "\nfirst\x07\x7f\n", visibility :=
        .selfOnly }
    codegen := ⟨"", "it's \"here\""⟩ }

def sampled : Tree := ⟨[], [(["steward.toml"], .file (.text sample.render))]⟩

theorem saved_sample_settings_load :
    (sample.save "steward.toml" : OnTree _).run ⟨[], []⟩ = (.ok (), sampled) ∧
      (load "steward.toml" : OnTree _).run sampled = (.ok sample, sampled) := by
  have saved : (sample.save "steward.toml" : OnTree _).run ⟨[], []⟩ = (.ok (), sampled) := rfl
  exact ⟨saved, saved_settings_load saved⟩

end

end RemoteClient.Settings
