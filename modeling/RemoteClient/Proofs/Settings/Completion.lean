import RemoteClient.Proofs.Settings.Documents
import RemoteClient.Proofs.Toml.Reading
import RemoteClient.Proofs.Toml.Records

namespace RemoteClient

open Decode (Agrees Lawful)
open Toml (Bare Document Entries Entry Lacks Lines Sized Statement States Suits Value field_isSet
  field_read field_suits)

def Present (text : Option String) (v : Value) : Prop :=
  ∃ present, text = some present ∧ v = .text present

/-- A name, alone or as the only key of a table with nothing in it. -/
inductive Named (name : String) : Value → Prop
  | alone : Named name (.text name)
  | key {kind : Toml.TableKind} {v : Value} (nothing : v.decodeNothing = .ok ()) :
      Named name (.table kind [(name, v)])

theorem Named.decode {visibility : Visibility} {v : Value} (named : Named visibility.name v) :
    Visibility.decode v = .ok visibility := by
  have known : Value.decodeName (Visibility.all.map fun v => (v.name, v)) visibility.name =
      .ok visibility := by
    cases visibility <;> rfl
  cases named with
  | alone => exact known
  | key nothing =>
      simp [Visibility.decode, Value.decodeVariant, known, nothing, bind, Except.bind, pure,
      Except.pure]

namespace LoggingSettings

def entries (l : LoggingSettings) : List Entry :=
  [⟨"level", (· = .text l.level), False⟩, ⟨"file", Present l.file, l.file = none⟩]

theorem lawful : Lawful loggingRecord ⟨none, none⟩ where
  distinct := by decide
  unset := by simp [loggingRecord]
  sets := by simp +contextual [loggingRecord, field_read]

end LoggingSettings

namespace GenerationOptions

def entries (g : GenerationOptions) : List Entry :=
  [⟨"source_interface_name", Present g.sourceInterface,
    g.sourceInterface = standard.sourceInterface⟩,
    ⟨"client_name", Present g.clientName, g.clientName = standard.clientName⟩,
    ⟨"suppress_async_methods", (· = .bool g.suppressAsync),
      g.suppressAsync = standard.suppressAsync⟩,
    ⟨"suppress_warning_comments", (· = .bool g.suppressWarnings),
      g.suppressWarnings = standard.suppressWarnings⟩,
    ⟨"wrapper", (· = .bool g.wrapper), g.wrapper = standard.wrapper⟩,
    ⟨"include_cancellable_async", (· = .bool g.includeCancellable),
      g.includeCancellable = standard.includeCancellable⟩,
    ⟨"constructor_visibility", Named g.visibility.name, g.visibility = standard.visibility⟩]

theorem lawful : Lawful generationRecord ⟨none, none, none, none, none, none, none⟩ where
  distinct := by decide
  unset := by simp [generationRecord]
  sets := by simp +contextual [generationRecord, field_read, -Bool.exists_bool, -Bool.forall_bool]

end GenerationOptions

namespace CodegenSettings

def entries (c : CodegenSettings) : List Entry :=
  [⟨"input_path", (· = .text c.inputPath), False⟩, ⟨"output_dir", (· = .text c.outputDir), False⟩]

theorem lawful : Lawful codegenRecord ⟨none, none⟩ where
  distinct := by decide
  unset := by simp [codegenRecord]
  sets := by simp +contextual [codegenRecord, field_read]

end CodegenSettings

namespace Settings

/-- What a document may say of the settings. It leaves out no part that is not standard. -/
def stated (s : Settings) : List Entry :=
  [⟨"logging", States s.logging.entries, s.logging = .standard⟩,
    ⟨"generation", States s.generation.entries, s.generation = .standard⟩,
    ⟨"codegen", States s.codegen.entries, False⟩]

theorem lawful : Lawful record ⟨none, none, none⟩ where
  distinct := by decide
  unset := by simp [record]
  sets := by simp +contextual [record, field_read]

variable {root : Entries} {s : Settings}

variable {text : String}

section

open Files (OnTree Tree)

def heading (name : String) : List Char := '[' :: name.toList ++ [']', '\n']

def quiet : List Char :=
  heading "logging" ++ (textLine "file" "log").toList ++ heading "codegen" ++
    (textLine "input_path" "in.json").toList ++ (textLine "output_dir" "out").toList

def holding (text : List Char) : Tree :=
  ⟨[], [(["steward.toml"], .file (.text (String.ofList text)))]⟩

end

end Settings

end RemoteClient
