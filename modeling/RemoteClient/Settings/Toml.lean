import RemoteClient.Settings.Basic
import RemoteClient.Toml.Decoder
import RemoteClient.Toml.Printer
import RemoteClient.Toml.Reader

/-!
Settings files. Only the section with the input and output paths must be there; what other sections
leave out is filled in from the standard settings.
-/

namespace RemoteClient

open Decode (Mismatch Record)
open Toml (DecodeError Value field)

def Visibility.decode : Value → Toml.Decoded Visibility :=
  Value.decodeVariant (Visibility.all.map fun v => (v.name, v))

structure LoggingDraft where
  level : Option String
  file : Option String

def loggingRecord : Record Value DecodeError LoggingDraft where
  kind := "LoggingConfig"
  fields :=
    [ field "level" .required (·.level) (fun x s => { s with level := some x }) Value.decodeText,
      field "file" .absentInTable (·.file) (fun x s => { s with file := some x }) Value.decodePath ]

def LoggingSettings.decode (v : Value) : Toml.Decoded LoggingSettings := do
  let draft ← v.decodeRecord loggingRecord ⟨none, none⟩
  return ⟨draft.level.getD "", draft.file⟩

structure GenerationDraft where
  sourceInterface : Option String
  clientName : Option String
  suppressAsync : Option Bool
  suppressWarnings : Option Bool
  wrapper : Option Bool
  includeCancellable : Option Bool
  visibility : Option Visibility

def generationRecord : Record Value DecodeError GenerationDraft where
  kind := "GenerationOptions"
  fields :=
    [ field "source_interface_name" .defaulted (·.sourceInterface)
        (fun x s => { s with sourceInterface := some x }) Value.decodeText,
      field "client_name" .defaulted (·.clientName) (fun x s => { s with clientName := some x })
        Value.decodeText,
      field "suppress_async_methods" .defaulted (·.suppressAsync)
        (fun x s => { s with suppressAsync := some x }) Value.decodeBool,
      field "suppress_warning_comments" .defaulted (·.suppressWarnings)
        (fun x s => { s with suppressWarnings := some x }) Value.decodeBool,
      field "wrapper" .defaulted (·.wrapper) (fun x s => { s with wrapper := some x })
        Value.decodeBool,
      field "include_cancellable_async" .defaulted (·.includeCancellable)
        (fun x s => { s with includeCancellable := some x }) Value.decodeBool,
      field "constructor_visibility" .defaulted (·.visibility)
        (fun x s => { s with visibility := some x }) Visibility.decode ]

namespace GenerationOptions

def ofDraft (draft : GenerationDraft) : GenerationOptions :=
  { sourceInterface := draft.sourceInterface.or standard.sourceInterface
    clientName := draft.clientName.or standard.clientName
    suppressAsync := draft.suppressAsync.getD standard.suppressAsync
    suppressWarnings := draft.suppressWarnings.getD standard.suppressWarnings
    wrapper := draft.wrapper.getD standard.wrapper
    includeCancellable := draft.includeCancellable.getD standard.includeCancellable
    visibility := draft.visibility.getD standard.visibility }

def decode (v : Value) : Toml.Decoded GenerationOptions := do
  return ofDraft (← v.decodeRecord generationRecord ⟨none, none, none, none, none, none, none⟩)

end GenerationOptions

structure CodegenDraft where
  inputPath : Option String
  outputDir : Option String

def codegenRecord : Record Value DecodeError CodegenDraft where
  kind := "CodegenConfig"
  fields :=
    [ field "input_path" .required (·.inputPath) (fun x s => { s with inputPath := some x })
        Value.decodePath,
      field "output_dir" .required (·.outputDir) (fun x s => { s with outputDir := some x })
        Value.decodePath ]

def CodegenSettings.decode (v : Value) : Toml.Decoded CodegenSettings := do
  let draft ← v.decodeRecord codegenRecord ⟨none, none⟩
  return ⟨draft.inputPath.getD "", draft.outputDir.getD ""⟩

namespace Settings

structure Draft where
  logging : Option LoggingSettings
  generation : Option GenerationOptions
  codegen : Option CodegenSettings

def record : Record Value DecodeError Draft where
  kind := "Config"
  fields :=
    [ field "logging" .defaulted (·.logging) (fun x s => { s with logging := some x })
        LoggingSettings.decode,
      field "generation" .defaulted (·.generation) (fun x s => { s with generation := some x })
        GenerationOptions.decode,
      field "codegen" .required (·.codegen) (fun x s => { s with codegen := some x })
        CodegenSettings.decode ]

def ofDraft (draft : Draft) : Settings :=
  { logging := draft.logging.getD standard.logging
    generation := draft.generation.getD standard.generation
    codegen := draft.codegen.getD standard.codegen }

inductive ParseError where
  | malformed
  | mismatch (problem : Mismatch)
  deriving DecidableEq, Repr

/-- Numbers that do not fit into 64 bits are no TOML, but go unnoticed in a text that holds
settings. -/
def parse (text : String) : Except ParseError Settings := do
  match Toml.read? text.toList with
  | none => throw .malformed
  | some entries =>
    match Value.decodeEntries record ⟨none, none, none⟩ entries with
    | .ok draft => return ofDraft draft
    | .error .outOfRange => throw .malformed
    | .error (.mismatch problem) =>
      if (Value.table .header entries).holds Value.isOversized then throw .malformed
      else throw (.mismatch problem)

def line (key value : String) : String := key ++ " = " ++ value ++ "\n"

def textLine (key value : String) : String := line key (Toml.quote value)

def optionalLine (key : String) : Option String → String
  | some value => textLine key value
  | none => ""

def flagLine (key : String) (value : Bool) : String := line key (if value then "true" else "false")

def render (s : Settings) : String :=
  "[logging]\n" ++ textLine "level" s.logging.level ++ optionalLine "file" s.logging.file
    ++ "\n[generation]\n"
    ++ optionalLine "source_interface_name" s.generation.sourceInterface
    ++ optionalLine "client_name" s.generation.clientName
    ++ flagLine "suppress_async_methods" s.generation.suppressAsync
    ++ flagLine "suppress_warning_comments" s.generation.suppressWarnings
    ++ flagLine "wrapper" s.generation.wrapper
    ++ flagLine "include_cancellable_async" s.generation.includeCancellable
    ++ textLine "constructor_visibility" s.generation.visibility.name
    ++ "\n[codegen]\n" ++ textLine "input_path" s.codegen.inputPath
    ++ textLine "output_dir" s.codegen.outputDir

end Settings

end RemoteClient
