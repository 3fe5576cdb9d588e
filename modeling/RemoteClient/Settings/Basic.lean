namespace RemoteClient

inductive Visibility where
  | everywhere
  | subclasses
  | assembly
  | selfOnly
  | subclassesAndAssembly
  deriving DecidableEq, Repr

namespace Visibility

def all : List Visibility :=
  [.everywhere, .subclasses, .assembly, .selfOnly, .subclassesAndAssembly]

def name : Visibility → String
  | .everywhere => "public"
  | .subclasses => "protected"
  | .assembly => "internal"
  | .selfOnly => "private"
  | .subclassesAndAssembly => "protected_internal"

def keyword : Visibility → String
  | .subclassesAndAssembly => "protected internal"
  | v => v.name

def ofName? (name : String) : Option Visibility := all.find? (·.name == name)

end Visibility

/-- `sourceInterface` restricts a run to one service; `clientName` overrides a derived type name. -/
structure GenerationOptions where
  sourceInterface : Option String
  clientName : Option String
  suppressAsync : Bool
  suppressWarnings : Bool
  wrapper : Bool
  includeCancellable : Bool
  visibility : Visibility
  deriving DecidableEq, Repr

structure LoggingSettings where
  level : String
  file : Option String
  deriving DecidableEq, Repr

structure CodegenSettings where
  inputPath : String
  outputDir : String
  deriving DecidableEq, Repr

structure Settings where
  logging : LoggingSettings
  generation : GenerationOptions
  codegen : CodegenSettings
  deriving DecidableEq, Repr

namespace GenerationOptions

def standard : GenerationOptions :=
  { sourceInterface := none, clientName := none, suppressAsync := false, suppressWarnings := false,
    wrapper := true, includeCancellable := true, visibility := .everywhere }

end GenerationOptions

namespace LoggingSettings

def standard : LoggingSettings := ⟨"info", none⟩

end LoggingSettings

namespace Settings

def standard : Settings := ⟨.standard, .standard, ⟨"services.ir.json", "generated"⟩⟩

end Settings

end RemoteClient
