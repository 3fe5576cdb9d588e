import RemoteClient.Files.Disk
import RemoteClient.Json.Decoder
import RemoteClient.Service.Basic

namespace RemoteClient

open Decode (Record)
open Json (DecodeError Decoded Source field)

namespace Service

structure ParameterDraft where
  name : Option String
  typeName : Option String

def parameterRecord : Record Source DecodeError ParameterDraft where
  kind := "ParamDef"
  fields :=
    [ field "name" .required (·.name) (fun x s => { s with name := some x }) Source.decodeText,
      field "type_name" .required (·.typeName) (fun x s => { s with typeName := some x })
        Source.decodeText ]

def Parameter.decode (v : Source) : Decoded Parameter := do
  let draft ← v.decodeRecord parameterRecord ⟨none, none⟩
  return ⟨draft.name.getD "", draft.typeName.getD ""⟩

structure OperationDraft where
  name : Option String
  description : Option String
  parameters : Option (List Parameter)
  returnType : Option (Option String)
  emitSync : Option Bool
  emitAsync : Option Bool

def operationRecord : Record Source DecodeError OperationDraft where
  kind := "OperationDef"
  fields :=
    [ field "name" .required (·.name) (fun x s => { s with name := some x }) Source.decodeText,
      field "description" .defaulted (·.description) (fun x s => { s with description := some x })
        Source.decodeText,
      field "params" .defaulted (·.parameters) (fun x s => { s with parameters := some x })
        (Source.decodeList Parameter.decode),
      field "return_type" .defaulted (·.returnType) (fun x s => { s with returnType := some x })
        (Source.decodeOption Source.decodeText),
      field "emit_sync" .defaulted (·.emitSync) (fun x s => { s with emitSync := some x })
        Source.decodeBool,
      field "emit_async" .defaulted (·.emitAsync) (fun x s => { s with emitAsync := some x })
        Source.decodeBool ]

def Operation.decode (v : Source) : Decoded Operation := do
  let draft ← v.decodeRecord operationRecord ⟨none, none, none, none, none, none⟩
  return {
    name := draft.name.getD ""
    description := draft.description.getD ""
    parameters := draft.parameters.getD []
    returnType := draft.returnType.getD none
    emitSync := draft.emitSync.getD true
    emitAsync := draft.emitAsync.getD true }

structure Draft where
  interfaceName : Option String
  enclosing : Option (Option String)
  description : Option String
  operations : Option (List Operation)

def record : Record Source DecodeError Draft where
  kind := "ServiceDef"
  fields :=
    [ field "interface_name" .required (·.interfaceName)
        (fun x s => { s with interfaceName := some x }) Source.decodeText,
      field "namespace" .defaulted (·.enclosing) (fun x s => { s with enclosing := some x })
        (Source.decodeOption Source.decodeText),
      field "description" .defaulted (·.description) (fun x s => { s with description := some x })
        Source.decodeText,
      field "operations" .defaulted (·.operations) (fun x s => { s with operations := some x })
        (Source.decodeList Operation.decode) ]

def decode (v : Source) : Decoded Service := do
  let draft ← v.decodeRecord record ⟨none, none, none, none⟩
  return {
    interfaceName := draft.interfaceName.getD ""
    enclosing := draft.enclosing.getD none
    description := draft.description.getD ""
    operations := draft.operations.getD [] }

end Service

namespace Catalogue

structure Draft where
  version : Option String
  services : Option (List Service)

def record : Record Source DecodeError Draft where
  kind := "ServiceIR"
  fields :=
    [ field "version" .required (·.version) (fun x s => { s with version := some x })
        Source.decodeText,
      field "services" .required (·.services) (fun x s => { s with services := some x })
        (Source.decodeList Service.decode) ]

def decode (v : Source) : Decoded Catalogue := do
  let draft ← v.decodeRecord record ⟨none, none⟩
  return ⟨draft.version.getD "", draft.services.getD []⟩

def parse (text : String) : Decoded Catalogue := Json.decode decode text

end Catalogue

end RemoteClient

namespace RemoteClient.Catalogue

inductive LoadFailure where
  | file (reason : Files.Error)
  | content (problem : Json.DecodeError)
  deriving DecidableEq, Repr

namespace LoadFailure

def detail? : LoadFailure → Option String
  | .file reason => some reason.message
  | .content (.mismatch problem) => some problem.message
  | .content (.fault _) => none

end LoadFailure

variable {m : Type → Type} [Monad m] [Files.Disk m]

def load (path : String) : m (Except LoadFailure Catalogue) := do
  match ← Files.Disk.readText path with
  | .error reason => return .error (.file reason)
  | .ok text => return (parse text).mapError .content

def save (c : Catalogue) (path : String) : m (Except Files.Error Unit) := do
  match ← Files.createParents path with
  | .error reason => return .error reason
  | .ok () => Files.Disk.write path c.render

end RemoteClient.Catalogue
