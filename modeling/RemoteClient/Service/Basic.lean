import RemoteClient.Json.Basic

namespace RemoteClient

namespace Service

structure Parameter where
  name : String
  typeName : String
  deriving DecidableEq, Repr

/-- The returned type is absent for operations that return nothing. -/
structure Operation where
  name : String
  description : String
  parameters : List Parameter
  returnType : Option String
  emitSync : Bool
  emitAsync : Bool
  deriving DecidableEq, Repr

end Service

structure Service where
  interfaceName : String
  enclosing : Option String
  description : String
  operations : List Service.Operation
  deriving DecidableEq, Repr

structure Catalogue where
  version : String
  services : List Service
  deriving DecidableEq, Repr

namespace Service

namespace Operation

def named (name : String) (parameters : List Parameter) (returnType : Option String) : Operation :=
  { name, description := "", parameters, returnType, emitSync := true, emitAsync := true }

def isVoid (op : Operation) : Bool :=
  match op.returnType with
  | none => true
  | some type => type == "" || type == "void"

def parameterNames (op : Operation) : List String := op.parameters.map (·.name)

def parameterTypes (op : Operation) : List String := op.parameters.map (·.typeName)

/-- Operations with one signature cannot be told apart by callers. -/
def signature (op : Operation) : String × List String := (op.name, op.parameterTypes)

end Operation

def named (interfaceName : String) (operations : List Operation) : Service :=
  { interfaceName, enclosing := none, description := "", operations }

def operation? (s : Service) (name : String) : Option Operation :=
  s.operations.find? (·.name == name)

def operationNames (s : Service) : List String := s.operations.map (·.name)

/-- An empty namespace is no namespace. -/
def qualifiedName (s : Service) : String :=
  match s.enclosing with
  | some outer => if outer == "" then s.interfaceName else outer ++ "." ++ s.interfaceName
  | none => s.interfaceName

end Service

namespace Catalogue

def currentVersion : String := "0.1.0"

def ofServices (services : List Service) : Catalogue := ⟨currentVersion, services⟩

def service? (c : Catalogue) (interfaceName : String) : Option Service :=
  c.services.find? (·.interfaceName == interfaceName)

def operationCount (c : Catalogue) : Nat :=
  (c.services.map (·.operations.length)).foldr (· + ·) 0

end Catalogue

def Json.optionalMember (key : String) (value : Option String) : List (String × Json) :=
  match value with
  | some present => [(key, .text present)]
  | none => []

namespace Service

def Parameter.toJson (p : Parameter) : Json :=
  .object [("name", .text p.name), ("type_name", .text p.typeName)]

def Operation.toJson (op : Operation) : Json :=
  .object ([("name", .text op.name), ("description", .text op.description),
      ("params", .list (op.parameters.map Parameter.toJson))]
    ++ Json.optionalMember "return_type" op.returnType
    ++ [("emit_sync", .bool op.emitSync), ("emit_async", .bool op.emitAsync)])

def toJson (s : Service) : Json :=
  .object ([("interface_name", .text s.interfaceName)]
    ++ Json.optionalMember "namespace" s.enclosing
    ++ [("description", .text s.description),
      ("operations", .list (s.operations.map Operation.toJson))])

end Service

namespace Catalogue

def toJson (c : Catalogue) : Json :=
  .object [("version", .text c.version), ("services", .list (c.services.map Service.toJson))]

def render (c : Catalogue) : String := c.toJson.pretty ++ "\n"

end Catalogue

end RemoteClient
