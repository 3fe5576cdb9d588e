import RemoteClient.Files.Disk
import RemoteClient.Plan.Basic
import RemoteClient.Service.Basic

namespace RemoteClient.Plan

def MemberNames.toJson (m : MemberNames) : Json :=
  .object [("cached_proxy_field", .text m.cachedProxyField),
    ("proxy_factory_field", .text m.proxyFactoryField),
    ("get_proxy", .text m.getProxy), ("get_proxy_async", .text m.getProxyAsync),
    ("ensure_proxy", .text m.ensureProxy), ("ensure_proxy_async", .text m.ensureProxyAsync),
    ("close_proxy", .text m.closeProxy), ("close_proxy_async", .text m.closeProxyAsync)]

def LocalNames.toJson (l : LocalNames) : Json :=
  .object [("proxy", .text l.proxy), ("cancellation_token", .text l.cancellationToken),
    ("state", .text l.state)]

def Method.toJson (m : Method) : Json :=
  .object ([("variant", .text m.form.name), ("method_name", .text m.name)]
    ++ (if m.routed then [("invoke_with", .text m.form.route)] else []))

def Operation.toJson (op : Operation) : Json :=
  .object ([("name", .text op.name),
      ("params", .list (op.parameters.map Service.Parameter.toJson))]
    ++ Json.optionalMember "return_type" op.returnType
    ++ [("variants", .list (op.methods.map Method.toJson))]
    ++ (match op.locals with
      | some l => [("locals", l.toJson)]
      | none => []))

def toJson (p : Plan) : Json :=
  .object ([("interface_name", .text p.interfaceName),
      ("qualified_interface_name", .text p.qualifiedName),
      ("kind", .text p.kind.name),
      ("type_name", .text p.typeName),
      ("constructor_visibility", .text p.visibility.name),
      ("warning_comments", .bool p.warningComments)]
    ++ (match p.members with
      | some m => [("members", m.toJson)]
      | none => [])
    ++ [("operations", .list (p.operations.map Operation.toJson))])

def renderAll (plans : List Plan) : String := (Json.list (plans.map toJson)).pretty ++ "\n"

def render (p : Plan) : String := p.toJson.pretty ++ "\n"

def fileName (p : Plan) : String := p.typeName ++ ".plan.json"

variable {m : Type → Type} [Monad m] [Files.Disk m]

def writeText (path text : String) : m (Except Files.Error Unit) := do
  match ← Files.createParents path with
  | .error reason => return .error reason
  | .ok () => Files.Disk.write path text

/-- The paths written. The first failure ends the writing; files written before it stay. -/
def writeEach (dir : String) : List Plan → m (Except Files.Error (List String))
  | [] => return .ok []
  | p :: rest => do
    let path := Files.join dir p.fileName
    match ← writeText path p.render with
    | .error reason => return .error reason
    | .ok () => return (← writeEach dir rest).map (path :: ·)

def writeToDirectory (plans : List Plan) (dir : String) : m (Except Files.Error (List String)) := do
  match ← Files.createDirectories dir with
  | .error reason => return .error reason
  | .ok () => writeEach dir plans

end RemoteClient.Plan
