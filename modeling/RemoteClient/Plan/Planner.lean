import RemoteClient.Log.Event
import RemoteClient.Naming.Table
import RemoteClient.Plan.Basic
import RemoteClient.Text.Runs

namespace RemoteClient.Naming

/-- A leading `I` marks an interface only before another upper-case letter. -/
def stripInterfaceMark : List Char → List Char
  | 'I' :: c :: rest => if Text.isUppercase c then c :: rest else 'I' :: c :: rest
  | name => name

def dropEnding? (ending text : List Char) : Option (List Char) :=
  if ending.isSuffixOf text then some (text.take (text.length - ending.length)) else none

def clientChars (interfaceName : List Char) : List Char :=
  let base := stripInterfaceMark interfaceName
  let base := match dropEnding? "Proxy".toList base with
    | some (c :: rest) => c :: rest
    | _ => base
  if "Client".toList.isSuffixOf base then base else base ++ "Client".toList

def clientName (interfaceName : String) : String := String.ofList (clientChars interfaceName.toList)

def proxyName (interfaceName : String) : String :=
  String.ofList (stripInterfaceMark interfaceName.toList) ++ "Proxy"

/-- The method for an awaitable form ends in `Async`, whether or not the operation's name does. -/
def methodName (operation : String) (awaitable : Bool) : String :=
  if awaitable && !"Async".toList.isSuffixOf operation.toList then operation ++ "Async"
  else operation

end RemoteClient.Naming

namespace RemoteClient.Plan

open Naming (Table methodName)

def formsFor (options : GenerationOptions) (kind : Kind) (op : Service.Operation) : List Form :=
  let awaitable := op.emitAsync && !options.suppressAsync
  (if op.emitSync then [.blocking] else [])
    ++ (if awaitable then [.awaited] else [])
    ++ (if awaitable && kind == .client && options.includeCancellable then [.cancellable] else [])

def methodsFor (options : GenerationOptions) (kind : Kind) (op : Service.Operation) : List Method :=
  (formsFor options kind op).map fun form =>
    ⟨form, methodName op.name form.isAwaitable, kind == .client⟩

/-- What no generated member may be called: the type itself, and any method that an operation may
be given. -/
def takenNames (s : Service) (typeName : String) : List String :=
  typeName :: s.operations.flatMap fun op => [methodName op.name false, methodName op.name true]

def allocateMembers (t : Table) : MemberNames × Table :=
  let (closeProxy, t) := t.allocate "CloseProxy"
  let (closeProxyAsync, t) := t.allocate "CloseProxyAsync"
  let (getProxyAsync, t) := t.allocate "GetProxyAsync"
  let (getProxy, t) := t.allocate "GetProxy"
  let (ensureProxy, t) := t.allocate "EnsureProxy"
  let (ensureProxyAsync, t) := t.allocate "EnsureProxyAsync"
  let (cachedProxyField, t) := t.allocate "m_cachedProxy"
  let (proxyFactoryField, t) := t.allocate "m_proxyFactory"
  ({ cachedProxyField, proxyFactoryField, getProxy, getProxyAsync, ensureProxy, ensureProxyAsync,
     closeProxy, closeProxyAsync }, t)

/-- Local names avoid the parameters. They are allocated in a scope of their own, so that one
operation does not affect another. -/
def allocateLocals (t : Table) (op : Service.Operation) : LocalNames × Table :=
  let t := t.enter op.parameterNames
  let (proxy, t) := t.allocate "proxy"
  let (cancellationToken, t) := t.allocate "cancellationToken"
  let (state, t) := t.allocate "s"
  (⟨proxy, cancellationToken, state⟩, t.leave)

def membersFor (kind : Kind) (t : Table) : Option MemberNames × Table :=
  match kind with
  | .client => (allocateMembers t).map some id
  | .proxy => (none, t)

def localsFor (kind : Kind) (t : Table) (op : Service.Operation) : Option LocalNames × Table :=
  match kind with
  | .client => (allocateLocals t op).map some id
  | .proxy => (none, t)

def firstDuplicate? (seen : List (String × List String)) :
    List Service.Operation → Option Service.Operation
  | [] => none
  | op :: rest =>
    if seen.contains op.signature then some op else firstDuplicate? (op.signature :: seen) rest

def kindFor (options : GenerationOptions) : Kind := if options.wrapper then .client else .proxy

def typeNameFor (kind : Kind) (override : Option String) (s : Service) : String :=
  match override, kind with
  | some name, _ => name
  | none, .client => Naming.clientName s.interfaceName
  | none, .proxy => Naming.proxyName s.interfaceName

def planOperation (options : GenerationOptions) (kind : Kind) (s : Service) (t : Table)
    (op : Service.Operation) : Except Error (Operation × Table) :=
  match methodsFor options kind op with
  | [] => .error (.noForms s.interfaceName op.name)
  | methods =>
    let (locals, t) := localsFor kind t op
    .ok (
      { name := op.name
        parameters := op.parameters
        returnType := if op.isVoid then none else op.returnType
        methods
        locals }, t)

/-- Each operation is planned with the table that the one before it left. -/
def planOperations (options : GenerationOptions) (kind : Kind) (s : Service) (t : Table) :
    List Service.Operation → Except Error (List Operation × Table)
  | [] => .ok ([], t)
  | op :: rest => do
    let (planned, t) ← planOperation options kind s t op
    let (others, t) ← planOperations options kind s t rest
    return (planned :: others, t)

def planNamed (options : GenerationOptions) (override : Option String) (s : Service) :
    Except Error Plan := do
  if Text.trimChars s.interfaceName.toList = [] then throw .emptyInterfaceName
  if let some op := firstDuplicate? [] s.operations then
    throw (.duplicateOperation s.interfaceName op.name)
  let kind := kindFor options
  let typeName := typeNameFor kind override s
  let (members, t) := membersFor kind (.ofReserved (takenNames s typeName))
  let (operations, _) ← planOperations options kind s t s.operations
  return {
    interfaceName := s.interfaceName
    qualifiedName := s.qualifiedName
    kind
    typeName
    visibility := options.visibility
    warningComments := !options.suppressWarnings
    members
    operations }

def planService (options : GenerationOptions) (s : Service) : Except Error Plan :=
  planNamed options options.clientName s

def madeEvent (p : Plan) : Log.Event :=
  .trace "PLANNER" ("Planned " ++ p.kind.title ++ " `" ++ p.typeName ++ "` for `" ++ p.interfaceName
    ++ "` with " ++ toString p.operations.length ++ " operations")

/-- A source interface may be given by its qualified name too. -/
def select (options : GenerationOptions) (c : Catalogue) : Except Error (List Service) :=
  match options.sourceInterface with
  | none => .ok c.services
  | some wanted =>
    match c.services.find? fun s => s.interfaceName == wanted || s.qualifiedName == wanted with
    | some s => .ok [s]
    | none => .error (.serviceNotFound wanted)

/-- The type name can be overridden only for a single service. -/
def overrideFor (options : GenerationOptions) : List Service → Option String
  | [_] => options.clientName
  | _ => none

def planAll (options : GenerationOptions) (c : Catalogue) : Except Error (List Plan) := do
  let selected ← select options c
  selected.mapM (planNamed options (overrideFor options selected))

def planUntilFailure (options : GenerationOptions) (override : Option String) :
    List Service → List Plan
  | [] => []
  | s :: rest =>
    match planNamed options override s with
    | .ok p => p :: planUntilFailure options override rest
    | .error _ => []

def planAllLog (options : GenerationOptions) (c : Catalogue) : List Log.Event :=
  match select options c with
  | .ok selected => (planUntilFailure options (overrideFor options selected) selected).map madeEvent
  | .error _ => []

def planServiceLog (options : GenerationOptions) (s : Service) : List Log.Event :=
  (planUntilFailure options options.clientName [s]).map madeEvent

end RemoteClient.Plan

namespace RemoteClient

namespace GenerationOptions

/-- A service asked for on the spot goes before the one in the settings. -/
def restrict (options : GenerationOptions) : Option String → GenerationOptions
  | some service => { options with sourceInterface := some service }
  | none => options

end GenerationOptions

end RemoteClient
