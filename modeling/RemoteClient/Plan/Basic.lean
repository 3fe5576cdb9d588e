import RemoteClient.Service.Basic
import RemoteClient.Settings.Basic

namespace RemoteClient

namespace Plan

/-- A wrapper owns a controller and routes each call through it; a proxy passes calls on. -/
inductive Kind where
  | client
  | proxy
  deriving DecidableEq, Repr

namespace Kind

def name : Kind → String
  | .client => "client"
  | .proxy => "proxy"

def title : Kind → String
  | .client => "Client"
  | .proxy => "Proxy"

end Kind

inductive Form where
  | blocking
  | awaited
  | cancellable
  deriving DecidableEq, Repr

namespace Form

def all : List Form := [.blocking, .awaited, .cancellable]

def name : Form → String
  | .blocking => "sync"
  | .awaited => "async"
  | .cancellable => "cancellable_async"

def ofName? (name : String) : Option Form := all.find? (·.name == name)

def isAwaitable : Form → Bool
  | .blocking => false
  | .awaited | .cancellable => true

def route : Form → String
  | .blocking => "invoke"
  | .awaited => "invoke_async"
  | .cancellable => "invoke_cancellable"

end Form

structure MemberNames where
  cachedProxyField : String
  proxyFactoryField : String
  getProxy : String
  getProxyAsync : String
  ensureProxy : String
  ensureProxyAsync : String
  closeProxy : String
  closeProxyAsync : String
  deriving DecidableEq, Repr

namespace MemberNames

def toList (m : MemberNames) : List String :=
  [m.cachedProxyField, m.proxyFactoryField, m.getProxy, m.getProxyAsync, m.ensureProxy,
    m.ensureProxyAsync, m.closeProxy, m.closeProxyAsync]

end MemberNames

structure LocalNames where
  proxy : String
  cancellationToken : String
  state : String
  deriving DecidableEq, Repr

namespace LocalNames

def toList (l : LocalNames) : List String := [l.proxy, l.cancellationToken, l.state]

end LocalNames

structure Method where
  form : Form
  name : String
  routed : Bool
  deriving DecidableEq, Repr

structure Operation where
  name : String
  parameters : List Service.Parameter
  returnType : Option String
  methods : List Method
  locals : Option LocalNames
  deriving DecidableEq, Repr

namespace Operation

def method? (op : Operation) (form : Form) : Option Method := op.methods.find? (·.form == form)

end Operation

end Plan

structure Plan where
  interfaceName : String
  qualifiedName : String
  kind : Plan.Kind
  typeName : String
  visibility : Visibility
  warningComments : Bool
  members : Option Plan.MemberNames
  operations : List Plan.Operation
  deriving DecidableEq, Repr

namespace Plan

def operation? (p : Plan) (name : String) : Option Operation := p.operations.find? (·.name == name)

def methodCount (p : Plan) : Nat := (p.operations.map (·.methods.length)).foldr (· + ·) 0

inductive Error where
  | emptyInterfaceName
  | duplicateOperation (interfaceName operation : String)
  | noForms (interfaceName operation : String)
  | serviceNotFound (wanted : String)
  deriving DecidableEq, Repr

namespace Error

def message : Error → String
  | .emptyInterfaceName => "Service interface name is empty"
  | .duplicateOperation interfaceName operation =>
    "Duplicate operation `" ++ operation ++ "` in `" ++ interfaceName ++ "`"
  | .noForms interfaceName operation =>
    "Operation `" ++ operation ++ "` in `" ++ interfaceName ++ "` emits no variant"
  | .serviceNotFound wanted => "Service `" ++ wanted ++ "` not found in the service descriptors"

end Error

end Plan

end RemoteClient
