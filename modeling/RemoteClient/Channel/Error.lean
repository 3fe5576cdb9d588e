namespace RemoteClient.Channel

inductive FaultKind where
  | communication
  | timeout
  | other
  deriving DecidableEq, Repr

namespace FaultKind

def all : List FaultKind := [.communication, .timeout, .other]

/-- A transient fault is fully recovered from by an abort. -/
def isTransient : FaultKind → Bool
  | .communication | .timeout => true
  | .other => false

def title : FaultKind → String
  | .communication => "Communication"
  | .timeout => "Timeout"
  | .other => "Other"

end FaultKind

inductive Error where
  | communication (detail : String)
  | timeout (detail : String)
  | aborted
  | faulted
  | other (detail : String)
  deriving DecidableEq, Repr

namespace Error

def kind : Error → FaultKind
  | .communication _ | .aborted | .faulted => .communication
  | .timeout _ => .timeout
  | .other _ => .other

def message : Error → String
  | .communication detail => "communication error: " ++ detail
  | .timeout detail => "timed out: " ++ detail
  | .aborted => "channel aborted"
  | .faulted => "channel faulted"
  | .other detail => detail

end Error

inductive TransportFault where
  | timedOut
  | wouldBlock
  | connectionReset
  | connectionRefused
  | connectionAborted
  | notConnected
  | brokenPipe
  | endOfFile
  | invalidData
  | invalidInput
  | notFound
  | permissionDenied
  | addressInUse
  | addressNotAvailable
  | alreadyExists
  | writeZero
  | interrupted
  | unsupported
  | outOfMemory
  | other
  | hostUnreachable
  | networkUnreachable
  | networkDown
  deriving DecidableEq, Repr

namespace TransportFault

def description : TransportFault → String
  | .timedOut => "timed out"
  | .wouldBlock => "operation would block"
  | .connectionReset => "connection reset"
  | .connectionRefused => "connection refused"
  | .connectionAborted => "connection aborted"
  | .notConnected => "not connected"
  | .brokenPipe => "broken pipe"
  | .endOfFile => "unexpected end of file"
  | .invalidData => "invalid data"
  | .invalidInput => "invalid input parameter"
  | .notFound => "entity not found"
  | .permissionDenied => "permission denied"
  | .addressInUse => "address in use"
  | .addressNotAvailable => "address not available"
  | .alreadyExists => "entity already exists"
  | .writeZero => "write zero"
  | .interrupted => "operation interrupted"
  | .unsupported => "unsupported"
  | .outOfMemory => "out of memory"
  | .other => "other error"
  | .hostUnreachable => "host unreachable"
  | .networkUnreachable => "network unreachable"
  | .networkDown => "network down"

/-- Only a lost or refused connection counts as a communication failure. -/
def toError (fault : TransportFault) (detail : String) : Error :=
  match fault with
  | .timedOut | .wouldBlock => .timeout detail
  | .connectionReset | .connectionRefused | .connectionAborted | .notConnected | .brokenPipe
  | .endOfFile => .communication detail
  | _ => .other detail

end TransportFault

end RemoteClient.Channel
