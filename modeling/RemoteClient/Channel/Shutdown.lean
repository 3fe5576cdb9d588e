namespace RemoteClient.Channel

inductive State where
  | created
  | opening
  | opened
  | closing
  | closed
  | faulted
  deriving DecidableEq, Repr

namespace State

def all : List State := [.created, .opening, .opened, .closing, .closed, .faulted]

def isStale : State → Bool
  | .faulted | .closed => true
  | .created | .opening | .opened | .closing => false

def isUsable (s : State) : Bool := !s.isStale

def name : State → String
  | .created => "created"
  | .opening => "opening"
  | .opened => "opened"
  | .closing => "closing"
  | .closed => "closed"
  | .faulted => "faulted"

def title : State → String
  | .created => "Created"
  | .opening => "Opening"
  | .opened => "Opened"
  | .closing => "Closing"
  | .closed => "Closed"
  | .faulted => "Faulted"

def ofTitle? (title : String) : Option State := all.find? (·.title == title)

end State

inductive ShutdownAction where
  | abort
  | nothing
  | close
  deriving DecidableEq, Repr

namespace ShutdownAction

def title : ShutdownAction → String
  | .abort => "Abort"
  | .nothing => "Nothing"
  | .close => "Close"

/-- A faulted channel cannot be closed any more, only aborted. -/
def choose (state : State) (alwaysAbort : Bool) : ShutdownAction :=
  if alwaysAbort ∨ state = .faulted then .abort
  else if state = .closed then .nothing
  else .close

end ShutdownAction

end RemoteClient.Channel
