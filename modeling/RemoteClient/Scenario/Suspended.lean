import RemoteClient.Scenario.World

namespace RemoteClient

namespace Handshake

def deadline? : Handshake → Option Nat
  | .turn => none
  | .waiting deadline _ => some deadline

def woken? (n : Network) (ref : ChannelRef) : Handshake → Option Nat
  | .turn => none
  | .waiting deadline since =>
    if (n.channel ref).aborted || deadline ≤ n.clock then some since else none

end Handshake

namespace Acquiring

def woken? (n : Network) (a : Acquiring) : Option Nat :=
  a.handshake.woken? n (.ofEndpoint a.channel)

end Acquiring

namespace Closing

def woken? (n : Network) (s : Closing) : Option Nat :=
  s.handshake.woken? n (.ofEndpoint s.channel)

end Closing

end RemoteClient

namespace RemoteClient.Scenario

def earlier : Option Nat → Option Nat → Option Nat
  | some a, some b => some (min a b)
  | some a, none => some a
  | none, b => b

namespace Suspended

def yields : Suspended → Bool
  | .opening _ h | .closing _ h | .shuttingChannel _ h => h = .turn
  | .acquiring _ a | .entering _ _ _ _ a => a.handshake = .turn
  | .shuttingDown _ s | .disposing _ s => s.handshake = .turn
  | .calling _ _ | .sleeping _ _ => false
  | .operating _ _ _ inner _ _ => inner.yields
  | .within _ _ inner => inner.yields

def deadline? : Suspended → Option Nat
  | .opening _ h | .closing _ h | .shuttingChannel _ h => h.deadline?
  | .acquiring _ a | .entering _ _ _ _ a => a.handshake.deadline?
  | .shuttingDown _ s | .disposing _ s => s.handshake.deadline?
  | .calling _ call => some call.deadline
  | .sleeping deadline _ => some deadline
  | .operating _ _ _ inner _ _ => inner.deadline?
  | .within deadline _ inner => earlier (some deadline) inner.deadline?

def woken? (n : Network) : Suspended → Option Nat
  | .opening ref h | .closing ref h | .shuttingChannel ref h => h.woken? n ref
  | .acquiring _ a | .entering _ _ _ _ a => a.woken? n
  | .shuttingDown _ s | .disposing _ s => s.woken? n
  | .calling ref call =>
    if (n.channel ref).aborted || call.deadline ≤ n.clock then some call.since else none
  | .sleeping deadline since => if deadline ≤ n.clock then some since else none
  | .operating i since _ inner _ _ =>
    let cancelled := i.token.any n.cancelled.contains
    earlier (if cancelled then some since else none) (inner.woken? n)
  | .within deadline since inner =>
    earlier (if deadline ≤ n.clock then some since else none) (inner.woken? n)

/-- The innermost part goes first, and a controller is let go of last. -/
def abandon : Suspended → Play Unit
  | .opening _ _ | .closing _ _ | .calling _ _ | .shuttingChannel _ _ | .sleeping _ _ => return ()
  | .acquiring c a | .entering c _ _ _ a => do
    Act.abandonAcquire a
    Play.release c
  | .shuttingDown c s | .disposing c s => do
    Act.abandonShutdown s
    Play.release c
  | .operating i _ _ inner _ _ => do
    inner.abandon
    i.abandon
    Play.release i.controller
  | .within _ _ inner => inner.abandon

end Suspended

end RemoteClient.Scenario
