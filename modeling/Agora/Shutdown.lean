import Agora.Broadcast

set_option autoImplicit false

namespace Agora

/-- The signal: whether it has been given, and the channel on which it goes out. -/
structure Shutdown where
  triggered : Bool := false
  channel : Broadcast := {}
  deriving DecidableEq, Repr

namespace Shutdown

/-- Subscribe to the signal; the receiver's number is how many subscribed before. -/
def subscribe (s : Shutdown) : Nat × Shutdown :=
  let (i, channel) := s.channel.subscribe
  (i, { s with channel })

def drop (i : Nat) (s : Shutdown) : Shutdown := { s with channel := s.channel.drop i }

/-- Give the signal, and tell whether this was the first time; only then is anything sent. -/
def trigger (s : Shutdown) : Bool × Shutdown :=
  if s.triggered then (false, s) else (true, ⟨true, s.channel.send⟩)

/-- Look whether a receiver has the signal before it, which it then has been given. -/
def receive (i : Nat) (s : Shutdown) : Receipt × Shutdown :=
  let (receipt, channel) := s.channel.receive i
  (receipt, { s with channel })

def listening (s : Shutdown) : Nat := s.channel.listening

end Shutdown

end Agora
