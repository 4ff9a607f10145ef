/-!
Channels on which every message goes to all who listen at that moment. A channel keeps its latest
message only: a receiver that has left earlier ones too long has missed them, and is told how many
before it is given the latest. A message that nobody listens for is not sent.
-/

set_option autoImplicit false

namespace Agora

inductive Receipt where
  | message
  | nothing
  /-- Messages have been written over before the receiver looked. -/
  | missed (count : Nat)
  deriving DecidableEq, Repr

/-- A channel whose messages have no content. Of each receiver, in the order in which they
subscribed, it is known how many messages lie behind it, unless it has been dropped. -/
structure Broadcast where
  sent : Nat := 0
  receivers : List (Option Nat) := []
  deriving DecidableEq, Repr

namespace Broadcast

def listening (b : Broadcast) : Nat := b.receivers.countP (·.isSome)

/-- Subscribe to the messages to come; the receiver's number is how many subscribed before. -/
def subscribe (b : Broadcast) : Nat × Broadcast :=
  (b.receivers.length, { b with receivers := b.receivers ++ [some b.sent] })

/-- How many messages lie behind a receiver; none if it does not listen. -/
def position? (i : Nat) (b : Broadcast) : Option Nat := b.receivers[i]?.join

/-- Put a receiver behind some messages, or drop it. -/
def place (i : Nat) (position : Option Nat) (b : Broadcast) : Broadcast :=
  { b with receivers := b.receivers.set i position }

def drop (i : Nat) (b : Broadcast) : Broadcast := b.place i none

/-- Send a message, in place of the one before, if anybody listens. -/
def send (b : Broadcast) : Broadcast :=
  if b.listening = 0 then b else { b with sent := b.sent + 1 }

/-- Look for a message that a receiver has not been given yet. -/
def receive (i : Nat) (b : Broadcast) : Receipt × Broadcast :=
  match b.position? i with
  | some position =>
    if b.sent ≤ position then (.nothing, b)
    else if position + 1 = b.sent then (.message, b.place i (some b.sent))
    else (.missed (b.sent - 1 - position), b.place i (some (b.sent - 1)))
  | none => (.nothing, b)

end Broadcast

end Agora
