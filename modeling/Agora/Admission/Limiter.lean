import Agora.Table.Directory
import Agora.Time.Span

/-!
Admission in fixed windows. The first request of a client opens a window, in which a limited number
is admitted; a request at its end or later opens another. A sweep forgets the windows that have
ended, which no answer ever shows. A sweeper has its turn at every multiple of the window's length
after its start; of turns that it has missed, one sweep does for all.
-/

set_option autoImplicit false

namespace Agora.Admission

open Time (Span)
open Table (Directory)

/-- The requests that a client has made in its window. -/
structure Window where
  count : Nat
  started : Span
  deriving DecidableEq, Repr

inductive Verdict where
  | allowed
  /-- The window is full, and ends after `retryAfter`. -/
  | limited (retryAfter : Span)
  deriving DecidableEq, Repr

/-- A sweeper that runs: when it was started, and how many of its turns are over. -/
structure Sweeper where
  started : Span
  turns : Nat := 0
  deriving DecidableEq, Repr

structure Limiter where
  limit : Nat
  length : Span
  windows : Directory String Window := .empty
  sweeper : Option Sweeper := none
  deriving DecidableEq

/-- A limiter as operators see it: the number of its windows, and its settings. -/
structure Stats where
  trackedClients : Nat
  maxRequests : Nat
  windowSeconds : Nat
  deriving DecidableEq, Repr

def Window.live (length now : Span) (w : Window) : Bool := now - w.started < length

namespace Limiter

/-- Count a request of a client and answer it. -/
def allow (now : Span) (client : String) (l : Limiter) : Verdict × Limiter :=
  match (l.windows.get? client).filter (·.live l.length now) with
  | some w =>
    if w.count < l.limit then
      (.allowed, { l with windows := l.windows.set client { w with count := w.count + 1 } })
    else (.limited (l.length - (now - w.started)), l)
  | none => (.allowed, { l with windows := l.windows.set client ⟨1, now⟩ })

def sweep (now : Span) (l : Limiter) : Limiter :=
  { l with windows := l.windows.filter fun _ w => w.live l.length now }

def tracked (l : Limiter) : Nat := l.windows.size

/-- Forget the windows that have ended, and tell how many they were. -/
def reap (now : Span) (l : Limiter) : Nat × Limiter :=
  let swept := l.sweep now
  (l.tracked - swept.tracked, swept)

def stats (l : Limiter) : Stats := ⟨l.tracked, l.limit, l.length.seconds⟩

/-- Start the sweeper; one that runs goes on. -/
def startSweeper (now : Span) (l : Limiter) : Limiter :=
  { l with sweeper := l.sweeper.or (some { started := now }) }

def stopSweeper (l : Limiter) : Limiter := { l with sweeper := none }

/-- Take the turns of the sweeper that are due, now; none if no turn is due. -/
def takeTurns? (now : Span) (l : Limiter) : Option Limiter :=
  l.sweeper.bind fun s =>
    let turns := (now - s.started) / l.length
    if s.turns < turns then some { l.sweep now with sweeper := some { s with turns } } else none

/-- The moment of the sweeper's last turn before another moment. -/
def lastTurn? (moment : Span) (l : Limiter) : Option Span :=
  l.sweeper.map fun s => s.started + (moment - s.started - 1) / l.length * l.length

end Limiter

end Agora.Admission
