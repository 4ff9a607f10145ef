import Agora.Time.Span

/-!
Work under a deadline. Work that would end later is given up at the deadline; of a deadline and the
end of the work at one moment, the work comes first. The clock has an end, and a deadline past it
never comes.
-/

set_option autoImplicit false

namespace Agora.Time

def clockEnd : Span := Span.ofSeconds (2 ^ 63 - 1)

/-- The time that work may take which starts at a moment; none if it may take any time, because the
deadline lies past the clock's range. -/
def limit? (start length : Span) : Option Span :=
  if start + length < clockEnd then some length else none

def inTime (limit : Option Span) (work : Span) : Bool := limit.all (work ≤ ·)

def waitFor (limit : Option Span) (work : Span) : Span := limit.elim work (min work)

/-- Thirty years of 365 days. -/
def farOff : Span := Span.ofSeconds (30 * 365 * 86400)

/-- The moment at which work is cut off that starts at a moment and may take a time. Where that lies
past the clock's range, one that is far off stands in for it. -/
def cutoff (start length : Span) : Span := start + (limit? start length).getD farOff

end Agora.Time
