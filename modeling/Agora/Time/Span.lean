import Agora.Powers

set_option autoImplicit false

namespace Agora.Time

/-- A span of time, or a moment of a clock that starts at zero, in nanoseconds. -/
abbrev Span := Nat

namespace Span

def milli : Nat := 1000000

def second : Nat := 1000000000

def ofSeconds (n : Nat) : Span := second * n

def ofMillis (n : Nat) : Span := milli * n

def seconds (s : Span) : Nat := s / second

def millis (s : Span) : Nat := s / milli

/-- The whole seconds that cover a span, in a count of 64 bits, one at least. -/
def coveringSeconds (s : Span) : Nat := max 1 ((s + (second - 1)) / second % 2 ^ 64)

/-- A number below a power of ten as decimals, without the zeros at the end. -/
def decimals (places n : Nat) : List Char :=
  let digits := (Nat.toDigits 10 n)
  let padded := List.replicate (places - digits.length) '0' ++ digits
  (padded.reverse.dropWhile (· = '0')).reverse

def inUnit (places : Nat) (unit : String) (s : Span) : String :=
  let fraction := decimals places (s % 10 ^ places)
  toString (s / 10 ^ places) ++
    (if fraction.isEmpty then "" else "." ++ String.ofList fraction) ++ unit

def text (s : Span) : String :=
  if 10 ^ 9 ≤ s then inUnit 9 "s" s
  else if 10 ^ 6 ≤ s then inUnit 6 "ms" s
  else if 10 ^ 3 ≤ s then inUnit 3 "µs" s
  else inUnit 0 "ns" s

end Span

end Agora.Time
