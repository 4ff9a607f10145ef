import Agora.Text.Blank
import Agora.Text.Numeral
import Agora.Time.Stamp

/-!
Reading moments. The date, a separator (the letter T or a blank), the time of day and a zone are
wanted; numbers may be short, blanks may stand before each part, and decimals beyond nine digits
are dropped. The zone is Z, UTC or an offset in hours and minutes, which is taken off.
-/

set_option autoImplicit false

namespace Agora.Time.Reader

open Agora.Text

def skipBlanks (cs : List Char) : List Char := cs.dropWhile isBlank

def valueOf (digits : List Char) : Nat :=
  digits.foldl (fun n c => 10 * n + Numeral.digitValue c) 0

def number (width : Nat) (cs : List Char) : Option (Nat × List Char) :=
  let digits := (cs.take width).takeWhile Char.isDigit
  if digits.isEmpty then none else some (valueOf digits, cs.drop digits.length)

def longNumber (cs : List Char) : Option (Nat × List Char) :=
  number cs.length cs

/-- A year: up to four digits, or any number of them after a sign. -/
def year (cs : List Char) : Option (Int × List Char) :=
  match skipBlanks cs with
  | '-' :: rest => (longNumber rest).map fun (n, rest) => (-Int.ofNat n, rest)
  | '+' :: rest => (longNumber rest).map fun (n, rest) => (Int.ofNat n, rest)
  | rest => (number 4 rest).map fun (n, rest) => (Int.ofNat n, rest)

def short (cs : List Char) : Option (Nat × List Char) := number 2 (skipBlanks cs)

def mark (c : Char) (cs : List Char) : Option (List Char) :=
  match skipBlanks cs with
  | d :: rest => if c = d then some rest else none
  | [] => none

/-- The decimals of a second, in nanoseconds; none is zero. -/
def fraction : List Char → Option (Nat × List Char)
  | '.' :: rest => do
    let digits := (rest.take 9).takeWhile Char.isDigit
    guard (!digits.isEmpty)
    return (valueOf digits * 10 ^ (9 - digits.length), rest.dropWhile Char.isDigit)
  | cs => some (0, cs)

def twoDigits (most : Char) : List Char → Option (Nat × List Char)
  | a :: b :: rest =>
    if a.isDigit && b.isDigit && a ≤ most then some (valueOf [a, b], rest) else none
  | _ => none

/-- An offset of hours and minutes after its sign, in seconds. -/
def hoursAndMinutes (cs : List Char) : Option (Int × List Char) := do
  let (hours, rest) ← twoDigits '9' cs
  let (minutes, rest) ← twoDigits '5' (rest.dropWhile fun c => c = ':' || isBlank c)
  return (Int.ofNat (hours * 3600 + minutes * 60), rest)

/-- A zone, as the seconds its clocks are ahead. -/
def zone : List Char → Option (Int × List Char)
  | c :: rest =>
    if c.toLower = 'u' then
      match rest with
      | t :: u :: rest => if t.toLower = 't' ∧ u.toLower = 'c' then some (0, rest) else none
      | _ => none
    else if c.toLower = 'z' then some (0, rest)
    else if c = '+' then hoursAndMinutes rest
    else if c = '-' ∨ c = Char.ofNat 0x2212 then
      (hoursAndMinutes rest).map fun (n, rest) => (-n, rest)
    else none
  | [] => none

def date (cs : List Char) : Option (Date × List Char) := do
  let (year, rest) ← year cs
  let (month, rest) ← short (← mark '-' rest)
  let (day, rest) ← short (← mark '-' rest)
  return (⟨year, month, day⟩, rest)

def separator : List Char → Option (List Char)
  | c :: rest => if c = 'T' ∨ c = 't' ∨ c = ' ' then some rest else none
  | [] => none

/-- The seconds and nanoseconds of a time of day; the 61st second of a minute is a leap second. -/
def clock (cs : List Char) : Option ((Nat × Nat) × List Char) := do
  let (hour, rest) ← short cs
  let (minute, rest) ← short (← mark ':' rest)
  let (second, rest) ← short (← mark ':' rest)
  let (nano, rest) ← fraction rest
  guard (hour < 24 ∧ minute < 60 ∧ second ≤ 60)
  let leap := if second = 60 then 1 else 0
  return ((hour * 3600 + minute * 60 + (second - leap), nano + leap * 1000000000), rest)

/-- Read a moment. -/
def stamp? (s : String) : Option Stamp := do
  let (date, rest) ← date s.toList
  let ((seconds, nano), rest) ← clock (← separator rest)
  let (ahead, rest) ← zone (skipBlanks rest)
  guard (skipBlanks rest).isEmpty
  guard (date.valid ∧ Stamp.firstYear ≤ date.year ∧ date.year ≤ Stamp.lastYear)
  guard (ahead.natAbs < 86400)
  let stamp : Stamp := ⟨date.toDays * 86400 + seconds - ahead, nano⟩
  guard stamp.representable
  return stamp

end Agora.Time.Reader
