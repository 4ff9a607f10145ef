import Agora.Text.Numeral
import Agora.Bytes

/-!
Internet addresses and their texts. An address of four octets is written in decimal without leading
zeros. One of eight words is written in hexadecimal, the first of the longest runs of two or more
zero words being left out between two colons; where the address stands for one of four octets, the
last two words are written as those. Every spelling of an address reads as that address.
-/

set_option autoImplicit false

namespace Agora.Address

inductive Ip where
  | v4 (a b c d : UInt8)
  | v6 (groups : Vector UInt16 8)
  deriving DecidableEq

namespace Ip

def digit? (base : Nat) (c : Char) : Option Nat :=
  (Bytes.hexValue? c).filter (· < base)

/-- The longest run of digits at the start of a text, and the text after it. -/
def digitRun (base : Nat) : List Char → List Nat × List Char
  | [] => ([], [])
  | c :: rest =>
    match digit? base c with
    | some d => let (ds, after) := digitRun base rest; (d :: ds, after)
    | none => ([], c :: rest)

def digitsValue (base : Nat) (ds : List Nat) : Nat := ds.foldl (fun n d => n * base + d) 0

/-- A number of one to `width` digits that no digit follows. -/
def number (base width : Nat) (cs : List Char) : Option (Nat × List Char) :=
  let (ds, rest) := digitRun base cs
  if ds.isEmpty || width < ds.length then none else some (digitsValue base ds, rest)

/-- One octet in decimal without leading zeros. -/
def octet (cs : List Char) : Option (UInt8 × List Char) := do
  let (n, rest) ← number 10 3 cs
  guard (n < 256)
  guard (cs.head? ≠ some '0' ∨ rest.length + 1 = cs.length)
  return (UInt8.ofNat n, rest)

def after (c : Char) : List Char → Option (List Char)
  | d :: rest => if c = d then some rest else none
  | [] => none

def readFour (cs : List Char) : Option ((UInt8 × UInt8 × UInt8 × UInt8) × List Char) := do
  let (a, rest) ← octet cs
  let (b, rest) ← octet (← after '.' rest)
  let (c, rest) ← octet (← after '.' rest)
  let (d, rest) ← octet (← after '.' rest)
  return ((a, b, c, d), rest)

/-- The text of a group: a colon stands before it unless it is the first. -/
def groupStart (first : Bool) (cs : List Char) : Option (List Char) :=
  if first then some cs else after ':' cs

def joinOctets (high low : UInt8) : UInt16 := UInt16.ofNat (high.toNat * 256 + low.toNat)

/-- A run of groups and how it ended. -/
structure Groups where
  words : List UInt16
  /-- The last two words were written as four octets. -/
  embedded : Bool
  rest : List Char

/-- Read groups while there are any, at most `room` of them. -/
def readGroups (first : Bool) : Nat → List Char → Groups
  | 0, cs => ⟨[], false, cs⟩
  | room + 1, cs =>
    match (if room = 0 then none else (groupStart first cs).bind readFour) with
    | some ((a, b, c, d), rest) => ⟨[joinOctets a b, joinOctets c d], true, rest⟩
    | none =>
      match (groupStart first cs).bind (number 16 4) with
      | some (n, rest) =>
        let tail := readGroups false room rest
        { tail with words := UInt16.ofNat n :: tail.words }
      | none => ⟨[], false, cs⟩

def ofWords (words : List UInt16) : Vector UInt16 8 := Vector.ofFn fun i => words.getD i 0

/-- An address of eight words and the text after it. -/
def readSix (cs : List Char) : Option (Vector UInt16 8 × List Char) := do
  let head := readGroups true 8 cs
  if head.words.length = 8 then return (ofWords head.words, head.rest)
  guard (!head.embedded)
  let rest ← after ':' (← after ':' head.rest)
  let tail := readGroups true (7 - head.words.length) rest
  let gap := 8 - head.words.length - tail.words.length
  return (ofWords (head.words ++ List.replicate gap 0 ++ tail.words), tail.rest)

def parse? (s : String) : Option Ip :=
  match readFour s.toList with
  | some ((a, b, c, d), rest) => if rest.isEmpty then some (.v4 a b c d) else none
  | none =>
    match readSix s.toList with
    | some (groups, rest) => if rest.isEmpty then some (.v6 groups) else none
    | none => none

def fourText (a b c d : UInt8) : String :=
  s!"{a.toNat}.{b.toNat}.{c.toNat}.{d.toNat}"

def wordText (w : UInt16) : String := String.ofList (Nat.toDigits 16 w.toNat)

def wordsText (ws : List UInt16) : String := ":".intercalate (ws.map wordText)

def zeros (ws : List UInt16) : Nat := (ws.takeWhile (· = 0)).length

/-- Where the first of the longest runs of zero words starts, and its length. -/
def longestZeros (ws : List UInt16) : Nat × Nat :=
  (List.range ws.length).foldl
    (fun best i => let n := zeros (ws.drop i); if best.2 < n then (i, n) else best) (0, 0)

/-- Eight words, the longest run of zeros left out. -/
def sixText (ws : List UInt16) : String :=
  let (start, length) := longestZeros ws
  if 1 < length then
    wordsText (ws.take start) ++ "::" ++ wordsText (ws.drop (start + length))
  else wordsText ws

def render : Ip → String
  | .v4 a b c d => fourText a b c d
  | .v6 groups =>
    match groups.toList with
    | [0, 0, 0, 0, 0, 0xFFFF, x, y] =>
      "::ffff:" ++ fourText (x >>> 8).toUInt8 x.toUInt8 (y >>> 8).toUInt8 y.toUInt8
    | ws => sixText ws

end Ip

end Agora.Address
