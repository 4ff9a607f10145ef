import Agora.Text.CaseTable

/-!
The lower case of a text. Every letter is mapped on its own but the capital sigma, whose lower case
is the final form at the end of a word: after a cased letter and before none, characters such as
apostrophes and combining marks being passed over.
-/

set_option autoImplicit false

namespace Agora.Text

open CaseTable

def inRanges (ranges : List (Nat × Nat)) (n : Nat) : Bool :=
  ranges.any fun r => r.1 ≤ n && n ≤ r.2

def CaseTable.LowerRun.covers (r : LowerRun) (n : Nat) : Bool :=
  r.first ≤ n && n ≤ r.last && (n - r.first) % r.step == 0

/-- A character that is passed over when the neighbours of a sigma are looked at. -/
def isCaseIgnorable (c : Char) : Bool := inRanges CaseTable.ignorable c.toNat

def isCased (c : Char) : Bool := inRanges CaseTable.cased c.toNat

def lowerChar (c : Char) : List Char :=
  let n := c.toNat
  if n < 128 then [if 65 ≤ n ∧ n ≤ 90 then Char.ofNat (n + 32) else c]
  else if n = 0x130 then ['i', Char.ofNat 0x307]
  else
    match lowerRuns.find? (·.covers n) with
    | some r => [Char.ofNat (Int.toNat (n + r.shift))]
    | none => [c]

/-- The nearest character that is not passed over has a case. -/
def meetsCased (cs : List Char) : Bool :=
  match cs.dropWhile isCaseIgnorable with
  | c :: _ => isCased c
  | [] => false

/-- The lower case of a capital sigma between the reversed text before it and the text after it. -/
def lowerSigma (before after : List Char) : Char :=
  if meetsCased before && !meetsCased after then Char.ofNat 0x3C2 else Char.ofNat 0x3C3

/-- The lower case of the text after `before`, which is reversed. -/
def lowerAfter (before : List Char) : List Char → List Char
  | [] => []
  | c :: rest =>
    if c.toNat = 0x3A3 then lowerSigma before rest :: lowerAfter (c :: before) rest
    else lowerChar c ++ lowerAfter (c :: before) rest

/-- The lower case of a text. -/
def lower (s : String) : List Char := lowerAfter [] s.toList

end Agora.Text
