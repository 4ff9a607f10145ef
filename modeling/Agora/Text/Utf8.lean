import Agora.Bytes

/-!
Reading octets that need not be UTF-8. Each longest piece that begins a character and is not
continued by one counts as one replacement character, so no octet is lost silently.
-/

set_option autoImplicit false

namespace Agora.Text.Utf8

/-- A character that has begun: the octets still owed, the range of the next one and the bits so
far. -/
structure Begun where
  owed : Nat
  low : Nat
  high : Nat
  bits : Nat

inductive Opening where
  | whole (c : Char)
  | begins (b : Begun)
  | stray

/-- The mark that stands for octets that are no character. -/
def replacement : Char := Char.ofNat 0xFFFD

/-- Classify an octet that follows a whole character. -/
def opening (n : Nat) : Opening :=
  if n < 0x80 then .whole (Char.ofNat n)
  else if n < 0xC2 then .stray
  else if n < 0xE0 then .begins ⟨1, 0x80, 0xBF, n - 0xC0⟩
  else if n < 0xF0 then
    .begins ⟨2, if n = 0xE0 then 0xA0 else 0x80, if n = 0xED then 0x9F else 0xBF, n - 0xE0⟩
  else if n < 0xF5 then
    .begins ⟨3, if n = 0xF0 then 0x90 else 0x80, if n = 0xF4 then 0x8F else 0xBF, n - 0xF0⟩
  else .stray

/-- The characters of the octets after a character that may have begun. -/
def lossyFrom : Option Begun → Bytes → List Char
  | none, [] => []
  | some _, [] => [replacement]
  | none, b :: rest =>
    match opening b.toNat with
    | .whole c => c :: lossyFrom none rest
    | .begins p => lossyFrom (some p) rest
    | .stray => replacement :: lossyFrom none rest
  | some p, b :: rest =>
    if p.low ≤ b.toNat ∧ b.toNat ≤ p.high then
      let bits := 64 * p.bits + (b.toNat - 0x80)
      if p.owed ≤ 1 then Char.ofNat bits :: lossyFrom none rest
      else lossyFrom (some ⟨p.owed - 1, 0x80, 0xBF, bits⟩) rest
    else
      match opening b.toNat with
      | .whole c => replacement :: c :: lossyFrom none rest
      | .begins q => replacement :: lossyFrom (some q) rest
      | .stray => replacement :: replacement :: lossyFrom none rest

/-- The text of any octets, with replacement characters where they are not UTF-8. -/
def lossy (b : Bytes) : String := String.ofList (lossyFrom none b)

end Agora.Text.Utf8
