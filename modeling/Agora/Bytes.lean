set_option autoImplicit false

namespace Agora

abbrev Bytes := List UInt8

namespace Bytes

def ofString (s : String) : Bytes := s.toUTF8.data.toList

/-- The string whose UTF-8 octets these are, if there is one. -/
def toString? (b : Bytes) : Option String := String.fromUTF8? ⟨b.toArray⟩

/-- The text of octets that are all ASCII, one character for each. -/
def asciiText (b : Bytes) : String := String.ofList (b.map fun x => Char.ofNat x.toNat)

theorem toString?_ofString (s : String) : toString? (ofString s) = some s := by
  have valid : s.toByteArray.IsValidUTF8 := s.isValidUTF8
  simp [toString?, ofString, String.toUTF8, String.fromUTF8?, String.fromUTF8, valid]

theorem ofString_of_toString? {b : Bytes} {s : String} (read : toString? b = some s) :
    ofString s = b := by
  unfold toString? String.fromUTF8? at read
  split at read
  · cases read
    simp [ofString, String.toUTF8, String.fromUTF8]
  · cases read

def hexDigit (n : Nat) : Char :=
  if n < 10 then Char.ofNat (48 + n) else Char.ofNat (87 + n)

def toHex (b : Bytes) : String :=
  String.ofList (b.flatMap fun x => [hexDigit (x.toNat / 16), hexDigit (x.toNat % 16)])

def hexValue? (c : Char) : Option Nat :=
  if '0' ≤ c ∧ c ≤ '9' then some (c.toNat - 48)
  else if 'a' ≤ c ∧ c ≤ 'f' then some (c.toNat - 87)
  else if 'A' ≤ c ∧ c ≤ 'F' then some (c.toNat - 55)
  else none

def ofHex? : List Char → Option Bytes
  | [] => some []
  | high :: low :: rest => do
    let h ← hexValue? high
    let l ← hexValue? low
    let tail ← ofHex? rest
    return UInt8.ofNat (16 * h + l) :: tail
  | [_] => none

end Bytes

end Agora
