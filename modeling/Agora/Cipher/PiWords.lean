import Agora.Powers

/-!
The binary digits of the circle number, in words of 32 bits. They come from Machin's formula, a
quarter of the number being four arcs of tangent 1/5 less one of tangent 1/239, summed in fixed
point with spare bits at the end.
-/

set_option autoImplicit false

namespace Agora.Cipher.PiWords

/-- Bits kept beyond the wanted ones, to take up the rounding of the terms. -/
def spareBits : Nat := 64

/-- Add the terms of the arc's series from number `k` on; `power` is the current power of 1/x. -/
def addTerms (square : Nat) : Nat → Nat → Nat → Int → Int
  | 0, _, _, sum => sum
  | left + 1, power, k, sum =>
    let term : Int := Int.ofNat (power / (2 * k + 1))
    addTerms square left (power / square) (k + 1) (if k % 2 = 0 then sum + term else sum - term)

/-- The arc whose tangent is 1/x, in units of 2 to the power of -`bits`. -/
def arcTangent (bits x : Nat) : Int := addTerms (x * x) (bits / 4) (2 ^ bits / x) 0 0

/-- The circle number in units of 2 to the power of -`bits`, nearly. -/
def scaled (bits : Nat) : Int := 4 * (4 * arcTangent bits 5 - arcTangent bits 239)

def firstWords (count : Nat) : Array UInt32 :=
  let bits := 32 * count
  let digits := (scaled (bits + spareBits)).toNat >>> spareBits
  (List.range count).toArray.map fun i => UInt32.ofNat (digits >>> (bits - 32 * (i + 1)))

end Agora.Cipher.PiWords
