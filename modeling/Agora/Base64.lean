import Agora.Bytes

/-!
Base 64. Three octets are four digits of six bits. A last group of one or two octets is written
with two or three digits whose spare bits are zero; a padded alphabet fills the group up with
equals signs, an unpadded one never writes them. Reading accepts exactly what writing produces.
-/

set_option autoImplicit false

namespace Agora.Base64

/-- The digits of one variant, and whether a short last group is filled up. -/
structure Alphabet where
  digits : List Char
  padded : Bool

def standard : Alphabet where
  digits := "ABCDEFGHIJKLMNOPQRSTUVWXYZabcdefghijklmnopqrstuvwxyz0123456789+/".toList
  padded := true

def urlSafe : Alphabet where
  digits := "ABCDEFGHIJKLMNOPQRSTUVWXYZabcdefghijklmnopqrstuvwxyz0123456789-_".toList
  padded := false

def crypt : Alphabet where
  digits := "./ABCDEFGHIJKLMNOPQRSTUVWXYZabcdefghijklmnopqrstuvwxyz0123456789".toList
  padded := false

namespace Alphabet

def digit (a : Alphabet) (value : Nat) : Char := a.digits.getD (value % 64) '='

def value? (a : Alphabet) (c : Char) : Option Nat := a.digits.idxOf? c

/-- Equals signs after a short group, where the alphabet has them. -/
def fill (a : Alphabet) (n : Nat) : List Char := if a.padded then List.replicate n '=' else []

def encode (a : Alphabet) : Bytes → List Char
  | [] => []
  | [x] => [a.digit (x.toNat / 4), a.digit (x.toNat % 4 * 16)] ++ a.fill 2
  | [x, y] =>
    [a.digit (x.toNat / 4), a.digit (x.toNat % 4 * 16 + y.toNat / 16), a.digit (y.toNat % 16 * 4)]
      ++ a.fill 1
  | x :: y :: z :: rest =>
    a.digit (x.toNat / 4) :: a.digit (x.toNat % 4 * 16 + y.toNat / 16) ::
      a.digit (y.toNat % 16 * 4 + z.toNat / 64) :: a.digit (z.toNat % 64) :: encode a rest

/-- The octet of two digits that end the text; the spare bits must be zero. -/
def lastOctet? (a : Alphabet) (c d : Char) : Option Bytes := do
  let i ← a.value? c
  let j ← a.value? d
  if j % 16 = 0 then some [UInt8.ofNat (i * 4 + j / 16)] else none

def lastOctets? (a : Alphabet) (c d e : Char) : Option Bytes := do
  let i ← a.value? c
  let j ← a.value? d
  let k ← a.value? e
  if k % 4 = 0 then some [UInt8.ofNat (i * 4 + j / 16), UInt8.ofNat (j % 16 * 16 + k / 4)]
  else none

def decode? (a : Alphabet) : List Char → Option Bytes
  | [] => some []
  | [_] => none
  | [c, d] => if a.padded then none else a.lastOctet? c d
  | [c, d, e] => if a.padded then none else a.lastOctets? c d e
  | c :: d :: e :: f :: rest =>
    if a.padded && f = '=' then
      if rest.isEmpty then if e = '=' then a.lastOctet? c d else a.lastOctets? c d e
      else none
    else do
      let i ← a.value? c
      let j ← a.value? d
      let k ← a.value? e
      let l ← a.value? f
      let tail ← decode? a rest
      return UInt8.ofNat (i * 4 + j / 16) :: UInt8.ofNat (j % 16 * 16 + k / 4) ::
        UInt8.ofNat (k % 4 * 64 + l) :: tail

end Alphabet

end Agora.Base64
