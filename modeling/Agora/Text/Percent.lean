import Agora.Text.Utf8

/-!
Percent escapes. A percent sign with two hexadecimal digits stands for an octet; any other percent
sign stands for itself. A form is a list of named values between ampersands in which a plus sign
stands for a space.
-/

set_option autoImplicit false

namespace Agora.Text.Percent

def hexOctet? (b : UInt8) : Option Nat := Bytes.hexValue? (Char.ofNat b.toNat)

/-- Replace each escape by its octet. -/
def decode : Bytes → Bytes
  | [] => []
  | 0x25 :: high :: low :: rest =>
    match hexOctet? high, hexOctet? low with
    | some h, some l => UInt8.ofNat (16 * h + l) :: decode rest
    | _, _ => 0x25 :: decode (high :: low :: rest)
  | b :: rest => b :: decode rest

def formText (b : Bytes) : String :=
  Utf8.lossy (decode (b.map fun x => if x = 0x2B then 0x20 else x))

/-- One named value: the first equals sign divides it, and without one the value is empty. -/
def formPair (piece : Bytes) : String × String :=
  (formText (piece.takeWhile (· ≠ 0x3D)), formText ((piece.dropWhile (· ≠ 0x3D)).drop 1))

/-- The named values of a form, in order; empty pieces are passed over. -/
def formPairs (form : Bytes) : List (String × String) :=
  ((form.splitOn 0x26).filter (!·.isEmpty)).map formPair

end Agora.Text.Percent
