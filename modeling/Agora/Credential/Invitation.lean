import Agora.Digest.Sha256
import Agora.Powers

set_option autoImplicit false

namespace Agora.Credential

/-- What is stored of a token. -/
def hashToken (token : String) : String :=
  Bytes.toHex (Digest.Sha256.hash (Bytes.ofString token))

/-- A random identifier, from a drawn number: 122 bits of it, with version and variant between. -/
def identifier (draw : Nat) : String :=
  let hex (width n : Nat) : List Char :=
    (List.range width).map fun i => Bytes.hexDigit (n >>> (4 * (width - 1 - i)) % 16)
  let high := draw >>> 74
  let mid := draw >>> 62 % 2 ^ 12
  let low := draw % 2 ^ 62
  String.ofList <|
    hex 8 (high >>> 16) ++ '-' :: hex 4 high ++ '-' :: '4' :: hex 3 mid ++ '-' ::
      hex 4 (0x8000 + low >>> 48) ++ '-' :: hex 12 low

/-- A token for the user, and what is stored of it. -/
structure Invitation where
  token : String
  digest : String
  deriving DecidableEq, Repr

def Invitation.ofDraw (draw : Nat) : Invitation :=
  let token := identifier draw
  ⟨token, hashToken token⟩

end Agora.Credential
