import Agora.Digest.Sha256

set_option autoImplicit false

namespace Agora.Digest.Hmac

/-- A key as one block of 64 octets. -/
def block (key : Bytes) : Bytes :=
  let short := if 64 < key.length then Sha256.hash key else key
  short ++ List.replicate (64 - short.length) 0

/-- The digest of a message under a key. -/
def sign (key message : Bytes) : Bytes :=
  let k := block key
  Sha256.hash (k.map (· ^^^ 0x5C) ++ Sha256.hash (k.map (· ^^^ 0x36) ++ message))

end Agora.Digest.Hmac
