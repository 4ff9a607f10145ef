import Agora.Base64
import Agora.Cipher.Blowfish
import Agora.Digest.Sha256
import Agora.Text.Numeral

/-!
Password hashes. The key is the password's octets and a null octet, cut to 72; a work factor tells
how often key and salt are mixed in, two to its power. The written form is a dollar sign, a
version, the factor in two digits, and salt and digest in base 64. Verifying hashes the password
again under the written factor and salt; a text that is no such form is an error and never a match.
-/

set_option autoImplicit false

namespace Agora.Credential

inductive HashFault where
  | costOutOfRange (cost : Nat)
  | malformedHash
  deriving Repr, DecidableEq

def HashFault.message : HashFault → String
  | .costOutOfRange cost => s!"Cost needs to be between 4 and 31, got {cost}"
  | .malformedHash => "invalid hash"

namespace Password

/-- The least and the greatest work factor. -/
def leastCost : Nat := 4

def mostCost : Nat := 31

def costAllowed (cost : Nat) : Bool := leastCost ≤ cost && cost ≤ mostCost

/-- The octets that the cipher is keyed with. -/
def key (password : String) : Bytes := (Bytes.ofString password ++ [0]).take 72

/-- The text that the digest encrypts, as words. -/
def plainWords : List (UInt32 × UInt32) :=
  [(0x4F727068, 0x65616E42), (0x65686F6C, 0x64657253), (0x63727944, 0x6F756274)]

/-- The digest of a key under a work factor and a salt of sixteen octets: 23 octets. -/
def digest (cost : Nat) (salt key : Bytes) : Bytes :=
  let keyWords := Cipher.Blowfish.keyWords key
  let saltWords := Cipher.Blowfish.keyWords salt
  let start := Cipher.Blowfish.expand keyWords saltWords Cipher.Blowfish.initial
  let s := Cipher.Blowfish.expandBoth keyWords saltWords (2 ^ cost) start
  let blocks := plainWords.flatMap fun block =>
    let (l, r) := Cipher.Blowfish.encryptTimes s 64 block.1 block.2
    Digest.Sha256.bigEndian 4 l.toNat ++ Digest.Sha256.bigEndian 4 r.toNat
  blocks.take 23

/-- The parts of a written hash. -/
structure Hashed where
  cost : Nat
  salt : Bytes
  digest : Bytes
  deriving DecidableEq

def twoDigits (n : Nat) : String :=
  String.ofList [Char.ofNat (48 + n / 10 % 10), Char.ofNat (48 + n % 10)]

def Hashed.render (h : Hashed) : String :=
  "$2b$" ++ twoDigits h.cost ++ "$" ++
    String.ofList (Base64.crypt.encode h.salt ++ Base64.crypt.encode h.digest)

/-- The versions of the form; all are compared alike. -/
def versions : List String := ["2y", "2b", "2a", "2x"]

/-- Read a written hash: the pieces between dollar signs, empty ones passed over. -/
def Hashed.parse? (text : String) : Option Hashed :=
  match (text.toList.splitOn '$').filter (!·.isEmpty) with
  | [version, cost, tail] => do
    guard (versions.contains (String.ofList version))
    guard (tail.length = 53)
    let cost ← (Text.Numeral.word32 (String.ofList cost)).toOption
    let salt ← Base64.crypt.decode? (tail.take 22)
    let digest ← Base64.crypt.decode? (tail.drop 22)
    return ⟨cost, salt, digest⟩
  | _ => none

def hash (password : String) (cost : Nat) (salt : Bytes) : Except HashFault String :=
  if costAllowed cost then .ok (Hashed.render ⟨cost, salt, digest cost salt (key password)⟩)
  else .error (.costOutOfRange cost)

/-- Whether a password is the one that was hashed. -/
def verify (password hash : String) : Except HashFault Bool :=
  match Hashed.parse? hash with
  | none => .error .malformedHash
  | some h =>
    if costAllowed h.cost then .ok (digest h.cost h.salt (key password) == h.digest)
    else .error (.costOutOfRange h.cost)

end Password

/-- A way to hash passwords, from a work factor and a salt, and to compare one with a hash. -/
structure Hasher where
  hash : String → Nat → Bytes → Except HashFault String
  verify : String → String → Except HashFault Bool

def Password.hasher : Hasher := ⟨hash, verify⟩

end Agora.Credential
