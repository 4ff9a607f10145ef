import Agora.Bytes
import Agora.Cipher.PiWords

/-!
The block cipher of password hashes. Eighteen subkeys and four boxes of 256 words turn a block of
two words into another in sixteen rounds. A key is mixed in by adding its words to the subkeys and
then replacing subkeys and boxes by the encryption of a running block, which a salt may stir.
-/

set_option autoImplicit false

namespace Agora.Cipher.Blowfish

/-- The subkeys and, one behind the other, the four boxes. -/
structure Schedule where
  subkeys : Array UInt32
  boxes : Array UInt32

/-- The words of the circle number that the tables begin with. -/
def startWords : Array UInt32 := PiWords.firstWords 1042

def initial : Schedule := ⟨startWords.extract 0 18, startWords.extract 18 1042⟩

/-- The mixing of one half of a block: one word from each box. -/
def mix (boxes : Array UInt32) (x : UInt32) : UInt32 :=
  let a := boxes.getD (x >>> 24).toNat 0
  let b := boxes.getD (256 + ((x >>> 16) &&& 0xFF).toNat) 0
  let c := boxes.getD (512 + ((x >>> 8) &&& 0xFF).toNat) 0
  let d := boxes.getD (768 + (x &&& 0xFF).toNat) 0
  ((a + b) ^^^ c) + d

/-- The last steps of `left` rounds from round `i` on, the halves changing places after each. -/
def rounds (subkeys boxes : Array UInt32) : Nat → Nat → UInt32 → UInt32 → UInt32 × UInt32
  | 0, _, l, r => (r ^^^ subkeys.getD 17 0, l ^^^ subkeys.getD 16 0)
  | left + 1, i, l, r =>
    let l := l ^^^ subkeys.getD i 0
    rounds subkeys boxes left (i + 1) (r ^^^ mix boxes l) l

def encrypt (subkeys boxes : Array UInt32) (l r : UInt32) : UInt32 × UInt32 :=
  rounds subkeys boxes 16 0 l r

/-- The eighteen words of a key that is repeated without end. -/
def keyWords (key : Bytes) : Array UInt32 :=
  let octets := key.toArray
  let octet (i : Nat) : UInt32 := (octets.getD (i % octets.size) 0).toUInt32
  (List.range 18).toArray.map fun i =>
    (octet (4 * i) <<< 24) ||| (octet (4 * i + 1) <<< 16) ||| (octet (4 * i + 2) <<< 8) |||
      octet (4 * i + 3)

/-- Replace `left` pairs of subkeys from pair `i` on by encryptions of the running block. -/
def fillSubkeys (salt boxes : Array UInt32) :
    Nat → Nat → UInt32 → UInt32 → Array UInt32 → Array UInt32 × UInt32 × UInt32
  | 0, _, l, r, subkeys => (subkeys, l, r)
  | left + 1, i, l, r, subkeys =>
    let (l, r) := encrypt subkeys boxes (l ^^^ salt.getD (2 * i % 4) 0)
      (r ^^^ salt.getD ((2 * i + 1) % 4) 0)
    fillSubkeys salt boxes left (i + 1) l r ((subkeys.set! (2 * i) l).set! (2 * i + 1) r)

/-- Replace `left` pairs of box words from pair `i` on by encryptions of the running block. -/
def fillBoxes (salt subkeys : Array UInt32) :
    Nat → Nat → UInt32 → UInt32 → Array UInt32 → Array UInt32
  | 0, _, _, _, boxes => boxes
  | left + 1, i, l, r, boxes =>
    let (l, r) := encrypt subkeys boxes (l ^^^ salt.getD ((2 * i + 2) % 4) 0)
      (r ^^^ salt.getD ((2 * i + 3) % 4) 0)
    fillBoxes salt subkeys left (i + 1) l r ((boxes.set! (2 * i) l).set! (2 * i + 1) r)

/-- Mix a key into the tables, stirred by a salt of four words. -/
def expand (key salt : Array UInt32) (s : Schedule) : Schedule :=
  let (subkeys, l, r) := fillSubkeys salt s.boxes 9 0 0 0 (s.subkeys.zipWith (· ^^^ ·) key)
  ⟨subkeys, fillBoxes salt subkeys 512 0 l r s.boxes⟩

/-- The salt that stirs nothing. -/
def noSalt : Array UInt32 := #[0, 0, 0, 0]

def expandBoth (key other : Array UInt32) : Nat → Schedule → Schedule
  | 0, s => s
  | times + 1, s => expandBoth key other times (expand other noSalt (expand key noSalt s))

def encryptTimes (s : Schedule) : Nat → UInt32 → UInt32 → UInt32 × UInt32
  | 0, l, r => (l, r)
  | times + 1, l, r =>
    let (l, r) := encrypt s.subkeys s.boxes l r
    encryptTimes s times l r

end Agora.Cipher.Blowfish
