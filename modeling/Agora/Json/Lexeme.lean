import Agora.Binary64
import Agora.Bytes

/-!
The pieces of a JSON text: blanks, strings, numbers and the three names. Every reader goes from
left to right and says why it stops: the text is malformed, or it is well formed so far and holds
something else than was wanted.
-/

set_option autoImplicit false

namespace Agora.Json

/-- Why a text does not give the wanted value. -/
inductive Fault where
  /-- The text breaks the rules of the format. -/
  | malformed
  /-- The text holds a value of another shape. -/
  | mismatched
  deriving Repr, DecidableEq

/-- What a reader makes of a text: a value and the text after it. -/
abbrev Read (α : Type) := Except Fault (α × Bytes)

namespace Lexeme

def isSpace (b : UInt8) : Bool := b = 0x20 || b = 0x0A || b = 0x0D || b = 0x09

def skipSpace (bs : Bytes) : Bytes := bs.dropWhile isSpace

def isDigit (b : UInt8) : Bool := 0x30 ≤ b && b ≤ 0x39

def after? (piece : String) (bs : Bytes) : Option Bytes :=
  let octets := Bytes.ofString piece
  if octets.isPrefixOf bs then some (bs.drop octets.length) else none

/-- The text after an expected mark, blanks before it being skipped. -/
def mark (b : UInt8) (bs : Bytes) : Except Fault Bytes :=
  match skipSpace bs with
  | c :: rest => if b = c then .ok rest else .error .malformed
  | [] => .error .malformed

/-- Divide a string after its opening quote at the closing one: the octets between, reversed, and
the text after. A control character ends the reading. -/
def rawString (seen : Bytes) : Bytes → Option (Bytes × Bytes)
  | [] => none
  | 0x22 :: rest => some (seen, rest)
  | 0x5C :: b :: rest => if b < 0x20 then none else rawString (b :: 0x5C :: seen) rest
  | b :: rest => if b < 0x20 then none else rawString (b :: seen) rest

def shortEscape? (b : UInt8) : Option UInt8 :=
  if b = 0x22 ∨ b = 0x5C ∨ b = 0x2F then some b
  else if b = 0x62 then some 8
  else if b = 0x66 then some 12
  else if b = 0x6E then some 10
  else if b = 0x72 then some 13
  else if b = 0x74 then some 9
  else none

def unit? (a b c d : UInt8) : Option Nat := do
  let a ← Bytes.hexValue? (Char.ofNat a.toNat)
  let b ← Bytes.hexValue? (Char.ofNat b.toNat)
  let c ← Bytes.hexValue? (Char.ofNat c.toNat)
  let d ← Bytes.hexValue? (Char.ofNat d.toNat)
  return ((a * 16 + b) * 16 + c) * 16 + d

/-- The first unit of a pair. -/
def isHighUnit (n : Nat) : Bool := 0xD800 ≤ n && n < 0xDC00

def isLowUnit (n : Nat) : Bool := 0xDC00 ≤ n && n < 0xE000

/-- The UTF-8 octets of a character's number, reversed. -/
def octetsOf (n : Nat) : Bytes := (String.utf8EncodeChar (Char.ofNat n)).reverse

/-- Replace the escapes; `seen` is the result so far, reversed, and `high` the first unit of a pair
that was just read. Half a pair is an error. -/
def unescape (seen : Bytes) (high : Option Nat) : Bytes → Option Bytes
  | [] => if high.isSome then none else some seen.reverse
  | 0x5C :: 0x75 :: a :: b :: c :: d :: rest =>
    match unit? a b c d, high with
    | none, _ => none
    | some n, some h =>
      if isLowUnit n then
        unescape (octetsOf (0x10000 + (h - 0xD800) * 0x400 + (n - 0xDC00)) ++ seen) none rest
      else none
    | some n, none =>
      if isHighUnit n then unescape seen (some n) rest
      else if isLowUnit n then none
      else unescape (octetsOf n ++ seen) none rest
  | 0x5C :: b :: rest =>
    match shortEscape? b, high with
    | some e, none => unescape (e :: seen) none rest
    | _, _ => none
  | b :: rest => if high.isSome then none else unescape (b :: seen) none rest

/-- A string after its opening quote. -/
def string (bs : Bytes) : Read String :=
  match rawString [] bs with
  | none => .error .malformed
  | some (raw, rest) =>
    match (unescape [] none raw.reverse).bind Bytes.toString? with
    | some s => .ok (s, rest)
    | none => .error .malformed

/-- Each escape of a raw string is one that exists; units need not pair up. -/
def escapesExist : Bytes → Bool
  | [] => true
  | 0x5C :: 0x75 :: a :: b :: c :: d :: rest => (unit? a b c d).isSome && escapesExist rest
  | 0x5C :: b :: rest => (shortEscape? b).isSome && escapesExist rest
  | _ :: rest => escapesExist rest

/-- The text after a string whose contents do not matter, from its opening quote on. -/
def skipString (bs : Bytes) : Option Bytes :=
  match rawString [] bs with
  | none => none
  | some (raw, rest) => if escapesExist raw.reverse then some rest else none

structure Numeral where
  negative : Bool
  integer : Bytes
  fraction : Option Bytes
  /-- The sign and the digits of the exponent. -/
  exponent : Option (Option UInt8 × Bytes)

def digits (bs : Bytes) : Option (Bytes × Bytes) :=
  let ds := bs.takeWhile isDigit
  if ds.isEmpty then none else some (ds, bs.dropWhile isDigit)

/-- The digits before the point; a zero stands alone. -/
def integerPart : Bytes → Option (Bytes × Bytes)
  | 0x30 :: rest =>
    match rest with
    | b :: _ => if isDigit b then none else some ([0x30], rest)
    | [] => some ([0x30], [])
  | bs => digits bs

def fractionPart : Bytes → Option (Option Bytes × Bytes)
  | 0x2E :: rest => (digits rest).map fun (ds, after) => (some ds, after)
  | bs => some (none, bs)

def exponentPart : Bytes → Option (Option (Option UInt8 × Bytes) × Bytes)
  | b :: rest =>
    if b = 0x65 ∨ b = 0x45 then
      match rest with
      | s :: more =>
        if s = 0x2B ∨ s = 0x2D then
          (digits more).map fun (ds, after) => (some (some s, ds), after)
        else (digits rest).map fun (ds, after) => (some (none, ds), after)
      | [] => none
    else some (none, b :: rest)
  | [] => some (none, [])

def numeral? (bs : Bytes) : Option (Numeral × Bytes) := do
  let (negative, rest) := match bs with
    | 0x2D :: rest => (true, rest)
    | _ => (false, bs)
  let (integer, rest) ← integerPart rest
  let (fraction, rest) ← fractionPart rest
  let (exponent, rest) ← exponentPart rest
  return (⟨negative, integer, fraction, exponent⟩, rest)

def valueOf (ds : Bytes) : Nat := ds.foldl (fun n b => 10 * n + (b.toNat - 0x30)) 0

namespace Numeral

def power (n : Numeral) : Int :=
  match n.exponent with
  | none => 0
  | some (sign, ds) => if sign = some 0x2D then -Int.ofNat (valueOf ds) else valueOf ds

/-- Gather digits behind a whole number for as long as it fits 64 bits; the number and the digits
that are left. -/
def gather (seen : Nat) : Bytes → Nat × Bytes
  | [] => (seen, [])
  | b :: rest =>
    let next := 10 * seen + (b.toNat - 0x30)
    if next < 2 ^ 64 then gather next rest else (seen, b :: rest)

/-- The number is out of range. Its value is worked out in steps: as many digits as fit 64 bits are
the significand, those left before the point count as zeros and those left behind it not at all. -/
def overflows (n : Numeral) : Bool :=
  let fraction := n.fraction.getD []
  let (significand, zeros) := gather 0 n.integer
  let (significand, unused) := gather significand fraction
  let places := fraction.length - unused.length
  Binary64.productOverflows significand (n.power + zeros.length - places)

/-- The whole number that is written, if it has no fraction, no exponent and no signed zero and
fits 64 bits, with or without a sign. -/
def whole? (n : Numeral) : Option Int :=
  let value := valueOf n.integer
  if n.fraction.isSome || n.exponent.isSome then none
  else if n.negative then
    if 0 < value ∧ value ≤ 2 ^ 63 then some (-Int.ofNat value) else none
  else if value < 2 ^ 64 then some value else none

def text (n : Numeral) : String :=
  Bytes.asciiText <| (if n.negative then [0x2D] else []) ++ n.integer ++
    (match n.fraction with | some ds => 0x2E :: ds | none => []) ++
    (match n.exponent with | some (sign, ds) => 0x65 :: sign.toList ++ ds | none => [])

end Numeral

/-- A number of a value that must be known: one that is out of range is an error. -/
def numeral (bs : Bytes) : Read Numeral :=
  match numeral? bs with
  | some (n, rest) => if n.whole?.isNone && n.overflows then .error .malformed else .ok (n, rest)
  | none => .error .malformed

/-- The text after a value that is neither an array nor an object. -/
def skipScalar : Bytes → Option Bytes
  | [] => none
  | b :: rest =>
    if b = 0x6E then after? "ull" rest
    else if b = 0x74 then after? "rue" rest
    else if b = 0x66 then after? "alse" rest
    else if b = 0x22 then skipString rest
    else (numeral? (b :: rest)).map (·.2)

/-- What a container is closed by. -/
inductive Container where
  | array
  | object

inductive Stage where
  /-- A value follows. -/
  | value
  /-- A container has just been opened. -/
  | opened
  /-- A value has ended. -/
  | ended

/-- The text after the name of a member and its colon. -/
def skipKey (bs : Bytes) : Option Bytes :=
  match skipSpace bs with
  | 0x22 :: rest => (skipString rest).bind fun rest => (mark 0x3A rest).toOption
  | _ => none

def Container.close : Container → UInt8
  | .array => 0x5D
  | .object => 0x7D

def Container.next : Container → Bytes → Option Bytes
  | .array, bs => some bs
  | .object, bs => skipKey bs

/-- Skip a value inside the containers of `stack`. -/
def skipWithin : Nat → Stage → List Container → Bytes → Option Bytes
  | 0, _, _, _ => none
  | fuel + 1, .value, stack, bs =>
    match skipSpace bs with
    | 0x5B :: rest => skipWithin fuel .opened (.array :: stack) rest
    | 0x7B :: rest => skipWithin fuel .opened (.object :: stack) rest
    | bs => (skipScalar bs).bind (skipWithin fuel .ended stack)
  | _ + 1, .opened, [], bs => some bs
  | fuel + 1, .opened, top :: stack, bs =>
    match mark top.close bs with
    | .ok rest => skipWithin fuel .ended stack rest
    | .error _ => (top.next bs).bind (skipWithin fuel .value (top :: stack))
  | _ + 1, .ended, [], bs => some bs
  | fuel + 1, .ended, top :: stack, bs =>
    match mark top.close bs with
    | .ok rest => skipWithin fuel .ended stack rest
    | .error _ =>
      match mark 0x2C bs with
      | .ok rest => (top.next rest).bind (skipWithin fuel .value (top :: stack))
      | .error _ => none

/-- The text after a value whose contents do not matter. -/
def skipValue (bs : Bytes) : Except Fault Bytes :=
  match skipWithin (2 * bs.length + 2) .value [] bs with
  | some rest => .ok rest
  | none => .error .malformed

/-- Why a value that starts here is not the wanted one: it is malformed itself, or of another
shape. A container is of another shape whatever it holds. -/
def mismatch (bs : Bytes) : Fault :=
  match bs with
  | [] => .malformed
  | b :: rest =>
    let wellFormed :=
      if b = 0x5B ∨ b = 0x7B then true
      else if b = 0x6E then (after? "ull" rest).isSome
      else if b = 0x74 then (after? "rue" rest).isSome
      else if b = 0x66 then (after? "alse" rest).isSome
      else if b = 0x22 then (string rest).toOption.isSome
      else (numeral (b :: rest)).toOption.isSome
    if wellFormed then .mismatched else .malformed

def items {α : Type} (item : Bytes → Read α) :
    Nat → Bool → List α → Bytes → Except Fault (List α × Bytes)
  | 0, _, _, _ => .error .malformed
  | fuel + 1, first, seen, bs =>
    match skipSpace bs with
    | 0x5D :: rest => .ok (seen.reverse, rest)
    | bs => do
      let bs ← if first then pure bs else mark 0x2C bs
      let (a, rest) ← item bs
      items item fuel false (a :: seen) rest

/-- Read the members of an object after its opening brace; `member` reads what follows a name. -/
def members {σ : Type} (member : String → σ → Bytes → Read σ) :
    Nat → Bool → σ → Bytes → Except Fault (σ × Bytes)
  | 0, _, _, _ => .error .malformed
  | fuel + 1, first, state, bs =>
    match skipSpace bs with
    | 0x7D :: rest => .ok (state, rest)
    | bs => do
      let bs ← if first then pure bs else mark 0x2C bs
      let rest ← mark 0x22 bs
      let (name, rest) ← string rest
      let (state, rest) ← member name state rest
      members member fuel false state rest

end Lexeme

end Agora.Json
