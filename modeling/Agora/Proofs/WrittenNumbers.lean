import Agora.Proofs.JsonStrings
import Agora.Text.Numeral

set_option autoImplicit false

namespace Agora

theorem guard_eq (p : Prop) [Decidable p] :
    (guard p : Option Unit) = if p then some () else none := rfl

namespace Digits

theorem char_lt {c : Char} (digit : c.isDigit = true) : 48 ≤ c.toNat ∧ c.toNat ≤ 57 := by
  simp only [Char.isDigit, Bool.and_eq_true, decide_eq_true_eq, ge_iff_le, UInt32.le_iff_toNat_le]
    at digit
  exact digit

theorem isDigit_of_mem {n : Nat} {c : Char} (inside : c ∈ Nat.toDigits 10 n) :
    c.isDigit = true :=
  Nat.isDigit_of_mem_toDigits (by decide) (by decide) inside

theorem le_value (cs : List Char) (seen : Nat) : seen ≤ Nat.ofDigitChars 10 cs seen := by
  have positive : 1 ≤ 10 ^ cs.length := Nat.one_le_pow _ _ (by decide)
  have grown := Nat.mul_le_mul_right seen positive
  rw [Nat.ofDigitChars_eq_ofDigitChars_zero]
  omega

theorem head_ne_zero {n : Nat} (positive : 0 < n) :
    ∃ c cs, Nat.toDigits 10 n = c :: cs ∧ c ≠ '0' := by
  induction n using Nat.strongRecOn with
  | ind n ih =>
    rw [Nat.toDigits_eq_if (by decide)]
    by_cases small : n < 10
    · rw [if_pos small]
      refine ⟨n.digitChar, [], rfl, fun same => ?_⟩
      have number := congrArg Char.toNat same
      rw [Nat.toNat_digitChar_of_lt_ten small] at number
      have zero : '0'.toNat = 48 := rfl
      omega
    · rw [if_neg small]
      obtain ⟨c, cs, digits, other⟩ := ih (n / 10) (by omega) (by omega)
      exact ⟨c, cs ++ [(n % 10).digitChar], by rw [digits, List.cons_append], other⟩

end Digits

namespace Text.Numeral

theorem magnitude_digits {bound : Nat} {excess : Fault} {cs : List Char}
    (digits : ∀ c ∈ cs, c.isDigit = true) {seen : Nat} (fits : seen ≤ bound) :
    magnitude bound excess seen cs =
      if bound < Nat.ofDigitChars 10 cs seen then .error excess
      else .ok (Nat.ofDigitChars 10 cs seen) := by
  induction cs generalizing seen with
  | nil =>
    rw [magnitude, Nat.ofDigitChars_nil, if_neg (Nat.not_lt_of_le fits)]
  | cons c cs ih =>
    have rest : ∀ c ∈ cs, c.isDigit = true := fun d inside => digits d (.tail _ inside)
    rw [magnitude, if_pos (digits c (.head _)), Nat.ofDigitChars_cons]
    change (if bound < 10 * seen + digitValue c then _ else _) = _
    by_cases excessive : bound < 10 * seen + digitValue c
    · have further := Digits.le_value cs (10 * seen + digitValue c)
      rw [if_pos excessive]
      exact (if_pos (Nat.lt_of_lt_of_le excessive further)).symm
    · rw [if_neg excessive]
      exact ih rest (Nat.le_of_not_lt excessive)

theorem digits_toDigits (bound : Nat) (excess : Fault) (n : Nat) :
    digits bound excess (Nat.toDigits 10 n) = if bound < n then .error excess else .ok n := by
  have whole : magnitude bound excess 0 (Nat.toDigits 10 n) =
      if bound < n then .error excess else .ok n := by
    rw [magnitude_digits (fun c => Digits.isDigit_of_mem) (Nat.zero_le bound),
      Nat.ofDigitChars_ten_toDigits]
  unfold digits
  split
  · rename_i none
    exact absurd none Nat.toDigits_ne_nil
  · exact whole

end Text.Numeral

theorem toList_toString (n : Int) :
    (toString n).toList =
      (if n < 0 then ['-'] else []) ++ Nat.toDigits 10 n.natAbs := by
  rw [Int.toString_eq_repr, Int.repr_eq_if]
  by_cases negative : n < 0
  · have size : (-n).toNat = n.natAbs := by omega
    rw [if_neg (by omega), if_pos negative, String.toList_append, Nat.repr_eq_ofList_toDigits,
      String.toList_ofList, String.toList_ofList, size]
  · have size : n.toNat = n.natAbs := by omega
    rw [if_pos (by omega), if_neg negative, Nat.repr_eq_ofList_toDigits, String.toList_ofList,
      size, List.nil_append]

theorem toString_inj {m n : Int} (same : toString m = toString n) : m = n := by
  have chars := congrArg String.toList same
  rw [toList_toString, toList_toString] at chars
  have unsigned (k : Nat) : '-' ∉ Nat.toDigits 10 k := by
    intro inside
    have digit := Digits.isDigit_of_mem inside
    exact absurd digit (by decide)
  have value {j k : Nat} (digits : Nat.toDigits 10 j = Nat.toDigits 10 k) : j = k := by
    rw [← Nat.ofDigitChars_ten_toDigits (n := j), digits, Nat.ofDigitChars_ten_toDigits]
  by_cases left : m < 0
  · by_cases right : n < 0
    · rw [if_pos left, if_pos right] at chars
      have size := value (List.cons.inj chars).2
      omega
    · rw [if_pos left, if_neg right, List.nil_append] at chars
      exact absurd (chars ▸ List.mem_cons_self) (unsigned n.natAbs)
  · by_cases right : n < 0
    · rw [if_neg left, if_pos right, List.nil_append] at chars
      exact absurd (chars ▸ List.mem_cons_self) (unsigned m.natAbs)
    · rw [if_neg left, if_neg right] at chars
      have size := value chars
      omega

namespace Text.Numeral

/-- A written number reads as the number, if it has 64 bits. -/
theorem int64_toString (n : Int) :
    int64 (toString n) =
      if 2 ^ 63 - 1 < n then .error .tooLarge
      else if n < -2 ^ 63 then .error .tooSmall
      else .ok n := by
  rw [int64, toList_toString]
  by_cases negative : n < 0
  · rw [if_pos negative, if_neg (by omega), List.singleton_append, signed, digits_toDigits]
    by_cases low : n < -2 ^ 63
    · rw [if_pos low, if_pos (by omega)]
      rfl
    · rw [if_neg low, if_neg (by omega)]
      have back : -Int.ofNat n.natAbs = n := by
        rw [Int.ofNat_eq_natCast]
        omega
      exact congrArg Except.ok back
  · rw [if_neg negative, List.nil_append]
    -- A digit is neither of the signs, so the first character does not divide the cases further.
    have unsigned : signed (2 ^ 63) (2 ^ 63 - 1) (Nat.toDigits 10 n.natAbs) =
        (digits (2 ^ 63 - 1) .tooLarge (Nat.toDigits 10 n.natAbs)).map Int.ofNat := by
      unfold signed
      split
      · rename_i none
        exact absurd none Nat.toDigits_ne_nil
      · rename_i plus
        have digit := Digits.isDigit_of_mem (plus ▸ List.mem_cons_self)
        cases digit
      · rename_i minus
        have digit := Digits.isDigit_of_mem (minus ▸ List.mem_cons_self)
        cases digit
      · rfl
    rw [unsigned, digits_toDigits]
    by_cases high : 2 ^ 63 - 1 < n
    · rw [if_pos high, if_pos (by omega)]
      rfl
    · rw [if_neg high, if_neg (by omega), if_neg (by omega)]
      have back : Int.ofNat n.natAbs = n := by
        rw [Int.ofNat_eq_natCast]
        omega
      exact congrArg Except.ok back

end Text.Numeral

theorem octets_digits {cs : List Char} (digits : ∀ c ∈ cs, c.isDigit = true) :
    octets cs = cs.map fun c => UInt8.ofNat c.toNat := by
  induction cs with
  | nil => rfl
  | cons c cs ih =>
    have low := Digits.char_lt (digits c (.head _))
    have rest := ih fun d inside => digits d (.tail _ inside)
    rw [octets, List.flatMap_cons, Bytes.encode_low (by omega), List.map_cons, ← rest]
    rfl

namespace Json.Lexeme

/-- What follows a number: nothing that could go on with it. -/
def Stops (rest : Bytes) : Prop :=
  ∀ b ∈ rest.head?, isDigit b = false ∧ b ≠ 0x2E ∧ b ≠ 0x65 ∧ b ≠ 0x45

theorem isDigit_octet {c : Char} (digit : c.isDigit = true) :
    isDigit (UInt8.ofNat c.toNat) = true := by
  have range := Digits.char_lt digit
  have least : (0x30 : UInt8).toNat = 48 := rfl
  have most : (0x39 : UInt8).toNat = 57 := rfl
  simp only [isDigit, Bool.and_eq_true, decide_eq_true_eq, UInt8.le_iff_toNat_le,
    UInt8.toNat_ofNat']
  omega

theorem all_isDigit_octets {cs : List Char} (digits : ∀ c ∈ cs, c.isDigit = true) :
    ∀ b ∈ octets cs, isDigit b = true := by
  intro b inside
  rw [octets_digits digits] at inside
  obtain ⟨c, found, rfl⟩ := List.mem_map.1 inside
  exact isDigit_octet (digits c found)

theorem foldl_octets {cs : List Char} (digits : ∀ c ∈ cs, c.isDigit = true) (seen : Nat) :
    (octets cs).foldl (fun n b => 10 * n + (b.toNat - 0x30)) seen =
      Nat.ofDigitChars 10 cs seen := by
  induction cs generalizing seen with
  | nil => rfl
  | cons c cs ih =>
    have range := Digits.char_lt (digits c (.head _))
    have value : (UInt8.ofNat c.toNat).toNat - 0x30 = c.toNat - '0'.toNat := by
      have zero : '0'.toNat = 48 := rfl
      rw [UInt8.toNat_ofNat', zero]
      omega
    rw [octets, List.flatMap_cons, Bytes.encode_low (by omega), Nat.ofDigitChars_cons, ← value]
    exact ih (fun d inside => digits d (.tail _ inside)) _

theorem valueOf_toDigits (n : Nat) : valueOf (octets (Nat.toDigits 10 n)) = n := by
  rw [valueOf, foldl_octets fun c => Digits.isDigit_of_mem]
  exact Nat.ofDigitChars_ten_toDigits

theorem digits_octets {cs : List Char} (digits : ∀ c ∈ cs, c.isDigit = true) (some : cs ≠ [])
    {rest : Bytes} (stops : Stops rest) :
    Lexeme.digits (octets cs ++ rest) = .some (octets cs, rest) := by
  have all := all_isDigit_octets digits
  have ended : rest.takeWhile isDigit = [] ∧ rest.dropWhile isDigit = rest := by
    cases rest with
    | nil => exact ⟨rfl, rfl⟩
    | cons b rest =>
      have other := (stops b rfl).1
      rw [List.takeWhile_cons, List.dropWhile_cons, other]
      exact ⟨rfl, rfl⟩
  have taken : (octets cs ++ rest).takeWhile isDigit = octets cs := by
    rw [List.takeWhile_append_of_pos all, ended.1, List.append_nil]
  have dropped : (octets cs ++ rest).dropWhile isDigit = rest := by
    rw [List.dropWhile_append_of_pos all, ended.2]
  have nonempty : (octets cs).isEmpty = false := by
    rw [octets_digits digits]
    cases cs with
    | nil => exact absurd rfl some
    | cons c cs => rfl
  simp only [Lexeme.digits, taken, dropped, nonempty, Bool.false_eq_true, ↓reduceIte]

theorem octets_toDigits_cons (n : Nat) :
    ∃ b bs, octets (Nat.toDigits 10 n) = b :: bs ∧ isDigit b = true := by
  have all : ∀ b ∈ octets (Nat.toDigits 10 n), isDigit b = true :=
    all_isDigit_octets fun c => Digits.isDigit_of_mem
  cases digits : octets (Nat.toDigits 10 n) with
  | nil =>
    rw [octets_digits fun c => Digits.isDigit_of_mem] at digits
    exact absurd (List.map_eq_nil_iff.1 digits) Nat.toDigits_ne_nil
  | cons b bs => exact ⟨b, bs, rfl, all b (digits ▸ List.mem_cons_self)⟩

theorem integerPart_toDigits (n : Nat) {rest : Bytes} (stops : Stops rest) :
    integerPart (octets (Nat.toDigits 10 n) ++ rest) = some (octets (Nat.toDigits 10 n), rest) := by
  have all : ∀ c ∈ Nat.toDigits 10 n, c.isDigit = true := fun c => Digits.isDigit_of_mem
  by_cases zero : n = 0
  · subst zero
    have single : octets (Nat.toDigits 10 0) = [0x30] := by decide
    rw [single]
    cases rest with
    | nil => rfl
    | cons b rest =>
      have other := (stops b rfl).1
      change (if isDigit b = true then none else some ([0x30], b :: rest)) = _
      rw [other]
      rfl
  · obtain ⟨c, cs, written, other⟩ := Digits.head_ne_zero (Nat.pos_of_ne_zero zero)
    have range := Digits.char_lt (all c (written ▸ List.mem_cons_self))
    have first : UInt8.ofNat c.toNat ≠ 0x30 :=
      Bytes.ofNat_ne_of_low other (by omega) (by decide)
    rw [← digits_octets all Nat.toDigits_ne_nil stops]
    rw [octets_digits all, written, List.map_cons, List.cons_append]
    unfold integerPart
    split
    · rename_i same
      exact absurd (List.cons.inj same).1 first
    · rfl

theorem fractionPart_stops {rest : Bytes} (stops : Stops rest) :
    fractionPart rest = some (none, rest) := by
  unfold fractionPart
  split
  · exact absurd rfl (stops _ rfl).2.1
  · rfl

theorem exponentPart_stops {rest : Bytes} (stops : Stops rest) :
    exponentPart rest = some (none, rest) := by
  unfold exponentPart
  split
  · rename_i b rest
    obtain ⟨-, -, lower, upper⟩ := stops b rfl
    exact if_neg (not_or.2 ⟨lower, upper⟩)
  · rfl

/-- The numeral that a written number reads as. -/
def written (n : Int) : Numeral := ⟨decide (n < 0), octets (Nat.toDigits 10 n.natAbs), none, none⟩

theorem numeral?_toString (n : Int) {rest : Bytes} (stops : Stops rest) :
    numeral? (octets (toString n).toList ++ rest) = some (written n, rest) := by
  have whole := integerPart_toDigits n.natAbs stops
  rw [toList_toString]
  by_cases negative : n < 0
  · rw [if_pos negative, written, decide_eq_true negative]
    change numeral? (0x2D :: (octets (Nat.toDigits 10 n.natAbs) ++ rest)) = _
    unfold numeral?
    simp only [whole, Option.bind_some, fractionPart_stops stops, exponentPart_stops stops,
      Option.bind_eq_bind, Option.pure_def]
  · rw [if_neg negative, List.nil_append, written, decide_eq_false negative]
    unfold numeral?
    split
    rename_i sign body parts
    have unsigned : (false, octets (Nat.toDigits 10 n.natAbs) ++ rest) = (sign, body) := by
      rw [← parts]
      split
      · rename_i minus
        obtain ⟨b, bs, first, digit⟩ := octets_toDigits_cons n.natAbs
        rw [first] at minus
        cases minus
        cases digit
      · rfl
    cases unsigned
    simp only [whole, Option.bind_some, fractionPart_stops stops, exponentPart_stops stops,
      Option.bind_eq_bind, Option.pure_def]

theorem whole?_written (n : Int) :
    (written n).whole? = if -2 ^ 63 ≤ n ∧ n < 2 ^ 64 then some n else none := by
  have value : valueOf (written n).integer = n.natAbs := valueOf_toDigits n.natAbs
  have plain : ((written n).fraction.isSome || (written n).exponent.isSome) = false := rfl
  rw [Numeral.whole?, value, plain]
  by_cases negative : n < 0
  · have sign : (written n).negative = true := decide_eq_true negative
    have back : -Int.ofNat n.natAbs = n := by
      rw [Int.ofNat_eq_natCast]
      omega
    simp only [Bool.false_eq_true, sign, ↓reduceIte, back]
    by_cases low : -2 ^ 63 ≤ n
    · rw [if_pos (by omega), if_pos (by omega)]
    · rw [if_neg (by omega), if_neg (by omega)]
  · have sign : (written n).negative = false := decide_eq_false negative
    have back : ((n.natAbs : Nat) : Int) = n := by omega
    simp only [Bool.false_eq_true, sign, ↓reduceIte, back]
    by_cases high : n < 2 ^ 64
    · rw [if_pos (by omega), if_pos (by omega)]
    · rw [if_neg (by omega), if_neg (by omega)]

end Json.Lexeme

namespace Json

open Lexeme

/-- A written number reads as the number, if it is one of those that are wanted. -/
theorem readWhole_toString {least most : Int} (low : -2 ^ 63 ≤ least) (high : most < 2 ^ 64)
    (n : Int) {rest : Bytes} (stops : Stops rest) :
    (readWhole least most (octets (toString n).toList ++ rest)).toOption =
      if least ≤ n ∧ n ≤ most then some (n, rest) else none := by
  rw [readWhole, numeral, numeral?_toString n stops]
  by_cases inside : -2 ^ 63 ≤ n ∧ n < 2 ^ 64
  · have whole : (written n).whole? = some n := (whole?_written n).trans (if_pos inside)
    simp only [whole, Option.isNone_some, Bool.false_and, Bool.false_eq_true, ↓reduceIte]
    by_cases wanted : least ≤ n ∧ n ≤ most
    · rw [if_pos wanted, if_pos wanted]
      rfl
    · rw [if_neg wanted, if_neg wanted]
      rfl
  · have whole : (written n).whole? = none := (whole?_written n).trans (if_neg inside)
    rw [if_neg (by omega)]
    simp only [whole, Option.isNone_none, Bool.true_and]
    by_cases excessive : (written n).overflows = true
    · rw [if_pos excessive]
      rfl
    · rw [if_neg excessive]
      simp only [whole]
      rfl

end Json

end Agora
