import Agora.Proofs.WrittenNumbers

set_option autoImplicit false

namespace Agora.Text.Numeral

/-- The text is one or more digits, of a value. -/
structure IsDecimal (cs : List Char) (n : Nat) : Prop where
  some : cs ≠ []
  digits : ∀ c ∈ cs, c.isDigit = true
  value : Nat.ofDigitChars 10 cs 0 = n

/-- The text is a decimal numeral of a number. -/
inductive Denotes : List Char → Int → Prop where
  | plain {cs : List Char} {n : Nat} (digits : IsDecimal cs n) : Denotes cs n
  | plus {cs : List Char} {n : Nat} (digits : IsDecimal cs n) : Denotes ('+' :: cs) n
  | minus {cs : List Char} {n : Nat} (digits : IsDecimal cs n) : Denotes ('-' :: cs) (-n)

theorem IsDecimal.head {c : Char} {cs : List Char} {n : Nat} (digits : IsDecimal (c :: cs) n) :
    c ≠ '+' ∧ c ≠ '-' := by
  have first := digits.digits c (.head _)
  constructor
  · rintro rfl
    cases first
  · rintro rfl
    cases first

theorem digits_of_magnitude {bound seen n : Nat} {excess : Fault} {cs : List Char}
    (read : magnitude bound excess seen cs = .ok n) : ∀ c ∈ cs, c.isDigit = true := by
  induction cs generalizing seen with
  | nil => intro c among; cases among
  | cons c cs ih =>
    rw [magnitude] at read
    by_cases digit : c.isDigit = true
    · rw [if_pos digit] at read
      dsimp only at read
      split at read
      · cases read
      · intro d among
        rcases List.mem_cons.1 among with rfl | later
        · exact digit
        · exact ih read d later
    · rw [if_neg digit] at read
      cases read

theorem digits_eq_ok {bound n : Nat} {excess : Fault} {cs : List Char} :
    digits bound excess cs = .ok n ↔ IsDecimal cs n ∧ n ≤ bound := by
  cases cs with
  | nil =>
    constructor
    · intro read
      cases read
    · rintro ⟨decimal, _⟩
      exact absurd rfl decimal.some
  | cons c cs =>
    rw [digits]
    · constructor
      · intro read
        have all := digits_of_magnitude read
        rw [magnitude_digits all (Nat.zero_le bound)] at read
        split at read
        · cases read
        · rename_i within
          cases read
          exact ⟨⟨List.cons_ne_nil c cs, all, rfl⟩, by omega⟩
      · rintro ⟨decimal, within⟩
        rw [magnitude_digits decimal.digits (Nat.zero_le bound), decimal.value]
        exact if_neg (by omega)
    · exact List.cons_ne_nil c cs

section

variable {least most : Nat} {n : Int} {cs : List Char}

theorem signed_cons {c : Char} (plus : c ≠ '+') (minus : c ≠ '-') (cs : List Char) :
    signed least most (c :: cs) = (digits most .tooLarge (c :: cs)).map Int.ofNat := by
  unfold signed
  split
  · rename_i none
    cases none
  · rename_i sign
    cases sign
    exact absurd rfl plus
  · rename_i sign
    cases sign
    exact absurd rfl minus
  · rfl

theorem map_eq_ok {α β : Type} {read : Except Fault α} {f : α → β} {b : β} :
    read.map f = .ok b ↔ ∃ a, read = .ok a ∧ f a = b := by
  cases read with
  | error fault => simp [Except.map]
  | ok a => simp [Except.map]

theorem signed_eq_ok :
    signed least most cs = .ok n ↔ Denotes cs n ∧ -(least : Int) ≤ n ∧ n ≤ most := by
  constructor
  · intro read
    cases cs with
    | nil => cases read
    | cons c cs =>
      by_cases plus : c = '+'
      · subst plus
        obtain ⟨k, decimal, rfl⟩ := map_eq_ok.1 read
        obtain ⟨decimal, within⟩ := digits_eq_ok.1 decimal
        exact ⟨.plus decimal, by simp only [Int.ofNat_eq_natCast]; omega⟩
      · by_cases minus : c = '-'
        · subst minus
          obtain ⟨k, decimal, rfl⟩ := map_eq_ok.1 read
          obtain ⟨decimal, within⟩ := digits_eq_ok.1 decimal
          exact ⟨.minus decimal, by simp only [Int.ofNat_eq_natCast]; omega⟩
        · rw [signed_cons plus minus] at read
          obtain ⟨k, decimal, rfl⟩ := map_eq_ok.1 read
          obtain ⟨decimal, within⟩ := digits_eq_ok.1 decimal
          exact ⟨.plain decimal, by simp only [Int.ofNat_eq_natCast]; omega⟩
  · rintro ⟨denotes, low, high⟩
    cases denotes with
    | @plain cs k decimal =>
      cases cs with
      | nil => exact absurd rfl decimal.some
      | cons c cs =>
        rw [signed_cons decimal.head.1 decimal.head.2]
        exact map_eq_ok.2 ⟨k, digits_eq_ok.2 ⟨decimal, by omega⟩, rfl⟩
    | @plus cs k decimal =>
      exact map_eq_ok.2 ⟨k, digits_eq_ok.2 ⟨decimal, by omega⟩, rfl⟩
    | @minus cs k decimal =>
      exact map_eq_ok.2 ⟨k, digits_eq_ok.2 ⟨decimal, by omega⟩, rfl⟩

end

section

variable {cs : List Char}

/-- A numeral is one of one number. -/
theorem Denotes.unique {m n : Int} (one : Denotes cs m) (another : Denotes cs n) : m = n := by
  have read {k : Int} (denotes : Denotes cs k) (within : k.natAbs ≤ m.natAbs + n.natAbs) :
      signed (m.natAbs + n.natAbs) (m.natAbs + n.natAbs) cs = .ok k :=
    signed_eq_ok.2 ⟨denotes, by omega, by omega⟩
  have same := (read one (Nat.le_add_right _ _)).symm.trans (read another (Nat.le_add_left _ _))
  exact Except.ok.inj same

theorem denotes_of_positive {n : Int} (positive : 1 ≤ n) :
    Denotes cs n ↔ ∃ ds, (cs = ds ∨ cs = '+' :: ds) ∧ IsDecimal ds n.toNat := by
  constructor
  · intro denotes
    cases denotes with
    | plain digits => exact ⟨cs, .inl rfl, digits⟩
    | @plus ds k digits => exact ⟨ds, .inr rfl, digits⟩
    | @minus ds k digits => omega
  · rintro ⟨ds, rfl | rfl, digits⟩
    · have plain := Denotes.plain digits
      rwa [Int.toNat_of_nonneg (by omega)] at plain
    · have plus := Denotes.plus digits
      rwa [Int.toNat_of_nonneg (by omega)] at plus

end

/-- A text is read as a number of 64 bits if it is a numeral of one. -/
theorem int64_eq_ok {s : String} {n : Int} :
    int64 s = .ok n ↔ Denotes s.toList n ∧ -2 ^ 63 ≤ n ∧ n ≤ 2 ^ 63 - 1 := by
  have most : ((2 ^ 63 - 1 : Nat) : Int) = 2 ^ 63 - 1 := by decide
  have least : -((2 ^ 63 : Nat) : Int) = -2 ^ 63 := by decide
  rw [int64, signed_eq_ok, most, least]

end Agora.Text.Numeral
