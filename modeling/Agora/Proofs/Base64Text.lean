import Agora.Base64

set_option autoImplicit false

namespace Agora.Base64

/-- The alphabet has a digit for each value below 64 and tells them apart, and if it writes equals
signs, none of them is one. -/
structure Legible (a : Alphabet) : Prop where
  size : a.digits.length = 64
  value : ∀ v < 64, a.value? (a.digit v) = some v
  filler : a.padded = true → a.value? '=' = none

/-- A legible alphabet that writes no equals signs. -/
structure Plain (a : Alphabet) : Prop extends Legible a where
  unpadded : a.padded = false

theorem legible_of_fin {a : Alphabet} (size : a.digits.length = 64)
    (value : ∀ v : Fin 64, a.value? (a.digit v) = some v.val)
    (filler : a.padded = true → a.value? '=' = none) : Legible a :=
  ⟨size, fun v small => value ⟨v, small⟩, filler⟩

theorem legible_standard : Legible standard :=
  legible_of_fin rfl (by decide +kernel) fun _ => by decide +kernel

theorem plain_urlSafe : Plain urlSafe := ⟨legible_of_fin rfl (by decide +kernel) nofun, rfl⟩

theorem plain_crypt : Plain crypt := ⟨legible_of_fin rfl (by decide +kernel) nofun, rfl⟩

theorem digit_ne_of_fin {a : Alphabet} {c : Char} (other : ∀ v : Fin 64, a.digit v ≠ c) (v : Nat) :
    a.digit v ≠ c := by
  have same : a.digit v = a.digit (v % 64) := by
    rw [Alphabet.digit, Alphabet.digit, Nat.mod_mod]
  rw [same]
  exact other ⟨v % 64, Nat.mod_lt v (by decide)⟩

theorem urlSafe_digit_ne_dot (v : Nat) : urlSafe.digit v ≠ '.' :=
  digit_ne_of_fin (by decide +kernel) v

theorem crypt_digit_ne_dollar (v : Nat) : crypt.digit v ≠ '$' :=
  digit_ne_of_fin (by decide +kernel) v

theorem ofNat_eq {n : Nat} {x : UInt8} (same : n = x.toNat) : UInt8.ofNat n = x := by
  rw [same, UInt8.ofNat_toNat]

theorem toNat_ofNat_of_lt {n : Nat} (small : n < 256) : (UInt8.ofNat n).toNat = n := by
  rw [UInt8.toNat_ofNat', Nat.mod_eq_of_lt small]

/-- Only digits are written, and equals signs where short groups are filled up. -/
theorem mem_encode {a : Alphabet} {c : Char} {b : Bytes} (inside : c ∈ a.encode b) :
    (∃ v, c = a.digit v) ∨ (a.padded = true ∧ c = '=') := by
  have filled {n : Nat} (inside : c ∈ a.fill n) : a.padded = true ∧ c = '=' := by
    unfold Alphabet.fill at inside
    split at inside
    · exact ⟨‹_›, List.eq_of_mem_replicate inside⟩
    · cases inside
  induction b using Alphabet.encode.induct with
  | case1 => cases inside
  | case2 x =>
    rcases List.mem_append.1 inside with digit | filler
    · simp only [List.mem_cons, List.not_mem_nil, or_false] at digit
      rcases digit with rfl | rfl <;> exact .inl ⟨_, rfl⟩
    · exact .inr (filled filler)
  | case3 x y =>
    rcases List.mem_append.1 inside with digit | filler
    · simp only [List.mem_cons, List.not_mem_nil, or_false] at digit
      rcases digit with rfl | rfl | rfl <;> exact .inl ⟨_, rfl⟩
    · exact .inr (filled filler)
  | case4 x y z rest ih =>
    simp only [Alphabet.encode, List.mem_cons] at inside
    rcases inside with rfl | rfl | rfl | rfl | later
    · exact .inl ⟨_, rfl⟩
    · exact .inl ⟨_, rfl⟩
    · exact .inl ⟨_, rfl⟩
    · exact .inl ⟨_, rfl⟩
    · exact ih later

theorem decode?_two (a : Alphabet) (c d : Char) :
    a.decode? ([c, d] ++ a.fill 2) = a.lastOctet? c d := by
  cases padded : a.padded with
  | false => simp [Alphabet.fill, Alphabet.decode?, padded]
  | true => simp [Alphabet.fill, Alphabet.decode?, padded, List.replicate]

theorem decode?_three {a : Alphabet} (c d : Char) {e : Char} (digit : a.padded = true → e ≠ '=') :
    a.decode? ([c, d, e] ++ a.fill 1) = a.lastOctets? c d e := by
  cases padded : a.padded with
  | false => simp [Alphabet.fill, Alphabet.decode?, padded]
  | true => simp [Alphabet.fill, Alphabet.decode?, padded, List.replicate, digit padded]

namespace Legible

variable {a : Alphabet} (legible : Legible a)

include legible

theorem digit_of_value? {c : Char} {v : Nat} (read : a.value? c = some v) :
    v < 64 ∧ c = a.digit v := by
  rw [Alphabet.value?, List.idxOf?, List.findIdx?_eq_some_iff_getElem] at read
  obtain ⟨small, found, _⟩ := read
  have low : v < 64 := legible.size ▸ small
  refine ⟨low, ?_⟩
  rw [Alphabet.digit, Nat.mod_eq_of_lt low, List.getD_eq_getElem?_getD,
    List.getElem?_eq_getElem small, Option.getD_some]
  exact (beq_iff_eq.1 found).symm

theorem digit_ne_equals (padded : a.padded = true) {v : Nat} (low : v < 64) : a.digit v ≠ '=' := by
  intro same
  have read := legible.value v low
  rw [same, legible.filler padded] at read
  cases read

theorem lastOctet?_eq_some {c d : Char} {b : Bytes} : a.lastOctet? c d = some b ↔
    ∃ x : UInt8, b = [x] ∧ c = a.digit (x.toNat / 4) ∧ d = a.digit (x.toNat % 4 * 16) := by
  constructor
  · intro read
    obtain ⟨i, first, others⟩ := Option.bind_eq_some_iff.1 read
    obtain ⟨j, second, made⟩ := Option.bind_eq_some_iff.1 others
    obtain ⟨lowI, rfl⟩ := legible.digit_of_value? first
    obtain ⟨lowJ, rfl⟩ := legible.digit_of_value? second
    split at made
    · cases made
      have octet : (UInt8.ofNat (i * 4 + j / 16)).toNat = i * 4 + j / 16 :=
        toNat_ofNat_of_lt (by omega)
      refine ⟨_, rfl, ?_, ?_⟩ <;> rw [octet] <;> congr 1 <;> omega
    · cases made
  · rintro ⟨x, rfl, rfl, rfl⟩
    have low := x.toNat_lt
    have back : UInt8.ofNat (x.toNat / 4 * 4 + x.toNat % 4 * 16 / 16) = x := ofNat_eq (by omega)
    simp only [Alphabet.lastOctet?, legible.value _ (show x.toNat / 4 < 64 by omega),
      legible.value _ (show x.toNat % 4 * 16 < 64 by omega), Option.bind_eq_bind,
      Option.bind_some, if_pos (show x.toNat % 4 * 16 % 16 = 0 by omega), back]

theorem lastOctets?_eq_some {c d e : Char} {b : Bytes} : a.lastOctets? c d e = some b ↔
    ∃ x y : UInt8, b = [x, y] ∧ c = a.digit (x.toNat / 4) ∧
      d = a.digit (x.toNat % 4 * 16 + y.toNat / 16) ∧ e = a.digit (y.toNat % 16 * 4) := by
  constructor
  · intro read
    obtain ⟨i, first, others⟩ := Option.bind_eq_some_iff.1 read
    obtain ⟨j, second, others⟩ := Option.bind_eq_some_iff.1 others
    obtain ⟨k, third, made⟩ := Option.bind_eq_some_iff.1 others
    obtain ⟨lowI, rfl⟩ := legible.digit_of_value? first
    obtain ⟨lowJ, rfl⟩ := legible.digit_of_value? second
    obtain ⟨lowK, rfl⟩ := legible.digit_of_value? third
    split at made
    · cases made
      have octet : (UInt8.ofNat (i * 4 + j / 16)).toNat = i * 4 + j / 16 :=
        toNat_ofNat_of_lt (by omega)
      have octet' : (UInt8.ofNat (j % 16 * 16 + k / 4)).toNat = j % 16 * 16 + k / 4 :=
        toNat_ofNat_of_lt (by omega)
      refine ⟨_, _, rfl, ?_, ?_, ?_⟩ <;> simp only [octet, octet'] <;> congr 1 <;> omega
    · cases made
  · rintro ⟨x, y, rfl, rfl, rfl, rfl⟩
    have low := x.toNat_lt
    have low' := y.toNat_lt
    have first : UInt8.ofNat (x.toNat / 4 * 4 + (x.toNat % 4 * 16 + y.toNat / 16) / 16) = x :=
      ofNat_eq (by omega)
    have second : UInt8.ofNat ((x.toNat % 4 * 16 + y.toNat / 16) % 16 * 16 +
        y.toNat % 16 * 4 / 4) = y := ofNat_eq (by omega)
    simp only [Alphabet.lastOctets?, legible.value _ (show x.toNat / 4 < 64 by omega),
      legible.value _ (show x.toNat % 4 * 16 + y.toNat / 16 < 64 by omega),
      legible.value _ (show y.toNat % 16 * 4 < 64 by omega), Option.bind_eq_bind,
      Option.bind_some, if_pos (show y.toNat % 16 * 4 % 4 = 0 by omega), first, second]

theorem decode?_encode (b : Bytes) : a.decode? (a.encode b) = some b := by
  induction b using Alphabet.encode.induct with
  | case1 => rfl
  | case2 x =>
    rw [Alphabet.encode, decode?_two]
    exact legible.lastOctet?_eq_some.2 ⟨x, rfl, rfl, rfl⟩
  | case3 x y =>
    have low := y.toNat_lt
    rw [Alphabet.encode, decode?_three _ _
      fun padded => legible.digit_ne_equals padded (by omega)]
    exact legible.lastOctets?_eq_some.2 ⟨x, y, rfl, rfl, rfl, rfl⟩
  | case4 x y z rest ih =>
    have low := x.toNat_lt
    have low' := y.toNat_lt
    have low'' := z.toNat_lt
    have first : UInt8.ofNat (x.toNat / 4 * 4 + (x.toNat % 4 * 16 + y.toNat / 16) / 16) = x :=
      ofNat_eq (by omega)
    have second : UInt8.ofNat ((x.toNat % 4 * 16 + y.toNat / 16) % 16 * 16 +
        (y.toNat % 16 * 4 + z.toNat / 64) / 4) = y := ofNat_eq (by omega)
    have third : UInt8.ofNat ((y.toNat % 16 * 4 + z.toNat / 64) % 4 * 64 + z.toNat % 64) = z :=
      ofNat_eq (by omega)
    have inner : (a.padded && decide (a.digit (z.toNat % 64) = '=')) = false := by
      rw [Bool.and_eq_false_iff, decide_eq_false_iff_not]
      cases padded : a.padded with
      | false => exact .inl rfl
      | true => exact .inr (legible.digit_ne_equals padded (by omega))
    simp only [Alphabet.encode, Alphabet.decode?, inner, Bool.false_eq_true, ↓reduceIte,
      legible.value _ (show x.toNat / 4 < 64 by omega),
      legible.value _ (show x.toNat % 4 * 16 + y.toNat / 16 < 64 by omega),
      legible.value _ (show y.toNat % 16 * 4 + z.toNat / 64 < 64 by omega),
      legible.value _ (show z.toNat % 64 < 64 by omega), Option.bind_eq_bind,
      Option.bind_some, ih, Option.pure_def, first, second, third]

/-- What is read as octets is their written form. -/
theorem eq_encode_of_decode? {cs : List Char} {b : Bytes} (read : a.decode? cs = some b) :
    cs = a.encode b := by
  induction cs using Alphabet.decode?.induct (a := a) generalizing b with
  | case1 =>
    cases read
    rfl
  | case2 => cases read
  | case3 c d padded =>
    rw [Alphabet.decode?, if_pos padded] at read
    cases read
  | case4 c d bare =>
    rw [Alphabet.decode?, if_neg bare] at read
    obtain ⟨x, rfl, rfl, rfl⟩ := legible.lastOctet?_eq_some.1 read
    rw [Alphabet.encode, Alphabet.fill, if_neg bare, List.append_nil]
  | case5 c d e padded =>
    rw [Alphabet.decode?, if_pos padded] at read
    cases read
  | case6 c d e bare =>
    rw [Alphabet.decode?, if_neg bare] at read
    obtain ⟨x, y, rfl, rfl, rfl, rfl⟩ := legible.lastOctets?_eq_some.1 read
    rw [Alphabet.encode, Alphabet.fill, if_neg bare, List.append_nil]
  | case7 c d f rest ends empty =>
    rw [Alphabet.decode?, if_pos ends, if_pos empty, if_pos rfl] at read
    obtain ⟨x, rfl, rfl, rfl⟩ := legible.lastOctet?_eq_some.1 read
    obtain ⟨padded, same⟩ := (Bool.and_eq_true _ _).mp ends
    rw [Alphabet.encode, Alphabet.fill, if_pos padded, List.isEmpty_iff.1 empty,
      of_decide_eq_true same]
    rfl
  | case8 c d e f rest ends empty digit =>
    rw [Alphabet.decode?, if_pos ends, if_pos empty, if_neg digit] at read
    obtain ⟨x, y, rfl, rfl, rfl, rfl⟩ := legible.lastOctets?_eq_some.1 read
    obtain ⟨padded, same⟩ := (Bool.and_eq_true _ _).mp ends
    rw [Alphabet.encode, Alphabet.fill, if_pos padded, List.isEmpty_iff.1 empty,
      of_decide_eq_true same]
    rfl
  | case9 c d e f rest ends more =>
    rw [Alphabet.decode?, if_pos ends, if_neg more] at read
    cases read
  | case10 c d e f rest inner ih =>
    rw [Alphabet.decode?, if_neg inner] at read
    obtain ⟨i, first, others⟩ := Option.bind_eq_some_iff.1 read
    obtain ⟨j, second, others⟩ := Option.bind_eq_some_iff.1 others
    obtain ⟨k, third, others⟩ := Option.bind_eq_some_iff.1 others
    obtain ⟨l, fourth, others⟩ := Option.bind_eq_some_iff.1 others
    obtain ⟨tail, follows, made⟩ := Option.bind_eq_some_iff.1 others
    obtain ⟨lowI, rfl⟩ := legible.digit_of_value? first
    obtain ⟨lowJ, rfl⟩ := legible.digit_of_value? second
    obtain ⟨lowK, rfl⟩ := legible.digit_of_value? third
    obtain ⟨lowL, rfl⟩ := legible.digit_of_value? fourth
    cases made
    have octet : (UInt8.ofNat (i * 4 + j / 16)).toNat = i * 4 + j / 16 :=
      toNat_ofNat_of_lt (by omega)
    have octet' : (UInt8.ofNat (j % 16 * 16 + k / 4)).toNat = j % 16 * 16 + k / 4 :=
      toNat_ofNat_of_lt (by omega)
    have octet'' : (UInt8.ofNat (k % 4 * 64 + l)).toNat = k % 4 * 64 + l :=
      toNat_ofNat_of_lt (by omega)
    have parts : (i * 4 + j / 16) / 4 = i ∧
        (i * 4 + j / 16) % 4 * 16 + (j % 16 * 16 + k / 4) / 16 = j ∧
        (j % 16 * 16 + k / 4) % 16 * 4 + (k % 4 * 64 + l) / 64 = k ∧
        (k % 4 * 64 + l) % 64 = l := by omega
    rw [Alphabet.encode, octet, octet', octet'', parts.1, parts.2.1, parts.2.2.1, parts.2.2.2,
      ← ih follows]

end Legible

namespace Plain

variable {a : Alphabet} (plain : Plain a)

include plain

theorem fill (n : Nat) : a.fill n = [] := by
  rw [Alphabet.fill, plain.unpadded]
  rfl

theorem not_mem_encode {c : Char} (other : ∀ v, a.digit v ≠ c) (b : Bytes) : c ∉ a.encode b := by
  intro inside
  rcases mem_encode inside with ⟨v, same⟩ | ⟨padded, _⟩
  · exact other v same.symm
  · rw [plain.unpadded] at padded
    cases padded

theorem length_encode (b : Bytes) : (a.encode b).length = (4 * b.length + 2) / 3 := by
  induction b using Alphabet.encode.induct with
  | case1 => rfl
  | case2 x =>
    simp only [Alphabet.encode, plain.fill, List.append_nil, List.length_cons, List.length_nil]
  | case3 x y =>
    simp only [Alphabet.encode, plain.fill, List.append_nil, List.length_cons, List.length_nil]
  | case4 x y z rest ih =>
    simp only [Alphabet.encode, List.length_cons, ih]
    omega

end Plain

end Agora.Base64
