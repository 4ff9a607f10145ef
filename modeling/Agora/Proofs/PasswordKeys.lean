import Agora.Proofs.Logins

/-!
Which passwords are told apart. The cipher takes eighteen words of the password's octets and a null
octet, repeated without end, so passwords whose repetitions begin with the same 72 octets pass for
one another, and only those. Passwords without null octets are such a pair only if both are at least
72 octets long and begin with the same 72, as long ones with many octets to the character may.
-/

set_option autoImplicit false

namespace Agora

theorem Bytes.ofString_injective : Function.Injective Bytes.ofString := fun p q same => by
  have read := congrArg Bytes.toString? same
  rw [Bytes.toString?_ofString, Bytes.toString?_ofString] at read
  exact Option.some.inj read

namespace Cipher.Blowfish

def word (a b c d : UInt8) : UInt32 :=
  (a.toUInt32 <<< 24) ||| (b.toUInt32 <<< 16) ||| (c.toUInt32 <<< 8) ||| d.toUInt32

theorem toNat_moved (x : UInt8) {n : UInt32} (few : n.toNat ≤ 24) :
    (x.toUInt32 <<< n).toNat = 2 ^ n.toNat * x.toNat := by
  have fits : x.toNat * 2 ^ n.toNat < 2 ^ 32 :=
    calc x.toNat * 2 ^ n.toNat
      _ < 2 ^ 8 * 2 ^ n.toNat := Nat.mul_lt_mul_of_pos_right x.toNat_lt (Nat.two_pow_pos _)
      _ ≤ 2 ^ 8 * 2 ^ 24 := Nat.mul_le_mul_left _ (Nat.pow_le_pow_right (by omega) few)
  rw [UInt32.toNat_shiftLeft, UInt8.toNat_toUInt32, Nat.shiftLeft_eq,
    Nat.mod_eq_of_lt (show n.toNat < 32 by omega), Nat.mod_eq_of_lt fits, Nat.mul_comm]

theorem toNat_word (a b c d : UInt8) :
    (word a b c d).toNat =
      2 ^ 8 * (2 ^ 8 * (2 ^ 8 * a.toNat + b.toNat) + c.toNat) + d.toNat := by
  have second := b.toNat_lt
  have third := c.toNat_lt
  have fourth := d.toNat_lt
  have top : (a.toUInt32 <<< 24).toNat = 2 ^ 24 * a.toNat := toNat_moved a (by decide)
  have upper : (b.toUInt32 <<< 16).toNat = 2 ^ 16 * b.toNat := toNat_moved b (by decide)
  have lower : (c.toUInt32 <<< 8).toNat = 2 ^ 8 * c.toNat := toNat_moved c (by decide)
  -- No two of the four have a bit in common, so their union is their sum.
  have two : 2 ^ 24 * a.toNat ||| 2 ^ 16 * b.toNat = 2 ^ 16 * (2 ^ 8 * a.toNat + b.toNat) := by
    rw [← Nat.two_pow_add_eq_or_of_lt (i := 24) (by omega)]
    omega
  have three : 2 ^ 16 * (2 ^ 8 * a.toNat + b.toNat) ||| 2 ^ 8 * c.toNat =
      2 ^ 8 * (2 ^ 8 * (2 ^ 8 * a.toNat + b.toNat) + c.toNat) := by
    rw [← Nat.two_pow_add_eq_or_of_lt (i := 16) (by omega)]
    omega
  rw [word, UInt32.toNat_or, UInt32.toNat_or, UInt32.toNat_or, top, upper, lower,
    UInt8.toNat_toUInt32, two, three, ← Nat.two_pow_add_eq_or_of_lt (i := 8) (by omega)]

theorem word_inj {a b c d a' b' c' d' : UInt8} :
    word a b c d = word a' b' c' d' ↔ a = a' ∧ b = b' ∧ c = c' ∧ d = d' := by
  constructor
  · intro same
    have sums := congrArg UInt32.toNat same
    rw [toNat_word, toNat_word] at sums
    have limits (x : UInt8) := x.toNat_lt
    have := limits a; have := limits b; have := limits c; have := limits d
    have := limits a'; have := limits b'; have := limits c'; have := limits d'
    simp only [← UInt8.toNat_inj]
    omega
  · rintro ⟨rfl, rfl, rfl, rfl⟩
    rfl

/-- The octet at a place of a key that is repeated without end. -/
def octetAt (key : Bytes) (i : Nat) : UInt8 := key.getD (i % key.length) 0

/-- The word at a place. -/
def wordAt (key : Bytes) (n : Nat) : UInt32 :=
  word (octetAt key (4 * n)) (octetAt key (4 * n + 1)) (octetAt key (4 * n + 2))
    (octetAt key (4 * n + 3))

theorem keyWords_eq (key : Bytes) : keyWords key = ((List.range 18).map (wordAt key)).toArray := by
  have octet (i : Nat) : key.toArray.getD (i % key.toArray.size) 0 = octetAt key i := by
    simp only [octetAt, List.size_toArray, Array.getD_eq_getD_getElem?, List.getElem?_toArray,
      List.getD_eq_getElem?_getD]
  simp only [keyWords, octet, List.map_toArray]
  rfl

/-- The words of two keys are the same exactly if their repetitions begin with the same 72 octets. -/
theorem keyWords_eq_iff {key other : Bytes} :
    keyWords key = keyWords other ↔ ∀ i < 72, octetAt key i = octetAt other i := by
  have words : keyWords key = keyWords other ↔ ∀ n < 18, wordAt key n = wordAt other n := by
    rw [keyWords_eq, keyWords_eq]
    constructor
    · intro same n small
      exact List.map_inj_left.1 (List.toArray_inj same) n (List.mem_range.2 small)
    · intro same
      apply congrArg List.toArray
      exact List.map_inj_left.2 fun n among => same n (List.mem_range.1 among)
  simp only [words, wordAt, word_inj]
  constructor
  · intro same i small
    obtain ⟨first, second, third, fourth⟩ := same (i / 4) (by omega)
    have place : i = 4 * (i / 4) ∨ i = 4 * (i / 4) + 1 ∨ i = 4 * (i / 4) + 2 ∨
        i = 4 * (i / 4) + 3 := by
      omega
    rcases place with place | place | place | place
    · rwa [← place] at first
    · rwa [← place] at second
    · rwa [← place] at third
    · rwa [← place] at fourth
  · intro same n small
    exact ⟨same _ (by omega), same _ (by omega), same _ (by omega), same _ (by omega)⟩

end Cipher.Blowfish

namespace Credential.Password

open Cipher.Blowfish (octetAt keyWords keyWords_eq_iff)

/-- The octets of a password, closed with a null octet. -/
def closed (password : String) : Bytes := Bytes.ofString password ++ [0]

/-- The repetitions of two closed passwords begin with the same 72 octets. -/
def Alike (p q : String) : Prop := ∀ i < 72, octetAt (closed p) i = octetAt (closed q) i

instance (p q : String) : Decidable (Alike p q) :=
  inferInstanceAs (Decidable (∀ i < 72, octetAt (closed p) i = octetAt (closed q) i))

variable {p q : String}

theorem Alike.symm (alike : Alike p q) : Alike q p := fun i small => (alike i small).symm

theorem length_closed (p : String) : (closed p).length = (Bytes.ofString p).length + 1 :=
  List.length_append

/-- What is cut off of a key is beyond what the cipher takes of it. -/
theorem octetAt_key (p : String) {i : Nat} (small : i < 72) :
    octetAt (key p) i = octetAt (closed p) i := by
  have cut : key p = (closed p).take 72 := rfl
  have some := length_closed p
  rw [cut, octetAt, octetAt, List.length_take]
  have place : i % min 72 (closed p).length = i % (closed p).length := by
    rcases Nat.le_total (closed p).length 72 with short | long
    · rw [Nat.min_eq_right short]
    · rw [Nat.min_eq_left long, Nat.mod_eq_of_lt small, Nat.mod_eq_of_lt (by omega)]
  have within : i % (closed p).length < 72 :=
    Nat.lt_of_le_of_lt (Nat.mod_le _ _) small
  rw [place, List.getD_eq_getElem?_getD, List.getD_eq_getElem?_getD, List.getElem?_take,
    if_pos within]

/-- The cipher takes the same words of passwords that are alike, and of no others. -/
theorem keyWords_key_eq_iff : keyWords (key p) = keyWords (key q) ↔ Alike p q := by
  rw [keyWords_eq_iff, Alike]
  refine forall₂_congr fun i small => ?_
  rw [octetAt_key p small, octetAt_key q small]

/-- Passwords that are alike have one digest, whatever the work factor and the salt. -/
theorem digest_of_alike (alike : Alike p q) (cost : Nat) (salt : Bytes) :
    digest cost salt (key p) = digest cost salt (key q) := by
  unfold digest
  rw [keyWords_key_eq_iff.2 alike]

theorem octetAt_closed_of_lt {i : Nat} (within : i < (Bytes.ofString p).length) :
    octetAt (closed p) i = (Bytes.ofString p)[i] := by
  have long := length_closed p
  rw [octetAt, Nat.mod_eq_of_lt (by omega), closed, List.getD_eq_getElem?_getD,
    List.getElem?_append_left within, List.getElem?_eq_getElem within, Option.getD_some]

theorem octetAt_closed_length : octetAt (closed p) (Bytes.ofString p).length = 0 := by
  have long := length_closed p
  rw [octetAt, Nat.mod_eq_of_lt (by omega), closed, List.getD_eq_getElem?_getD,
    List.getElem?_concat_length, Option.getD_some]

/-- Of two passwords that are alike, one without null octets is no longer than the other, if that is
shorter than what the cipher takes. -/
theorem length_le_of_alike (alike : Alike p q) (plain : 0 ∉ Bytes.ofString q)
    (short : (Bytes.ofString p).length < 72) :
    (Bytes.ofString q).length ≤ (Bytes.ofString p).length := by
  by_contra longer
  have within := Nat.lt_of_not_le longer
  have null := alike _ short
  rw [octetAt_closed_length, octetAt_closed_of_lt within] at null
  exact plain (null ▸ List.getElem_mem within)

theorem octet_eq_of_alike (alike : Alike p q) {i : Nat} (small : i < 72)
    (left : i < (Bytes.ofString p).length) (right : i < (Bytes.ofString q).length) :
    (Bytes.ofString p)[i] = (Bytes.ofString q)[i] := by
  rw [← octetAt_closed_of_lt left, ← octetAt_closed_of_lt right]
  exact alike i small

/-- Passwords without null octets, one of which is shorter than what the cipher takes, are alike only
if they are the same. -/
theorem eq_of_alike (alike : Alike p q) (first : 0 ∉ Bytes.ofString p)
    (second : 0 ∉ Bytes.ofString q)
    (short : (Bytes.ofString p).length < 72 ∨ (Bytes.ofString q).length < 72) : p = q := by
  have same : (Bytes.ofString p).length = (Bytes.ofString q).length := by
    rcases short with short | short
    · have le := length_le_of_alike alike second short
      exact Nat.le_antisymm (length_le_of_alike alike.symm first (by omega)) le
    · have le := length_le_of_alike alike.symm first short
      exact Nat.le_antisymm le (length_le_of_alike alike second (by omega))
  apply Bytes.ofString_injective
  apply List.ext_getElem same
  intro i left right
  exact octet_eq_of_alike alike (by omega) left right

/-- Long passwords are alike exactly if they begin with the same 72 octets. -/
theorem alike_iff_of_long (first : 72 ≤ (Bytes.ofString p).length)
    (second : 72 ≤ (Bytes.ofString q).length) :
    Alike p q ↔ (Bytes.ofString p).take 72 = (Bytes.ofString q).take 72 := by
  constructor
  · intro alike
    apply List.ext_getElem
    · rw [List.length_take_of_le first, List.length_take_of_le second]
    · intro i left right
      rw [List.length_take_of_le first] at left
      rw [List.getElem_take, List.getElem_take]
      exact octet_eq_of_alike alike left (by omega) (by omega)
  · intro same i small
    have octet := congrArg (·[i]?) same
    rw [List.getElem?_take, if_pos small, List.getElem?_take, if_pos small,
      List.getElem?_eq_getElem (by omega), List.getElem?_eq_getElem (by omega)] at octet
    rw [octetAt_closed_of_lt (by omega), octetAt_closed_of_lt (by omega)]
    exact Option.some.inj octet

/-- Passwords without null octets are alike only if they are the same, or if both are long and begin
with the same 72 octets. -/
theorem alike_iff_of_plain (first : 0 ∉ Bytes.ofString p) (second : 0 ∉ Bytes.ofString q) :
    Alike p q ↔ p = q ∨ 72 ≤ (Bytes.ofString p).length ∧ 72 ≤ (Bytes.ofString q).length ∧
      (Bytes.ofString p).take 72 = (Bytes.ofString q).take 72 := by
  constructor
  · intro alike
    by_cases short : (Bytes.ofString p).length < 72 ∨ (Bytes.ofString q).length < 72
    · exact .inl (eq_of_alike alike first second short)
    · have long : 72 ≤ (Bytes.ofString p).length ∧ 72 ≤ (Bytes.ofString q).length := by omega
      exact .inr ⟨long.1, long.2, (alike_iff_of_long long.1 long.2).1 alike⟩
  · rintro (rfl | ⟨left, right, same⟩)
    · exact fun i _ => rfl
    · exact (alike_iff_of_long left right).2 same

/-- With a null character in it, one password may be another one repeated. -/
example : Alike "abcdefgh" "abcdefgh\x00abcdefgh" := by decide +kernel

theorem null_mem_ofString : 0 ∈ Bytes.ofString p ↔ '\x00' ∈ p.toList := by
  rw [Bytes.ofString_eq, List.mem_flatMap]
  constructor
  · rintro ⟨c, among, inside⟩
    by_cases low : c.toNat < 128
    · rw [Bytes.encode_low low, List.mem_singleton] at inside
      have zero := congrArg UInt8.toNat inside
      rw [UInt8.toNat_ofNat', UInt8.toNat_zero] at zero
      have least : c.toNat = 0 := by omega
      have null : c = '\x00' := Char.toNat_inj.1 least
      exact null ▸ among
    · have high := Bytes.encode_high (Nat.le_of_not_lt low) 0 inside
      exact absurd high (by decide)
  · intro among
    exact ⟨_, among, by decide⟩

end Credential.Password

namespace Service

open Cipher.Blowfish (keyWords)
open Credential.Password (Alike alike_iff_of_plain digest digest_of_alike key keyWords_key_eq_iff
  null_mem_ofString)
open Http (Request)
open Store (User)

/-- Where the digests of two passwords agree only if the cipher takes the same of both, a login with
the email of an account is answered with a token exactly if its password and the account's begin
alike, however they go on. Passwords without null characters begin so only if they are the same, or
both of at least 72 octets with the first 72 in common. -/
theorem login_accepts_alike (setting : Setting) (valid : setting.config.Valid)
    (own : setting.hasher = Credential.Password.hasher) (history : List Event)
    (unaided : Unaided setting history)
    (octets : ∀ o q, .request o q ∈ history → q.method = .post →
      resource? setting.config q = some .registration → o.draws.salt.length = 16)
    {r : Registration} {user : User} {token hash : String}
    (registered : Registered setting history r user token hash)
    (redeemed : Redeemed setting history token) (stays : ¬Expelled setting history user.id)
    {o : Occasion} {q : Request} (arrives : Arrives setting history o q) {given : String}
    (read : Login.ofRequest setting.config.listener.maxBodySize q = .ok ⟨r.email, given⟩)
    (apart : ∀ salt,
      Credential.Password.hash r.password setting.config.auth.passwordCost salt = .ok hash →
      digest setting.config.auth.passwordCost salt (key given) =
        digest setting.config.auth.passwordCost salt (key r.password) →
      keyWords (key given) = keyWords (key r.password)) :
    let response := (respond (setting.env o) q (setting.course history)).1
    (response.status = if Alike given r.password then 201 else 401) ∧
    ('\x00' ∉ given.toList → '\x00' ∉ r.password.toList → (response.status = 201 ↔
      given = r.password ∨ 72 ≤ (Bytes.ofString given).length ∧
        72 ≤ (Bytes.ofString r.password).length ∧
        (Bytes.ofString given).take 72 = (Bytes.ofString r.password).take 72)) := by
  obtain ⟨salt, sixteen, made⟩ : ∃ salt : Bytes, salt.length = 16 ∧
      Credential.Password.hash r.password setting.config.auth.passwordCost salt = .ok hash := by
    obtain ⟨before, o, q, rest, rfl, registers⟩ := registered
    have hashed : setting.hasher.hash r.password setting.config.auth.passwordCost o.draws.salt =
      .ok hash := registers.hashed
    rw [own] at hashed
    exact ⟨o.draws.salt, octets o q (List.mem_append_right _ List.mem_cons_self) registers.posts
      registers.found, hashed⟩
  have verified : setting.hasher.verify given hash = .ok (decide (Alike given r.password)) := by
    rw [own]
    refine (Credential.Password.verify_hash sixteen made given).trans (congrArg Except.ok ?_)
    rw [Bool.beq_eq_decide_eq, decide_eq_decide]
    exact ⟨fun same => keyWords_key_eq_iff.1 (apart salt made same), fun alike =>
      digest_of_alike alike setting.config.auth.passwordCost salt⟩
  have status := status_of_registered valid unaided registered ⟨token, rfl, redeemed⟩ stays arrives
    read verified
  simp only [decide_eq_true_eq] at status
  refine ⟨status, fun first second => ?_⟩
  rw [← alike_iff_of_plain (mt null_mem_ofString.1 first) (mt null_mem_ofString.1 second), status]
  by_cases alike : Alike given r.password
  · rw [if_pos alike]
    exact iff_of_true rfl alike
  · rw [if_neg alike]
    exact iff_of_false (by decide) alike

namespace Sample

/-- Twenty-four characters of three octets each, and one more. -/
def long : String := "€€€€€€€€€€€€€€€€€€€€€€€€a"

def longToo : String := "€€€€€€€€€€€€€€€€€€€€€€€€b"

theorem long_alike : Alike longToo long := by decide +kernel

set_option maxRecDepth 100000 in
theorem long_read : Registration.ofRequest service.config.listener.maxBodySize (signUp long) =
    .ok (registration long) :=
  ok_of_toOption (by decide +kernel)

set_option maxRecDepth 100000 in
theorem longToo_read : Login.ofRequest service.config.listener.maxBodySize (loginWith longToo) =
    .ok ⟨"ada@example.com", longToo⟩ :=
  ok_of_toOption (by decide +kernel)

end Sample

/-- Two passwords of 25 characters that differ in the last only pass for one another. -/
theorem long_password_accepted :
    Sample.longToo ≠ Sample.long ∧
    (respond (Sample.service.env Sample.start) (Sample.loginWith Sample.longToo)
      (Sample.service.course (Sample.enrolment Sample.long))).1.status = 201 := by
  obtain ⟨hash, _, registered⟩ := Sample.registered Sample.long_read
  have told := login_accepts_alike Sample.service Sample.service_valid rfl
    (Sample.enrolment Sample.long) (Sample.enrolment_unaided _)
    (fun o q among posts _ => Sample.enrolment_octets _ o q among posts) registered
    (Sample.redeemed Sample.long_read) (Sample.not_expelled _ _)
    (Sample.loginWith_arrives Sample.long Sample.longToo) Sample.longToo_read
    fun _ _ _ => keyWords_key_eq_iff.2 Sample.long_alike
  refine ⟨by decide, told.1.trans (if_pos Sample.long_alike)⟩

/-- Different passwords that may both be registered are not always told apart: the cipher may take
the same of both, and one opens the account that was registered with the other. -/
theorem passwords_not_told_apart :
    Sample.longToo ≠ Sample.long ∧ checkPassword Sample.long = .ok () ∧
    checkPassword Sample.longToo = .ok () ∧
    keyWords (key Sample.longToo) = keyWords (key Sample.long) ∧
    ∃ hash, Registered Sample.service (Sample.enrolment Sample.long)
        (Sample.registration Sample.long) Sample.person Sample.invitation.token hash ∧
      Login.ofRequest Sample.service.config.listener.maxBodySize
        (Sample.loginWith Sample.longToo) = .ok ⟨"ada@example.com", Sample.longToo⟩ ∧
      (respond (Sample.service.env Sample.start) (Sample.loginWith Sample.longToo)
        (Sample.service.course (Sample.enrolment Sample.long))).1.status = 201 := by
  obtain ⟨hash, made, registered⟩ := Sample.registered Sample.long_read
  refine ⟨by decide, rfl, rfl, keyWords_key_eq_iff.2 Sample.long_alike, hash, registered,
    Sample.longToo_read, ?_⟩
  have verified : Sample.service.hasher.verify Sample.longToo hash = .ok true := by
    refine (Credential.Password.verify_hash Sample.drawing_salt made _).trans ?_
    rw [digest_of_alike Sample.long_alike, beq_self_eq_true]
  exact status_of_registered Sample.service_valid (Sample.enrolment_unaided Sample.long) registered
    ⟨Sample.invitation.token, rfl, Sample.redeemed Sample.long_read⟩ (Sample.not_expelled _ _)
    (Sample.loginWith_arrives Sample.long Sample.longToo) Sample.longToo_read verified

end Service

end Agora
