import Agora.Credential.Password
import Agora.Proofs.Base64Text
import Mathlib.Data.List.Basic

set_option autoImplicit false

namespace Agora.Credential

namespace Password

theorem twoDigits_read {cost : Nat} (allowed : costAllowed cost = true) :
    ∃ c d, (twoDigits cost).toList = [c, d] ∧ '$' ∉ [c, d] ∧
      Text.Numeral.word32 (String.ofList [c, d]) = .ok cost := by
  have all : ∀ cost : Fin 32,
      '$' ∉ [Char.ofNat (48 + cost.val / 10 % 10), Char.ofNat (48 + cost.val % 10)] ∧
      (Text.Numeral.word32 (String.ofList [Char.ofNat (48 + cost.val / 10 % 10),
        Char.ofNat (48 + cost.val % 10)])).toOption = some cost.val := by decide +kernel
  have most : cost ≤ mostCost := of_decide_eq_true ((Bool.and_eq_true _ _).mp allowed).2
  obtain ⟨plain, read⟩ := all ⟨cost, Nat.lt_succ_of_le most⟩
  refine ⟨_, _, String.toList_ofList, plain, ?_⟩
  cases numeral : Text.Numeral.word32 (String.ofList [Char.ofNat (48 + cost / 10 % 10),
      Char.ofNat (48 + cost % 10)]) with
  | ok n =>
    rw [numeral] at read
    rw [Option.some.inj read]
  | error fault =>
    rw [numeral] at read
    cases read

/-- The digits of salt and digest. -/
def Hashed.tail (h : Hashed) : List Char :=
  Base64.crypt.encode h.salt ++ Base64.crypt.encode h.digest

theorem Hashed.dollar_not_mem_tail (h : Hashed) : '$' ∉ h.tail := by
  rw [tail, List.mem_append, not_or]
  exact ⟨Base64.plain_crypt.not_mem_encode Base64.crypt_digit_ne_dollar _,
    Base64.plain_crypt.not_mem_encode Base64.crypt_digit_ne_dollar _⟩

theorem pieces_render {h : Hashed} {c d : Char} (digits : (twoDigits h.cost).toList = [c, d])
    (plain : '$' ∉ [c, d]) (full : h.tail.isEmpty = false) :
    (h.render.toList.splitOn '$').filter (!·.isEmpty) = [['2', 'b'], [c, d], h.tail] := by
  have text : h.render.toList = [] ++ '$' :: (['2', 'b'] ++ '$' :: ([c, d] ++ '$' :: h.tail)) := by
    simp only [Hashed.render, String.toList_append, digits, String.toList_ofList]
    rfl
  rw [text, List.splitOn_append_cons_self_of_not_mem List.not_mem_nil,
    List.splitOn_append_cons_self_of_not_mem (by decide),
    List.splitOn_append_cons_self_of_not_mem plain,
    List.splitOn_eq_singleton h.dollar_not_mem_tail]
  simp only [List.filter_cons, List.isEmpty_nil, List.isEmpty_cons, full, Bool.not_true,
    Bool.not_false, Bool.false_eq_true, ↓reduceIte, List.filter_nil]

theorem parse?_render {h : Hashed} (allowed : costAllowed h.cost = true)
    (salt : h.salt.length = 16) (digest : h.digest.length = 23) :
    Hashed.parse? h.render = some h := by
  obtain ⟨c, d, digits, plain, read⟩ := twoDigits_read allowed
  have saltText : (Base64.crypt.encode h.salt).length = 22 := by
    rw [Base64.plain_crypt.length_encode, salt]
  have digestText : (Base64.crypt.encode h.digest).length = 31 := by
    rw [Base64.plain_crypt.length_encode, digest]
  have whole : h.tail.length = 53 := by
    rw [Hashed.tail, List.length_append, saltText, digestText]
  have full : h.tail.isEmpty = false := by
    rw [List.isEmpty_eq_false_iff]
    intro empty
    rw [empty] at whole
    cases whole
  have known : versions.contains (String.ofList ['2', 'b']) = true := by decide
  have front : h.tail.take 22 = Base64.crypt.encode h.salt := List.take_left' saltText
  have back : h.tail.drop 22 = Base64.crypt.encode h.digest := List.drop_left' saltText
  simp only [Hashed.parse?, pieces_render digits plain full, known, whole, front, back, read,
    Except.toOption, Base64.plain_crypt.decode?_encode, guard, ↓reduceIte, Option.bind_eq_bind,
    Option.pure_def, Option.bind_some]

theorem length_digest (cost : Nat) (salt key : Bytes) : (digest cost salt key).length = 23 := by
  have block (n : Nat) : (Digest.Sha256.bigEndian 4 n).length = 4 := rfl
  simp only [digest, plainWords, List.flatMap_cons, List.flatMap_nil, List.length_take,
    List.length_append, block, List.length_nil]
  omega

/-- Whether a password is the one that was hashed is whether their keys have one digest. -/
theorem verify_hash {password hash : String} {cost : Nat} {salt : Bytes} (octets : salt.length = 16)
    (made : Password.hash password cost salt = .ok hash) (given : String) :
    verify given hash = .ok (digest cost salt (key given) == digest cost salt (key password)) := by
  unfold Password.hash at made
  split at made
  · rename_i allowed
    cases made
    let hashed : Hashed := ⟨cost, salt, digest cost salt (key password)⟩
    have read : Hashed.parse? hashed.render = some hashed :=
      parse?_render allowed octets (length_digest cost salt (key password))
    rw [verify, read]
    dsimp only
    rw [if_pos allowed]
  · cases made

end Password

/-- What a hasher makes with a work factor and a salt, it can compare passwords with. -/
def Hasher.Reads (hasher : Hasher) (cost : Nat) (salt : Bytes) : Prop :=
  ∀ password hash, hasher.hash password cost salt = .ok hash →
    ∀ given, ∃ same, hasher.verify given hash = .ok same

theorem Password.hasher_reads (cost : Nat) {salt : Bytes} (octets : salt.length = 16) :
    Password.hasher.Reads cost salt := fun _ _ made given => ⟨_, verify_hash octets made given⟩

end Agora.Credential
