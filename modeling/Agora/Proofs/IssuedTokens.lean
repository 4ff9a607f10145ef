import Agora.Proofs.Base64Text
import Agora.Proofs.WrittenRecords
import Agora.Token.Signed

set_option autoImplicit false

namespace Agora

namespace Token

namespace Claims

/-- The times of the claims are numbers that fit. -/
def Legible (c : Claims) : Prop :=
  Json.FitsInt64 c.issuedAt ∧ Json.FitsInt64 c.notBefore ∧ Json.FitsInt64 c.expires

instance (c : Claims) : Decidable c.Legible := inferInstanceAs (Decidable (_ ∧ _ ∧ _))

/-- Written claims read as the claims, if their times fit. -/
theorem parse?_toJson (c : Claims) :
    parse? (Bytes.ofString c.toJson.render) = if c.Legible then some c else none := by
  have reads : Json.ReadsAll fields _ _ :=
    .cons rfl (Json.reads_text c.subject) <| .cons rfl (Json.reads_int64 c.issuedAt) <|
      .cons rfl (Json.reads_int64 c.notBefore) <| .cons rfl (Json.reads_int64 c.expires) <|
      .cons rfl (Json.reads_text c.issuer) <| .cons rfl (Json.reads_text c.audience) .nil
  have read := Json.read_render .ignored reads
  obtain ⟨rest, opened⟩ := Json.skipSpace_render [("sub", .string c.subject),
    ("iat", .whole c.issuedAt), ("nbf", .whole c.notBefore), ("exp", .whole c.expires),
    ("iss", .string c.issuer), ("aud", .string c.audience)]
  rw [toJson, parse?, opened]
  simp only [read]
  by_cases legible : c.Legible
  · obtain ⟨issued, begins, ends⟩ := legible
    rw [if_pos issued, if_pos begins, if_pos ends, if_pos ⟨issued, begins, ends⟩]
    rfl
  · rw [if_neg legible]
    by_cases issued : Json.FitsInt64 c.issuedAt
    · by_cases begins : Json.FitsInt64 c.notBefore
      · have ends : ¬Json.FitsInt64 c.expires := fun fits => legible ⟨issued, begins, fits⟩
        rw [if_pos issued, if_pos begins, if_neg ends]
        rfl
      · rw [if_pos issued, if_neg begins]
        rfl
    · rw [if_neg issued]
      rfl

end Claims

theorem parse?_issued :
    Header.parse? (Bytes.ofString Header.issued.render) = some Header.accepted := by
  decide +kernel

theorem splitLast?_append (before : List Char) {after : List Char} (plain : '.' ∉ after) :
    splitLast? (before ++ '.' :: after) = some (before, after) := by
  have ended : ((before ++ '.' :: after).reverse).takeWhile (· ≠ '.') = after.reverse := by
    have all : ∀ c ∈ after.reverse, decide (c ≠ '.') = true := by
      intro c among
      refine decide_eq_true ?_
      rintro rfl
      exact plain (List.mem_reverse.1 among)
    rw [List.reverse_append, List.reverse_cons, List.append_assoc,
      List.takeWhile_append_of_pos all]
    exact List.append_nil _
  have length : (before ++ '.' :: after).length = before.length + 1 + after.length := by
    rw [List.length_append, List.length_cons]
    omega
  have more : after.length < before.length + 1 + after.length := by omega
  have kept : before.length + 1 + after.length - after.length - 1 = before.length := by omega
  rw [splitLast?, ended, length, List.length_reverse]
  simp only [if_pos more, kept, List.take_left, List.reverse_reverse]

theorem octets_part (b : Bytes) : octets (part b) = .ok b := by
  rw [octets, part, Base64.plain_urlSafe.decode?_encode]

/-- A token that was signed under the secret is judged by its claims alone. -/
theorem claims_sign (config : Config.Token) (now : Int) (c : Claims) :
    claims config now (sign config c) =
      if c.Legible then (c.check config now).map fun _ => c else .error .notJson := by
  have outer : splitLast? (sign config c).toList =
      some (message c, part (signature config.secret (message c))) := by
    rw [sign, String.toList_ofList]
    exact splitLast?_append _ (Base64.Plain.not_mem_encode Base64.plain_urlSafe Base64.urlSafe_digit_ne_dot _)
  have inner : splitLast? (message c) = some (part (Bytes.ofString Header.issued.render),
      part (Bytes.ofString c.toJson.render)) :=
    splitLast?_append _ (Base64.Plain.not_mem_encode Base64.plain_urlSafe Base64.urlSafe_digit_ne_dot _)
  have granted (otherwise : Rejection) : demand (decide True) otherwise = .ok () := rfl
  simp only [claims, outer, inner, octets_part, parse?_issued, readable, granted,
    Claims.parse?_toJson, bind, Except.bind]
  by_cases legible : c.Legible
  · rw [if_pos legible, if_pos legible]
    simp only
    cases c.check config now with
    | error rejection => rfl
    | ok _ => rfl
  · rw [if_neg legible, if_neg legible]

theorem fitsInt64_wrap (n : Int) : Json.FitsInt64 (Claims.wrap n) := by
  have least := Int.le_bmod (x := n) (m := 2 ^ 64) (by decide)
  have most := Int.bmod_lt (x := n) (m := 2 ^ 64) (by decide)
  rw [Claims.wrap]
  constructor
  · omega
  · omega

theorem legible_issue (config : Config.Token) (issued id : Int) :
    (Claims.issue config issued id).Legible ↔ Json.FitsInt64 issued :=
  ⟨fun legible => legible.1, fun fits => ⟨fits, fits, fitsInt64_wrap _⟩⟩

/-- The verdict on an issued token: its claims are checked, and its subject is the user's number. -/
theorem verify_issue (config : Config.Token) (now issued id : Int) :
    verify config now (issue config issued id) =
      if Json.FitsInt64 issued then
        match (Claims.issue config issued id).check config now with
        | .ok () =>
          if Json.FitsInt64 id then .ok id else .error .subjectNotNumber
        | .error rejection => .error (.rejected rejection)
      else .error (.rejected .notJson) := by
  rw [verify, issue, claims_sign]
  by_cases fits : Json.FitsInt64 issued
  · rw [if_pos fits, if_pos ((legible_issue config issued id).2 fits)]
    cases (Claims.issue config issued id).check config now with
    | error rejection => rfl
    | ok _ =>
      simp only [Except.map, Claims.issue, Text.Numeral.int64_toString]
      by_cases high : 2 ^ 63 - 1 < id
      · rw [if_pos high, if_neg fun small => absurd small.2 (by omega)]
      · by_cases low : id < -2 ^ 63
        · rw [if_neg high, if_pos low, if_neg fun large => absurd large.1 (by omega)]
        · rw [if_neg high, if_neg low, if_pos ⟨by omega, by omega⟩]
  · rw [if_neg fits, if_neg fun legible => fits ((legible_issue config issued id).1 legible)]

/-- A token verifies as nothing but the user whom it was issued to. -/
theorem subject_of_verify {config : Config.Token} {now issued id found : Int}
    (verified : verify config now (issue config issued id) = .ok found) : found = id := by
  rw [verify_issue] at verified
  split at verified
  · split at verified
    · split at verified
      · exact (Except.ok.inj verified).symm
      · cases verified
    · cases verified
  · cases verified

end Token

end Agora
