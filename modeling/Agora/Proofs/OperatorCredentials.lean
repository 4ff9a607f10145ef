import Agora.Proofs.Base64Text
import Agora.Proofs.PresentedCredentials
import Agora.Config.Rule

/-!
The credentials of operators. A name and a password have one written form: their octets with a colon
between them, in base 64. What a request presents is judged by the first rule that applies, and just
the written form of the configured name and password is accepted. A name with a colon in it has no
written form that is read as this name, so its operator is never accepted.
-/

set_option autoImplicit false

namespace Agora.Credential

open Config (Operator)
open Http (Headers Printable)
open Text (Trimmed isBlank)

/-- The written form of a name and a password. -/
def pairText (username password : String) : List Char :=
  Base64.standard.encode (Bytes.ofString (username ++ ":" ++ password))

/-- The first authorization value gives a name, in which there is no colon, and a password. -/
structure Gives (headers : Headers) (username password : String) : Prop where
  named : ':' ∉ username.toList
  presents : Presents "Basic" headers (pairText username password)

/-- What is said to a request that presents something to the scheme of operators. The rules stand in
the order in which they apply; each is about requests that none before it is about. -/
inductive Judged (expected : Operator) (headers : Headers) : Except Refusal Unit → Prop where
  | missing (absent : headers.first? "authorization" = none) :
      Judged expected headers (.error .missingHeader)
  | illegible {value : Bytes} (given : headers.first? "authorization" = some value)
      (hidden : ∃ b ∈ value, Headers.isVisible b = false) :
      Judged expected headers (.error .malformedHeader)
  | unspaced {text : List Char} (carries : Carries headers text) (whole : ' ' ∉ text) :
      Judged expected headers (.error .malformedHeader)
  | otherScheme {given rest : List Char} (carries : Carries headers (given ++ ' ' :: rest))
      (first : ' ' ∉ given) (other : given ≠ "Basic".toList) :
      Judged expected headers (.error .wrongScheme)
  | empty (presents : Presents "Basic" headers []) :
      Judged expected headers (.error .malformedHeader)
  | undecodable {credential : List Char} (presents : Presents "Basic" headers credential)
      (unwritten : ∀ b, credential ≠ Base64.standard.encode b) :
      Judged expected headers (.error .malformedHeader)
  | noText {b : Bytes} (presents : Presents "Basic" headers (Base64.standard.encode b))
      (unwritten : ∀ text, b ≠ Bytes.ofString text) :
      Judged expected headers (.error .malformedHeader)
  | noPair {text : String}
      (presents : Presents "Basic" headers (Base64.standard.encode (Bytes.ofString text)))
      (filled : text ≠ "") (whole : ':' ∉ text.toList) :
      Judged expected headers (.error .malformedHeader)
  | other {username password : String} (gives : Gives headers username password)
      (differs : username ≠ expected.username ∨ password ≠ expected.password) :
      Judged expected headers (.error .badCredentials)
  | own (gives : Gives headers expected.username expected.password) :
      Judged expected headers (.ok ())

/-- If the name and the password that a request gives have the digests of the configured ones, then
they are the configured ones. -/
def ToldApart (expected : Operator) (headers : Headers) : Prop :=
  ∀ username password, Gives headers username password →
    sameDigest username expected.username = true → sameDigest password expected.password = true →
      username = expected.username ∧ password = expected.password

section

variable {expected : Operator} {headers : Headers}

theorem basic_named : ' ' ∉ "Basic".toList := by decide

theorem operator_of_refused {r : Refusal} (refused : ofHeaders "Basic" headers = .error r) :
    operator expected headers = .error r := by
  rw [operator, refused]
  rfl

/-- What is presented is read as a pair, which is compared with the configured one. -/
theorem operator_of_presents {credential : List Char}
    (presents : Presents "Basic" headers credential) :
    operator expected headers =
      if credential.isEmpty then .error .malformedHeader
      else basicPair credential >>= fun pair =>
        if sameDigest pair.1 expected.username && sameDigest pair.2 expected.password then .ok ()
        else .error .badCredentials := by
  rw [operator, ofHeaders_of_presents basic_named presents]
  split <;> rfl

theorem basicPair_of_unwritten {credential : List Char}
    (unwritten : ∀ b, credential ≠ Base64.standard.encode b) :
    basicPair credential = .error .malformedHeader := by
  cases read : Base64.standard.decode? credential with
  | none => simp only [basicPair, read]
  | some b => exact absurd (Base64.legible_standard.eq_encode_of_decode? read) (unwritten b)

theorem basicPair_encode (b : Bytes) :
    basicPair (Base64.standard.encode b) =
      match (Bytes.toString? b).bind fun text => splitFirst? ':' text.toList with
      | none => .error .malformedHeader
      | some (username, password) => .ok (String.ofList username, String.ofList password) := by
  simp only [basicPair, Base64.legible_standard.decode?_encode]
  cases Bytes.toString? b with
  | none => rfl
  | some text =>
    simp only [Option.bind_some]
    cases splitFirst? ':' text.toList with
    | none => rfl
    | some pair => rfl

theorem basicPair_pairText {username password : String} (named : ':' ∉ username.toList) :
    basicPair (pairText username password) = .ok (username, password) := by
  have parts : (username ++ ":" ++ password).toList =
      username.toList ++ ':' :: password.toList := by
    simp only [String.toList_append, List.append_assoc]
    rfl
  rw [pairText, basicPair_encode, Bytes.toString?_ofString, Option.bind_some, parts,
    splitFirst?_append named]
  simp only [String.ofList_toList]

/-- What is written in base 64 is printable and has no blanks. -/
theorem printable_encode {b : Bytes} {c : Char} (inside : c ∈ Base64.standard.encode b) :
    Printable c ∧ isBlank c = false := by
  have digits : ∀ v : Fin 64, Printable (Base64.standard.digit v) ∧
      isBlank (Base64.standard.digit v) = false := by decide +kernel
  rcases Base64.mem_encode inside with ⟨v, rfl⟩ | ⟨_, rfl⟩
  · have same : Base64.standard.digit v = Base64.standard.digit (v % 64) := by
      rw [Base64.Alphabet.digit, Base64.Alphabet.digit, Nat.mod_mod]
    rw [same]
    exact digits ⟨v % 64, Nat.mod_lt v (by decide)⟩
  · decide

theorem trimmed_encode (b : Bytes) : Trimmed (Base64.standard.encode b) :=
  Text.trimmed_of_no_blank fun _ inside => (printable_encode inside).2

theorem presents_written {b : Bytes}
    (given : headers.first? "authorization" =
      some (Bytes.ofString ("Basic " ++ String.ofList (Base64.standard.encode b)))) :
    Presents "Basic" headers (Base64.standard.encode b) := by
  refine ⟨[], [], nofun, nofun, trimmed_encode b, ?_, ?_⟩
  · have digits : (String.ofList (Base64.standard.encode b)).toList = Base64.standard.encode b :=
      String.toList_ofList
    rw [given, Bytes.ofString_eq, String.toList_append, digits, List.append_nil]
    rfl
  · intro c inside
    rw [List.append_nil, List.nil_append, List.mem_append, List.mem_cons] at inside
    rcases inside with name | rfl | digit
    · have plain : ("Basic".toList.all fun d => decide (Printable d)) = true := by decide
      exact of_decide_eq_true (List.all_eq_true.1 plain c name)
    · decide
    · exact (printable_encode digit).1

theorem pair_of_colon {text : String} (paired : ':' ∈ text.toList) :
    ∃ username password : String, ':' ∉ username.toList ∧ text = username ++ ":" ++ password := by
  obtain ⟨name, word, parts, first⟩ := List.eq_append_cons_of_mem paired
  refine ⟨String.ofList name, String.ofList word, by rwa [String.toList_ofList], ?_⟩
  rw [← String.toList_inj, parts]
  simp [String.toList_append]

theorem pairText_ne_nil (username password : String) : pairText username password ≠ [] := by
  have colon : ':' ∈ (username ++ ":" ++ password).toList := by
    simp [String.toList_append]
  have octet : 58 ∈ Bytes.ofString (username ++ ":" ++ password) := by
    rw [Bytes.ofString_eq]
    exact List.mem_flatMap.2 ⟨':', colon, by decide⟩
  rw [pairText]
  intro empty
  have back := Base64.legible_standard.decode?_encode
    (Bytes.ofString (username ++ ":" ++ password))
  rw [empty] at back
  rw [← Option.some.inj back] at octet
  cases octet

/-- A name and a password that are given are compared with the configured ones. -/
theorem operator_of_gives {username password : String} (gives : Gives headers username password) :
    operator expected headers =
      if sameDigest username expected.username && sameDigest password expected.password then .ok ()
      else .error .badCredentials := by
  have filled : ¬(pairText username password).isEmpty = true := fun empty =>
    pairText_ne_nil username password (List.isEmpty_iff.1 empty)
  rw [operator_of_presents gives.presents, if_neg filled, basicPair_pairText gives.named]
  rfl

theorem Gives.unique {username password other secret : String}
    (gives : Gives headers username password) (also : Gives headers other secret) :
    username = other ∧ password = secret := by
  have text := gives.presents.unique basic_named also.presents
  have read : basicPair (pairText username password) = .ok (username, password) :=
    basicPair_pairText gives.named
  rw [text, basicPair_pairText also.named] at read
  injection read with pair
  injection pair with name word
  exact ⟨name.symm, word.symm⟩

theorem operator_of_own (gives : Gives headers expected.username expected.password) :
    operator expected headers = .ok () := by
  have same (text : String) : sameDigest text text = true := decide_eq_true rfl
  rw [operator_of_gives gives, same, same]
  rfl

theorem operator_of_other (told : ToldApart expected headers) {username password : String}
    (gives : Gives headers username password)
    (differs : username ≠ expected.username ∨ password ≠ expected.password) :
    operator expected headers = .error .badCredentials := by
  rw [operator_of_gives gives, if_neg]
  rw [Bool.and_eq_true]
  rintro ⟨sameName, sameWord⟩
  obtain ⟨name, word⟩ := told username password gives sameName sameWord
  exact differs.elim (fun apart => apart name) fun apart => apart word

theorem Judged.operator_eq {outcome : Except Refusal Unit}
    (judged : Judged expected headers outcome) (told : ToldApart expected headers) :
    operator expected headers = outcome := by
  cases judged with
  | missing absent => exact operator_of_refused (ofHeaders_of_missing absent)
  | illegible given hidden => exact operator_of_refused (ofHeaders_of_illegible given hidden)
  | unspaced carries whole => exact operator_of_refused (ofHeaders_of_unspaced carries whole)
  | otherScheme carries first other =>
    exact operator_of_refused (ofHeaders_of_other carries first other)
  | empty presents => exact operator_of_refused (ofHeaders_of_presents basic_named presents)
  | undecodable presents unwritten =>
    rw [operator_of_presents presents, basicPair_of_unwritten unwritten]
    exact ite_self _
  | @noText b presents unwritten =>
    have unread : Bytes.toString? b = none := by
      cases read : Bytes.toString? b with
      | none => rfl
      | some text => exact absurd (Bytes.ofString_of_toString? read).symm (unwritten text)
    rw [operator_of_presents presents, basicPair_encode, unread]
    exact ite_self _
  | noPair presents filled whole =>
    rw [operator_of_presents presents, basicPair_encode, Bytes.toString?_ofString,
      Option.bind_some, splitFirst?_of_not_mem whole]
    exact ite_self _
  | other gives differs => exact operator_of_other told gives differs
  | own gives => exact operator_of_own gives

/-- What is presented is judged as no writing, as no text, as no pair or as the pair that it is. -/
theorem judged_of_presents {credential : List Char}
    (presents : Presents "Basic" headers credential) :
    ∃ outcome, Judged expected headers outcome := by
  by_cases written : ∃ b, credential = Base64.standard.encode b
  · obtain ⟨b, rfl⟩ := written
    by_cases readable : ∃ text, b = Bytes.ofString text
    · obtain ⟨text, rfl⟩ := readable
      by_cases paired : ':' ∈ text.toList
      · obtain ⟨username, password, named, rfl⟩ := pair_of_colon paired
        have gives : Gives headers username password := ⟨named, presents⟩
        by_cases own : username = expected.username ∧ password = expected.password
        · obtain ⟨rfl, rfl⟩ := own
          exact ⟨_, .own gives⟩
        · exact ⟨_, .other gives (Decidable.not_and_iff_not_or_not.1 own)⟩
      · by_cases empty : text = ""
        · rw [empty] at presents
          exact ⟨_, .empty presents⟩
        · exact ⟨_, .noPair presents empty paired⟩
    · exact ⟨_, .noText presents (not_exists.1 readable)⟩
  · exact ⟨_, .undecodable presents (not_exists.1 written)⟩

/-- There is a rule for every request. -/
theorem judged_total (expected : Operator) (headers : Headers) :
    ∃ outcome, Judged expected headers outcome := by
  rcases header_cases "Basic" headers with absent | ⟨value, given, hidden⟩ |
    ⟨text, carries, whole⟩ | ⟨given, rest, carries, first, other⟩ | ⟨credential, presents⟩
  · exact ⟨_, .missing absent⟩
  · exact ⟨_, .illegible given hidden⟩
  · exact ⟨_, .unspaced carries whole⟩
  · exact ⟨_, .otherScheme carries first other⟩
  · exact judged_of_presents presents

/-- Just the written form of the configured name and password is accepted, and all else is refused
by the first rule that applies. -/
theorem operator_judged (told : ToldApart expected headers) :
    (operator expected headers = .ok () ↔
      Gives headers expected.username expected.password) ∧
    (operator expected headers = .ok () → ∀ credential, Presents "Basic" headers credential ↔
      credential = pairText expected.username expected.password) ∧
    ∀ outcome, operator expected headers = outcome ↔ Judged expected headers outcome := by
  have judged : Judged expected headers (operator expected headers) := by
    obtain ⟨outcome, judged⟩ := judged_total expected headers
    rwa [judged.operator_eq told]
  have own : operator expected headers = .ok () →
      Gives headers expected.username expected.password := by
    intro accepted
    rw [accepted] at judged
    cases judged with
    | own gives => exact gives
  refine ⟨⟨own, operator_of_own⟩, fun accepted credential => ⟨fun presents => ?_, ?_⟩,
    fun outcome => ⟨fun same => same ▸ judged, fun judged => judged.operator_eq told⟩⟩
  · exact presents.unique basic_named (own accepted).presents
  · rintro rfl
    exact (own accepted).presents

/-- The written form of the configured name and password is accepted if there is no colon in the
name; it is read as another pair if there is one. -/
theorem written_operator_accepted
    (given : headers.first? "authorization" = some (Bytes.ofString
      ("Basic " ++ String.ofList (pairText expected.username expected.password)))) :
    (':' ∉ expected.username.toList → operator expected headers = .ok ()) ∧
    (':' ∈ expected.username.toList → ToldApart expected headers →
      operator expected headers = .error .badCredentials) := by
  have presents : Presents "Basic" headers (pairText expected.username expected.password) :=
    presents_written given
  refine ⟨fun named => operator_of_own ⟨named, presents⟩, fun inside told => ?_⟩
  have paired : ':' ∈ (expected.username ++ ":" ++ expected.password).toList := by
    simp [String.toList_append]
  obtain ⟨username, password, named, whole⟩ := pair_of_colon paired
  have gives : Gives headers username password :=
    ⟨named, by rwa [pairText, ← whole]⟩
  exact operator_of_other told gives (.inl fun same => named (same ▸ inside))

end

namespace Sample

def ops : Operator := ⟨"ops", "s3cret"⟩

def request (authorization : String) : Headers := [.ofText "authorization" authorization]

theorem presents_padded : Presents "Basic" (request "Basic  b3BzOnMzY3JldA==\t")
    (pairText "ops" "s3cret") :=
  ⟨[' '], ['\t'], List.forall_mem_singleton.2 rfl, List.forall_mem_singleton.2 rfl,
    trimmed_encode _, carries_of_all (by decide +kernel) (by decide +kernel)⟩

end Sample

theorem padded_credentials_accepted :
    ToldApart Sample.ops (Sample.request "Basic  b3BzOnMzY3JldA==\t") ∧
    operator Sample.ops (Sample.request "Basic  b3BzOnMzY3JldA==\t") = .ok () := by
  have own : Gives (Sample.request "Basic  b3BzOnMzY3JldA==\t") "ops" "s3cret" :=
    ⟨by decide, Sample.presents_padded⟩
  have told : ToldApart Sample.ops (Sample.request "Basic  b3BzOnMzY3JldA==\t") := by
    intro username password gives _ _
    exact gives.unique own
  exact ⟨told, (operator_judged told).1.2 own⟩

/-- A tab is none of the printable characters of ASCII, and still it makes no value illegible. -/
theorem tab_not_illegible :
    (∃ value, Headers.first? (Sample.request "Token\t abc") "authorization" = some value ∧
      ∃ b ∈ value, ¬(0x20 ≤ b ∧ b < 0x7F)) ∧
    operator Sample.ops (Sample.request "Token\t abc") = .error .wrongScheme :=
  ⟨⟨_, rfl, 9, by decide +kernel, by decide⟩, rfl⟩

namespace Sample

/-- An operator whose name has a colon in it. -/
def colonNamed : Operator := ⟨"a:b", "c"⟩

def config : Config := { auth := { operator := colonNamed } }

theorem config_valid : config.Valid := by decide +kernel

theorem written_colonNamed : (request "Basic YTpiOmM=").first? "authorization" =
    some (Bytes.ofString
      ("Basic " ++ String.ofList (pairText colonNamed.username colonNamed.password))) := by
  decide +kernel

/-- The other pair that has the written form of its credentials. -/
theorem gives_colonNamed : Gives (request "Basic YTpiOmM=") "a" "b:c" := by
  refine ⟨by decide, ?_⟩
  have same : "a" ++ ":" ++ "b:c" = "a:b" ++ ":" ++ "c" := by decide
  rw [pairText, same]
  exact presents_written written_colonNamed

theorem sameDigest_colonNamed : sameDigest "a" "a:b" = false := by decide +kernel

end Sample

theorem colonless_operator_accepted :
    operator Sample.ops (Sample.request "Basic b3BzOnMzY3JldA==") = .ok () ∧
    operator Sample.colonNamed (Sample.request "Basic YTpiOmM=") = .error .badCredentials := by
  have told : ToldApart Sample.colonNamed (Sample.request "Basic YTpiOmM=") := by
    intro username password gives same
    obtain ⟨rfl, rfl⟩ := gives.unique Sample.gives_colonNamed
    exact absurd (Sample.sameDigest_colonNamed.symm.trans same) Bool.false_ne_true
  exact ⟨(written_operator_accepted (by decide +kernel)).1 (by decide),
    (written_operator_accepted Sample.written_colonNamed).2 (by decide) told⟩

/-- The validator admits an operator that is never accepted. -/
theorem colon_named_operator_refused :
    Sample.config.Valid ∧
    Headers.first? (Sample.request "Basic YTpiOmM=") "authorization" =
      some (Bytes.ofString ("Basic " ++ String.ofList
        (pairText Sample.config.auth.operator.username Sample.config.auth.operator.password))) ∧
    operator Sample.config.auth.operator (Sample.request "Basic YTpiOmM=") =
      .error .badCredentials := by
  refine ⟨Sample.config_valid, Sample.written_colonNamed, ?_⟩
  have apart : sameDigest "a" Sample.config.auth.operator.username = false :=
    Sample.sameDigest_colonNamed
  rw [operator_of_gives Sample.gives_colonNamed, apart, Bool.false_and]
  rfl

end Agora.Credential
