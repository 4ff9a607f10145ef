import Agora.Proofs.JsonStrings
import Agora.Proofs.TextPieces

set_option autoImplicit false

namespace Agora

namespace Http

/-- A character that the text of a header may hold: a visible one of ASCII, a space or a tab. -/
def Printable (c : Char) : Prop := (0x20 ≤ c.toNat ∧ c.toNat < 0x7F) ∨ c = '\t'

instance (c : Char) : Decidable (Printable c) := inferInstanceAs (Decidable (_ ∨ _))

theorem Printable.low {c : Char} (printable : Printable c) : c.toNat < 128 := by
  rcases printable with ⟨_, below⟩ | rfl
  · omega
  · decide

namespace Headers

theorem isVisible_iff (b : UInt8) :
    isVisible b = true ↔ (0x20 ≤ b.toNat ∧ b.toNat < 0x7F) ∨ b.toNat = 9 := by
  have tab : b = 9 ↔ b.toNat = 9 := by
    rw [← UInt8.toNat_inj]
    rfl
  rw [isVisible, Bool.or_eq_true, Bool.and_eq_true, decide_eq_true_eq, decide_eq_true_eq,
    decide_eq_true_eq, UInt8.le_iff_toNat_le, UInt8.lt_iff_toNat_lt, tab]
  rfl

theorem isVisible_ofNat {c : Char} (printable : Printable c) :
    isVisible (UInt8.ofNat c.toNat) = true := by
  have low := printable.low
  rw [isVisible_iff, UInt8.toNat_ofNat', Nat.mod_eq_of_lt (by omega)]
  rcases printable with visible | rfl
  · exact .inl visible
  · exact .inr rfl

theorem toNat_ofNat_of_visible {b : UInt8} (visible : isVisible b = true) :
    (Char.ofNat b.toNat).toNat = b.toNat := by
  have valid : b.toNat.isValidChar := by
    rw [isVisible_iff] at visible
    exact .inl (by omega)
  rw [Char.ofNat, dif_pos valid]
  rfl

theorem printable_ofNat {b : UInt8} (visible : isVisible b = true) :
    Printable (Char.ofNat b.toNat) := by
  have value := toNat_ofNat_of_visible visible
  rcases (isVisible_iff b).1 visible with inside | tab
  · exact .inl (value.symm ▸ inside)
  · rw [tab]
    exact .inr rfl

theorem octets_of_printable {cs : List Char} (printable : ∀ c ∈ cs, Printable c) :
    octets cs = cs.map fun c => UInt8.ofNat c.toNat := by
  induction cs with
  | nil => rfl
  | cons c cs ih =>
    obtain ⟨own, others⟩ := List.forall_mem_cons.1 printable
    have rest := ih others
    rw [octets, List.flatMap_cons, Bytes.encode_low own.low, List.map_cons]
    exact congrArg (UInt8.ofNat c.toNat :: ·) rest

theorem text?_octets {cs : List Char} (printable : ∀ c ∈ cs, Printable c) :
    text? (octets cs) = some (String.ofList cs) := by
  have visible : (cs.map fun c => UInt8.ofNat c.toNat).all isVisible = true := by
    rw [List.all_map, List.all_eq_true]
    exact fun c inside => isVisible_ofNat (printable c inside)
  have back : (cs.map fun c => UInt8.ofNat c.toNat).map (fun b => Char.ofNat b.toNat) = cs := by
    rw [List.map_map]
    refine (List.map_congr_left fun c inside => ?_).trans (List.map_id cs)
    have low := (printable c inside).low
    rw [Function.comp_apply, UInt8.toNat_ofNat', Nat.mod_eq_of_lt (by omega), Char.ofNat_toNat, id]
  rw [octets_of_printable printable, text?, if_pos visible, Bytes.asciiText, back]

theorem of_text? {value : Bytes} {text : String} (read : text? value = some text) :
    value = octets text.toList ∧ ∀ c ∈ text.toList, Printable c := by
  unfold text? at read
  split at read
  · rename_i visible
    cases read
    have each : ∀ b ∈ value, isVisible b = true := List.all_eq_true.1 visible
    have printable : ∀ c ∈ (Bytes.asciiText value).toList, Printable c := by
      intro c inside
      rw [Bytes.asciiText, String.toList_ofList] at inside
      obtain ⟨b, among, rfl⟩ := List.mem_map.1 inside
      exact printable_ofNat (each b among)
    refine ⟨?_, printable⟩
    rw [octets_of_printable printable, Bytes.asciiText, String.toList_ofList, List.map_map]
    refine (List.map_id value).symm.trans (List.map_congr_left fun b among => ?_)
    rw [Function.comp_apply, toNat_ofNat_of_visible (each b among), UInt8.ofNat_toNat, id]
  · cases read

end Headers

end Http

namespace Credential

open Http (Headers Printable)
open Text (Trimmed isBlank)

/-- The first authorization value is a text of printable characters. -/
structure Carries (headers : Headers) (text : List Char) : Prop where
  value : headers.first? "authorization" = some (octets text)
  printable : ∀ c ∈ text, Printable c

/-- The first authorization value is the name of a scheme, a space and, blanks around it aside, a
credential. -/
def Presents (scheme : String) (headers : Headers) (credential : List Char) : Prop :=
  ∃ left right, (∀ c ∈ left, isBlank c = true) ∧ (∀ c ∈ right, isBlank c = true) ∧
    Trimmed credential ∧
    Carries headers (scheme.toList ++ ' ' :: (left ++ credential ++ right))

section

variable {headers : Headers} {scheme : String} {text : List Char}

theorem carries_of_all (value : headers.first? "authorization" = some (octets text))
    (all : (text.all fun c => decide (Printable c)) = true) : Carries headers text :=
  ⟨value, fun c inside => of_decide_eq_true (List.all_eq_true.1 all c inside)⟩

/-- What is asked of the text of a header. -/
theorem ofHeaders_of_carries (carries : Carries headers text) :
    ofHeaders scheme headers =
      match splitFirst? ' ' text with
      | none => .error .malformedHeader
      | some (given, rest) =>
        if given ≠ scheme.toList then .error .wrongScheme
        else if (Text.trim rest).isEmpty then .error .malformedHeader
        else .ok (Text.trim rest) := by
  have read := Http.Headers.text?_octets carries.printable
  simp only [ofHeaders, carries.value, read, String.toList_ofList]
  cases splitFirst? ' ' text with
  | none => rfl
  | some parts =>
    obtain ⟨given, rest⟩ := parts
    dsimp only
    split
    · rfl
    · split <;> rfl

theorem ofHeaders_of_missing (missing : headers.first? "authorization" = none) :
    ofHeaders scheme headers = .error .missingHeader := by
  simp only [ofHeaders, missing]

theorem ofHeaders_of_illegible {value : Bytes} (given : headers.first? "authorization" = some value)
    (illegible : ∃ b ∈ value, Headers.isVisible b = false) :
    ofHeaders scheme headers = .error .malformedHeader := by
  obtain ⟨b, inside, hidden⟩ := illegible
  have unread : Headers.text? value = none := by
    refine if_neg fun all => ?_
    rw [List.all_eq_true.1 all b inside] at hidden
    cases hidden
  simp only [ofHeaders, given, unread]

theorem ofHeaders_of_unspaced (carries : Carries headers text) (unspaced : ' ' ∉ text) :
    ofHeaders scheme headers = .error .malformedHeader := by
  rw [ofHeaders_of_carries carries, splitFirst?_of_not_mem unspaced]

theorem ofHeaders_of_other {given rest : List Char}
    (carries : Carries headers (given ++ ' ' :: rest)) (first : ' ' ∉ given)
    (other : given ≠ scheme.toList) : ofHeaders scheme headers = .error .wrongScheme := by
  rw [ofHeaders_of_carries carries, splitFirst?_append first]
  exact if_pos other

/-- Whoever asks for a scheme gets what is presented with it, if that is not empty. -/
theorem ofHeaders_of_presents (named : ' ' ∉ scheme.toList) {credential : List Char}
    (presents : Presents scheme headers credential) :
    ofHeaders scheme headers =
      if credential.isEmpty then .error .malformedHeader else .ok credential := by
  obtain ⟨left, right, before, after, trimmed, carries⟩ := presents
  rw [ofHeaders_of_carries carries, splitFirst?_append named]
  dsimp only
  rw [if_neg (not_not_intro rfl), Text.trim_between before trimmed after]

theorem Presents.unique (named : ' ' ∉ scheme.toList) {credential other : List Char}
    (presents : Presents scheme headers credential) (also : Presents scheme headers other) :
    credential = other := by
  have same := (ofHeaders_of_presents named presents).symm.trans (ofHeaders_of_presents named also)
  cases credential <;> cases other <;> simp_all

/-- All that an authorization header can be to someone who asks for a scheme. -/
theorem header_cases (scheme : String) (headers : Headers) :
    headers.first? "authorization" = none ∨
    (∃ value, headers.first? "authorization" = some value ∧
      ∃ b ∈ value, Headers.isVisible b = false) ∨
    (∃ text, Carries headers text ∧ ' ' ∉ text) ∨
    (∃ given rest, Carries headers (given ++ ' ' :: rest) ∧ ' ' ∉ given ∧
      given ≠ scheme.toList) ∨
    ∃ credential, Presents scheme headers credential := by
  cases given : headers.first? "authorization" with
  | none => exact .inl rfl
  | some value =>
    refine .inr ?_
    cases read : Headers.text? value with
    | none =>
      refine .inl ⟨value, rfl, ?_⟩
      have some : ¬value.all Headers.isVisible = true := fun all => by
        rw [Headers.text?, if_pos all] at read
        cases read
      simpa using some
    | some text =>
      refine .inr ?_
      obtain ⟨rfl, printable⟩ := Headers.of_text? read
      have carries : Carries headers text.toList := ⟨given, printable⟩
      by_cases spaced : ' ' ∈ text.toList
      · obtain ⟨named, rest, parts, first⟩ := List.eq_append_cons_of_mem spaced
        rw [parts] at carries
        by_cases same : named = scheme.toList
        · obtain ⟨trimmed, left, right, whole, before, after⟩ := Text.trim_parts rest
          refine .inr (.inr ⟨Text.trim rest, left, right, before, after, trimmed, ?_⟩)
          rwa [← whole, ← same]
        · exact .inr (.inl ⟨named, rest, carries, first, same⟩)
      · exact .inl ⟨text.toList, carries, spaced⟩

end

end Credential

end Agora
