import Agora.Json.Reader

set_option autoImplicit false

namespace Agora

abbrev octets (cs : List Char) : Bytes := cs.flatMap String.utf8EncodeChar

namespace Bytes

theorem ofString_ofList (cs : List Char) : ofString (String.ofList cs) = octets cs := by
  simp [ofString, List.utf8Encode, octets]

theorem ofString_eq (s : String) : ofString s = octets s.toList := by
  rw [← ofString_ofList, String.ofList_toList]

theorem encode_low {c : Char} (low : c.toNat < 128) :
    String.utf8EncodeChar c = [UInt8.ofNat c.toNat] := by
  have bound : c.val.toNat ≤ 127 := Nat.le_of_lt_succ low
  unfold String.utf8EncodeChar
  exact if_pos bound

theorem encode_high {c : Char} (high : 128 ≤ c.toNat) (b : UInt8)
    (inside : b ∈ String.utf8EncodeChar c) : 128 ≤ b.toNat := by
  have above : ¬ c.val.toNat ≤ 127 := Nat.not_le_of_lt high
  unfold String.utf8EncodeChar at inside
  dsimp only at inside
  rw [if_neg above] at inside
  split at inside
  · simp only [List.mem_cons, List.not_mem_nil, or_false] at inside
    rcases inside with rfl | rfl
    all_goals rw [UInt8.toNat_ofNat']; omega
  · split at inside
    · simp only [List.mem_cons, List.not_mem_nil, or_false] at inside
      rcases inside with rfl | rfl | rfl
      all_goals rw [UInt8.toNat_ofNat']; omega
    · simp only [List.mem_cons, List.not_mem_nil, or_false] at inside
      rcases inside with rfl | rfl | rfl | rfl
      all_goals rw [UInt8.toNat_ofNat']; omega

theorem ofNat_ne_of_low {c d : Char} (other : c ≠ d) (lowC : c.toNat < 128)
    (lowD : d.toNat < 128) : UInt8.ofNat c.toNat ≠ UInt8.ofNat d.toNat := by
  intro same
  have equal := congrArg UInt8.toNat same
  rw [UInt8.toNat_ofNat', UInt8.toNat_ofNat'] at equal
  exact other (Char.toNat_inj.1 (by omega))

end Bytes

namespace Json.Lexeme

/-- The octet stands for itself between quotes. -/
def isPlain (b : UInt8) : Bool := 0x20 ≤ b && b ≠ 0x22 && b ≠ 0x5C

theorem isPlain_of_high {b : UInt8} (high : 128 ≤ b.toNat) : isPlain b = true := by
  simp only [isPlain, Bool.and_eq_true, decide_eq_true_eq, UInt8.le_iff_toNat_le, ne_eq,
    ← UInt8.toNat_inj, UInt8.reduceToNat, decide_not, Bool.not_eq_true', decide_eq_false_iff_not]
  omega

theorem isPlain_of_visible {c : Char} (low : c.toNat < 128) (visible : 32 ≤ c.toNat)
    (quote : c ≠ '"') (slash : c ≠ '\\') : isPlain (UInt8.ofNat c.toNat) = true := by
  have control : (0x20 : UInt8) ≤ UInt8.ofNat c.toNat := by
    have least : (0x20 : UInt8).toNat = 32 := rfl
    rw [UInt8.le_iff_toNat_le, UInt8.toNat_ofNat']
    omega
  simp only [isPlain, control, decide_true, Bool.true_and, Bool.and_eq_true, decide_eq_true_eq]
  exact ⟨Bytes.ofNat_ne_of_low quote low (by decide),
    Bytes.ofNat_ne_of_low slash low (by decide)⟩

theorem rawString_plain {bs : Bytes} (plain : bs.all isPlain = true) (seen rest : Bytes) :
    rawString seen (bs ++ rest) = rawString (bs.reverse ++ seen) rest := by
  induction bs generalizing seen with
  | nil => rfl
  | cons b bs ih =>
    simp only [List.all_cons, Bool.and_eq_true, isPlain, decide_eq_true_eq] at plain
    obtain ⟨⟨⟨control, quote⟩, slash⟩, plain⟩ := plain
    have step : rawString seen (b :: (bs ++ rest)) = rawString (b :: seen) (bs ++ rest) := by
      rw [rawString.eq_4 _ _ _ quote fun _ _ same => absurd same slash]
      exact if_neg (UInt8.not_lt.2 control)
    rw [List.cons_append, step, ih plain, List.reverse_cons, List.append_assoc,
      List.singleton_append]

theorem unescape_plain {bs : Bytes} (plain : bs.all isPlain = true) (seen rest : Bytes) :
    unescape seen none (bs ++ rest) = unescape (bs.reverse ++ seen) none rest := by
  induction bs generalizing seen with
  | nil => rfl
  | cons b bs ih =>
    simp only [List.all_cons, Bool.and_eq_true, isPlain, decide_eq_true_eq] at plain
    obtain ⟨⟨_, slash⟩, plain⟩ := plain
    have step : unescape seen none (b :: (bs ++ rest)) =
        unescape (b :: seen) none (bs ++ rest) := by
      rw [unescape.eq_7 _ _ _ _ (fun _ _ _ _ _ same => absurd same slash)
        fun _ _ same => absurd same slash]
      rfl
    rw [List.cons_append, step, ih plain, List.reverse_cons, List.append_assoc,
      List.singleton_append]

/-- The three ways in which a character is written: as itself, by a short escape, and by its
number. -/
theorem escapedChar_cases (c : Char) :
    (escapedChar c = [c] ∧ (String.utf8EncodeChar c).all isPlain = true) ∨
    (∃ b e, octets (escapedChar c) = [0x5C, b] ∧ 0x20 ≤ b ∧ b ≠ 0x75 ∧
      shortEscape? b = some e ∧ String.utf8EncodeChar c = [e]) ∨
    (c.toNat < 32 ∧ escapedChar c = ['\\', 'u'] ++ fourDigits c.toNat) := by
  unfold escapedChar
  split
  · rename_i same
    subst same
    exact .inr (.inl ⟨0x22, 0x22, by decide⟩)
  split
  · rename_i same
    subst same
    exact .inr (.inl ⟨0x5C, 0x5C, by decide⟩)
  split
  · rename_i same
    subst same
    exact .inr (.inl ⟨0x6E, 10, by decide⟩)
  split
  · rename_i same
    subst same
    exact .inr (.inl ⟨0x72, 13, by decide⟩)
  split
  · rename_i same
    subst same
    exact .inr (.inl ⟨0x74, 9, by decide⟩)
  split
  · rename_i number
    have same : c = Char.ofNat 8 := by rw [← number, Char.ofNat_toNat]
    subst same
    exact .inr (.inl ⟨0x62, 8, by decide⟩)
  split
  · rename_i number
    have same : c = Char.ofNat 12 := by rw [← number, Char.ofNat_toNat]
    subst same
    exact .inr (.inl ⟨0x66, 12, by decide⟩)
  split
  · rename_i control
    exact .inr (.inr ⟨control, rfl⟩)
  · rename_i quote slash _ _ _ _ _ visible
    refine .inl ⟨rfl, ?_⟩
    by_cases low : c.toNat < 128
    · rw [Bytes.encode_low low, List.all_cons, List.all_nil, Bool.and_true]
      exact isPlain_of_visible low (Nat.le_of_not_lt visible) quote slash
    · rw [List.all_eq_true]
      intro b inside
      exact isPlain_of_high (Bytes.encode_high (Nat.le_of_not_lt low) b inside)

theorem unit?_fourDigits : ∀ n < 32,
    let ds := octets (fourDigits n)
    ds = [0x30, 0x30, ds.getD 2 0, ds.getD 3 0] ∧
      unit? 0x30 0x30 (ds.getD 2 0) (ds.getD 3 0) = some n ∧ ds.all isPlain = true := by
  decide

theorem octets_escapedChar_of_control {c : Char}
    (long : escapedChar c = ['\\', 'u'] ++ fourDigits c.toNat) :
    octets (escapedChar c) = 0x5C :: 0x75 :: octets (fourDigits c.toNat) := by
  rw [long]
  rfl

theorem rawString_escapedChar (c : Char) (seen rest : Bytes) :
    rawString seen (octets (escapedChar c) ++ rest) =
      rawString ((octets (escapedChar c)).reverse ++ seen) rest := by
  rcases escapedChar_cases c with ⟨same, plain⟩ | ⟨b, e, pair, visible, -⟩ | ⟨control, long⟩
  · rw [same, octets, List.flatMap_singleton]
    exact rawString_plain plain seen rest
  · rw [pair]
    exact if_neg (UInt8.not_lt.2 visible)
  · obtain ⟨-, -, plain⟩ := unit?_fourDigits c.toNat control
    have first : rawString seen (0x5C :: 0x75 :: (octets (fourDigits c.toNat) ++ rest)) =
        rawString (0x75 :: 0x5C :: seen) (octets (fourDigits c.toNat) ++ rest) := rfl
    rw [octets_escapedChar_of_control long, List.cons_append, List.cons_append, first,
      rawString_plain plain]
    simp only [List.reverse_cons, List.append_assoc, List.cons_append, List.nil_append]

theorem unescape_escapedChar (c : Char) (seen rest : Bytes) :
    unescape seen none (octets (escapedChar c) ++ rest) =
      unescape ((String.utf8EncodeChar c).reverse ++ seen) none rest := by
  rcases escapedChar_cases c with
    ⟨same, plain⟩ | ⟨b, e, pair, -, other, short, one⟩ | ⟨control, long⟩
  · rw [same, octets, List.flatMap_singleton]
    exact unescape_plain plain seen rest
  · rw [pair, one]
    exact unescape.eq_5 seen b rest e (fun _ _ _ _ _ same => absurd same other) short
  · obtain ⟨four, value, -⟩ := unit?_fourDigits c.toNat control
    have whole : isHighUnit c.toNat = false ∧ isLowUnit c.toNat = false := by
      simp only [isHighUnit, isLowUnit, Bool.and_eq_false_iff, decide_eq_false_iff_not]
      omega
    have unit := unescape.eq_4 seen _ _ _ _ rest _ value
    rw [whole.1, whole.2, octetsOf, Char.ofNat_toNat] at unit
    rw [octets_escapedChar_of_control long, four]
    exact unit

theorem octets_flatMap_escapedChar (c : Char) (cs : List Char) :
    octets ((c :: cs).flatMap escapedChar) =
      octets (escapedChar c) ++ octets (cs.flatMap escapedChar) := by
  simp only [octets, List.flatMap_cons, List.flatMap_append]

theorem rawString_text (cs : List Char) (seen rest : Bytes) :
    rawString seen (octets (cs.flatMap escapedChar) ++ 0x22 :: rest) =
      some ((octets (cs.flatMap escapedChar)).reverse ++ seen, rest) := by
  induction cs generalizing seen with
  | nil => rfl
  | cons c cs ih =>
    rw [octets_flatMap_escapedChar, List.append_assoc, rawString_escapedChar, ih,
      List.reverse_append, List.append_assoc]

theorem unescape_text (cs : List Char) (seen : Bytes) :
    unescape seen none (octets (cs.flatMap escapedChar)) = some (seen.reverse ++ octets cs) := by
  induction cs generalizing seen with
  | nil =>
    rw [List.flatMap_nil, octets, List.flatMap_nil, List.append_nil]
    rfl
  | cons c cs ih =>
    rw [octets_flatMap_escapedChar, unescape_escapedChar, ih]
    simp only [octets, List.reverse_append, List.reverse_reverse, List.flatMap_cons,
      List.append_assoc]

/-- A written string reads as the string. -/
theorem string_text (s : String) (rest : Bytes) :
    string (octets (s.toList.flatMap escapedChar) ++ 0x22 :: rest) = .ok (s, rest) := by
  have back : (some (octets s.toList)).bind Bytes.toString? = some s := by
    rw [← Bytes.ofString_eq]
    exact Bytes.toString?_ofString s
  rw [string, rawString_text]
  simp only [List.append_nil, List.reverse_reverse, unescape_text, List.reverse_nil,
    List.nil_append, back]

theorem octets_stringText (s : String) (rest : Bytes) :
    octets (stringText s) ++ rest =
      0x22 :: (octets (s.toList.flatMap escapedChar) ++ 0x22 :: rest) := by
  have quote : String.utf8EncodeChar '"' = [0x22] := by decide
  simp only [octets, stringText, List.flatMap_cons, List.flatMap_append, List.flatMap_nil, quote,
    List.cons_append, List.nil_append, List.append_assoc]

end Json.Lexeme

namespace Json

theorem readText_stringText (s : String) (rest : Bytes) :
    readText (octets (stringText s) ++ rest) = .ok (s, rest) := by
  rw [Lexeme.octets_stringText]
  exact Lexeme.string_text s rest

end Json

end Agora
