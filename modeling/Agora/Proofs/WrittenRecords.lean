import Agora.Proofs.WrittenMoments
import Agora.Proofs.WrittenNumbers
import Agora.Json.Reader

/-!
Records as they are written in JSON read as the records they are, field by field. The reader looks
each name up among all fields, so the induction runs over the fields that are still to come, with
those already read as part of a state that is only filled further.
-/

set_option autoImplicit false

namespace Agora.Json

open Lexeme
open Schema (Shape Fields Others)

/-- A document reads, by a shape, as a value or not at all, whatever follows it. -/
def Reads (shape : Shape) (v : Value) (x : Option shape.Value) : Prop :=
  ∀ rest, Stops rest →
    (readShape shape (octets v.chars ++ rest)).toOption = x.map fun value => (value, rest)

theorem skipSpace_cons {b : UInt8} (rest : Bytes) (other : isSpace b = false) :
    skipSpace (b :: rest) = b :: rest := by
  rw [skipSpace, List.dropWhile_cons, other]
  rfl

theorem reads_text (s : String) : Reads .text (.string s) (some s) := by
  intro rest _
  have blank : skipSpace (octets (stringText s) ++ rest) = octets (stringText s) ++ rest := by
    rw [octets_stringText]
    exact skipSpace_cons _ (by decide)
  rw [readShape, Value.chars, blank, readText_stringText]
  rfl

theorem reads_flag (b : Bool) : Reads .flag (.bool b) (some b) := by
  intro rest _
  cases b with
  | true => rfl
  | false => rfl

theorem skipSpace_number (n : Int) (rest : Bytes) :
    skipSpace (octets (toString n).toList ++ rest) = octets (toString n).toList ++ rest := by
  rw [toList_toString]
  by_cases negative : n < 0
  · rw [if_pos negative]
    exact skipSpace_cons _ (by decide)
  · obtain ⟨b, bs, first, digit⟩ := octets_toDigits_cons n.natAbs
    have visible : isSpace b = false := by
      have least : (0x30 : UInt8).toNat = 48 := rfl
      simp only [isDigit, Bool.and_eq_true, decide_eq_true_eq, UInt8.le_iff_toNat_le] at digit
      simp only [isSpace, Bool.or_eq_false_iff, decide_eq_false_iff_not, ← UInt8.toNat_inj,
        UInt8.reduceToNat]
      omega
    rw [if_neg negative, List.nil_append, first]
    exact skipSpace_cons _ visible

theorem reads_whole {least most : Int} (low : -2 ^ 63 ≤ least) (high : most < 2 ^ 64) (n : Int) :
    Reads (.whole least most) (.whole n) (if least ≤ n ∧ n ≤ most then some n else none) := by
  intro rest stops
  have read := readWhole_toString low high n stops
  rw [readShape, Value.chars, skipSpace_number]
  by_cases inside : least ≤ n ∧ n ≤ most
  · rw [if_pos inside] at read ⊢
    exact read
  · rw [if_neg inside] at read ⊢
    exact read

abbrev FitsInt64 (n : Int) : Prop := -2 ^ 63 ≤ n ∧ n ≤ 2 ^ 63 - 1

theorem reads_int64 (n : Int) : Reads .int64 (.whole n) (if FitsInt64 n then some n else none) :=
  reads_whole (Int.le_refl _) (by decide) n

theorem reads_moment {t : Time.Stamp} (proper : t.Proper) :
    Reads .moment (.string t.render) (if t.representable then some t else none) := by
  intro rest _
  have blank : skipSpace (octets (stringText t.render) ++ rest) =
      octets (stringText t.render) ++ rest := by
    rw [octets_stringText]
    exact skipSpace_cons _ (by decide)
  rw [readShape, Value.chars, blank, readMoment, readText_stringText]
  simp only [Time.Reader.stamp?_render proper]
  by_cases inside : t.representable = true
  · simp only [if_pos inside]
    rfl
  · simp only [if_neg inside]
    rfl

/-- Members read as the fields of a record, one after the other in their order. -/
inductive ReadsAll : (fields : Fields) → List (String × Value) → Option fields.Value → Prop where
  | nil : ReadsAll .nil [] (some ())
  | cons {name : String} {shape : Shape} {rest : Fields} {v : Value} {x : Option shape.Value}
      {members : List (String × Value)} {xs : Option rest.Value} (apart : rest.knows name = false)
      (first : Reads shape v x) (others : ReadsAll rest members xs) :
      ReadsAll (.cons name .required shape rest) ((name, v) :: members)
        (x.bind fun a => xs.map fun as => (a, as))

/-- The text of members up to the end of their object. -/
def closing (first : Bool) : List (String × Value) → List Char
  | [] => ['\x7d']
  | (name, v) :: rest =>
    (if first then [] else [',']) ++ stringText name ++ ':' :: (v.chars ++ closing false rest)

theorem closing_eq (members : List (String × Value)) :
    closing true members = Value.memberChars members ++ ['\x7d'] := by
  induction members with
  | nil => rfl
  | cons m rest ih =>
    obtain ⟨name, v⟩ := m
    cases rest with
    | nil =>
      simp only [closing, Value.memberChars, ↓reduceIte, List.nil_append, List.append_assoc,
        List.cons_append]
    | cons m rest =>
      have comma : closing false (m :: rest) = ',' :: closing true (m :: rest) := rfl
      rw [closing, comma, ih]
      simp only [Value.memberChars, ↓reduceIte, List.nil_append, List.append_assoc,
        List.cons_append]

theorem length_le_closing (members : List (String × Value)) (first : Bool) :
    members.length ≤ (octets (closing first members)).length := by
  induction members generalizing first with
  | nil => exact Nat.zero_le _
  | cons m rest ih =>
    obtain ⟨name, v⟩ := m
    have others := ih false
    simp only [closing, stringText, octets, List.flatMap_append, List.flatMap_cons,
      List.length_append, List.length_cons, List.cons_append] at others ⊢
    have mark : 1 ≤ (String.utf8EncodeChar ':').length := by decide
    omega

theorem stops_closing (members : List (String × Value)) (rest : Bytes) :
    Stops (octets (closing false members) ++ rest) := by
  intro b first
  cases members with
  | nil =>
    cases first
    decide
  | cons m members =>
    cases first
    decide

theorem octets_closing_cons (first : Bool) (name : String) (v : Value)
    (members : List (String × Value)) (rest : Bytes) :
    octets (closing first ((name, v) :: members)) ++ rest =
      (if first then [] else [0x2C]) ++ 0x22 :: (octets (name.toList.flatMap escapedChar) ++
        0x22 :: 0x3A :: (octets v.chars ++ (octets (closing false members) ++ rest))) := by
  have comma : String.utf8EncodeChar ',' = [0x2C] := by decide
  have quote : String.utf8EncodeChar '"' = [0x22] := by decide
  have colon : String.utf8EncodeChar ':' = [0x3A] := by decide
  cases first with
  | true =>
    simp only [closing, octets, stringText, List.flatMap_append, List.flatMap_cons, quote, colon,
      ↓reduceIte, List.nil_append, List.cons_append, List.append_assoc]
  | false =>
    simp only [closing, octets, stringText, List.flatMap_append, List.flatMap_cons, comma, quote,
      colon, Bool.false_eq_true, ↓reduceIte, List.nil_append, List.cons_append, List.append_assoc]

theorem mark_cons {b : UInt8} (rest : Bytes) (visible : isSpace b = false) :
    mark b (b :: rest) = .ok rest := by
  simp only [mark, skipSpace_cons rest visible, ↓reduceIte]

/-- One written member: its name, and what follows the name is left to the reader of members. -/
theorem members_cons {σ : Type} (member : String → σ → Bytes → Read σ) (fuel : Nat) (first : Bool)
    (state : σ) (name : String) (v : Value) (ms : List (String × Value)) (rest : Bytes) :
    members member (fuel + 1) first state (octets (closing first ((name, v) :: ms)) ++ rest) =
      (member name state
        (0x3A :: (octets v.chars ++ (octets (closing false ms) ++ rest)))).bind
          fun (state, rest) => members member fuel false state rest := by
  rw [octets_closing_cons, members]
  cases first with
  | true =>
    simp only [↓reduceIte, List.nil_append]
    rw [skipSpace_cons _ (by decide)]
    split
    · rename_i same
      exact absurd (List.cons.inj same).1 (by decide)
    · simp only [mark_cons _ (show isSpace 0x22 = false by decide), string_text, bind, pure,
        Except.pure, Except.bind]
  | false =>
    simp only [Bool.false_eq_true, ↓reduceIte, List.cons_append, List.nil_append]
    rw [skipSpace_cons _ (by decide)]
    split
    · rename_i same
      exact absurd (List.cons.inj same).1 (by decide)
    · simp only [mark_cons _ (show isSpace 0x22 = false by decide),
        mark_cons _ (show isSpace 0x2C = false by decide), string_text, bind, Except.bind]

theorem readMember_known (others : Schema.Others) (name : String) {shape : Shape}
    {fields : Fields} {v : Value} {x : Option shape.Value} (reads : Reads shape v x)
    (slots : fields.Slots) {rest : Bytes} (stops : Stops rest) :
    (readMember others (.cons name .required shape fields) name (none, slots)
      (0x3A :: (octets v.chars ++ rest))).toOption = x.map fun a => ((some a, slots), rest) := by
  have read := reads rest stops
  simp only [readMember, ↓reduceIte, Option.isSome_none, Bool.false_eq_true,
    mark_cons _ (show isSpace 0x3A = false by decide)]
  cases given : readShape shape (octets v.chars ++ rest) with
  | ok found =>
    rw [given] at read
    cases x with
    | none => cases read
    | some a =>
      cases read
      rfl
  | error fault =>
    rw [given] at read
    cases x with
    | none => rfl
    | some a => cases read

theorem finish?_cons (name : String) {shape : Shape} {fields : Fields} (a : shape.Value)
    (slots : fields.Slots) :
    (Fields.cons name .required shape fields).finish? (some a, slots) =
      (fields.finish? slots).map fun as => (a, as) := by
  rw [Fields.finish?]
  cases fields.finish? slots with
  | none => rfl
  | some as => rfl

/-- The members of an object read as fields that are part of a record, into slots that are part of
the record's. -/
theorem members_written {others : Schema.Others} {all fields : Fields}
    {ms : List (String × Value)} {x : Option fields.Value} (reads : ReadsAll fields ms x)
    {fill : fields.Slots → all.Slots}
    (agree : ∀ key slots bs, fields.knows key = true →
      readMember others all key (fill slots) bs =
        (readMember others fields key slots bs).map fun (slots, after) => (fill slots, after))
    {fuel : Nat} (enough : ms.length < fuel) (first : Bool) (rest : Bytes) :
    ∃ slots : Option fields.Slots,
      (members (readMember others all) fuel first (fill fields.noSlots)
        (octets (closing first ms) ++ rest)).toOption =
          slots.map (fun slots => (fill slots, rest)) ∧
      slots.bind fields.finish? = x := by
  induction reads generalizing fuel first with
  | nil =>
    obtain ⟨fuel, rfl⟩ := Nat.exists_eq_add_one_of_ne_zero (Nat.ne_zero_of_lt enough)
    refine ⟨some (), ?_, rfl⟩
    cases first with
    | true => rfl
    | false => rfl
  | @cons name shape fields v x ms xs apart reads later ih =>
    obtain ⟨fuel, rfl⟩ := Nat.exists_eq_add_one_of_ne_zero (Nat.ne_zero_of_lt enough)
    have known : (Fields.cons name .required shape fields).knows name = true := by
      simp only [Fields.knows, BEq.rfl, Bool.true_or]
    have one := readMember_known others name reads fields.noSlots (stops_closing ms rest)
    rw [members_cons, Fields.noSlots, agree name (none, fields.noSlots) _ known]
    cases found : readMember others (.cons name .required shape fields) name (none, fields.noSlots)
      (0x3A :: (octets v.chars ++ (octets (closing false ms) ++ rest))) with
    | error fault =>
      rw [found] at one
      cases x with
      | none => exact ⟨none, rfl, rfl⟩
      | some a => cases one
    | ok slots =>
      rw [found] at one
      cases x with
      | none => cases one
      | some a =>
        cases one
        have agreeLater : ∀ key slots bs, fields.knows key = true →
            readMember others all key (fill (some a, slots)) bs =
              (readMember others fields key slots bs).map fun (slots, after) =>
                (fill (some a, slots), after) := by
          intro key slots bs knows
          have other : name ≠ key := by
            rintro rfl
            rw [apart] at knows
            cases knows
          rw [agree key (some a, slots) bs
            (by simp only [Fields.knows, knows, Bool.or_true])]
          simp only [readMember, if_neg other]
          cases readMember others fields key slots bs with
          | error fault => rfl
          | ok read => rfl
        obtain ⟨slots, same, ends⟩ := ih agreeLater (Nat.lt_of_succ_lt_succ enough) false
        subst ends
        cases slots with
        | none => exact ⟨none, same, rfl⟩
        | some slots =>
          exact ⟨some (some a, slots), same, finish?_cons name a slots⟩

theorem octets_object (ms : List (String × Value)) (rest : Bytes) :
    octets (Value.object ms).chars ++ rest = 0x7B :: (octets (closing true ms) ++ rest) := by
  have brace : String.utf8EncodeChar '\x7b' = [0x7B] := by decide
  rw [Value.chars, closing_eq]
  simp only [octets, List.flatMap_append, List.flatMap_cons, brace, List.cons_append,
    List.nil_append, List.append_assoc]

/-- A written object reads as the record of its members. -/
theorem reads_record (others : Schema.Others) {fields : Fields} {ms : List (String × Value)}
    {x : Option fields.Value} (reads : ReadsAll fields ms x) :
    Reads (.record others fields) (.object ms) x := by
  intro rest _
  have enough : ms.length < (octets (closing true ms) ++ rest).length + 1 := by
    have least := length_le_closing ms true
    rw [List.length_append]
    omega
  have agree : ∀ key slots bs, fields.knows key = true →
      readMember others fields key (id slots) bs =
        (readMember others fields key slots bs).map fun (slots, after) => (id slots, after) := by
    intro key slots bs _
    rw [id]
    cases readMember others fields key slots bs with
    | error fault => rfl
    | ok read => rfl
  obtain ⟨slots, read, rfl⟩ := members_written reads agree enough true rest
  rw [octets_object, readShape, skipSpace_cons _ (by decide)]
  simp only [id] at read
  cases found : members (readMember others fields)
      ((octets (closing true ms) ++ rest).length + 1) true fields.noSlots
      (octets (closing true ms) ++ rest) with
  | error fault =>
    rw [found] at read
    cases slots with
    | none => simp only [found]; rfl
    | some slots => cases read
  | ok after =>
    rw [found] at read
    cases slots with
    | none => cases read
    | some slots =>
      cases read
      simp only [found, Option.bind_some]
      cases fields.finish? slots with
      | none => rfl
      | some vs => rfl

theorem skipSpace_render (ms : List (String × Value)) :
    ∃ rest, skipSpace (Bytes.ofString (Value.object ms).render) = 0x7B :: rest := by
  have text := octets_object ms []
  rw [List.append_nil, ← Bytes.ofString_ofList, ← Value.render] at text
  rw [text]
  exact ⟨_, skipSpace_cons _ (by decide)⟩

/-- The text of an object is read as the record of its members. -/
theorem read_render (others : Schema.Others) {fields : Fields} {ms : List (String × Value)}
    {x : Option fields.Value} (reads : ReadsAll fields ms x) :
    (read (.record others fields) (Bytes.ofString (Value.object ms).render)).toOption = x := by
  have stops : Stops [] := fun b first => by cases first
  have text := reads_record others reads [] stops
  rw [List.append_nil] at text
  rw [Value.render, Bytes.ofString_ofList, read]
  cases found : readShape (.record others fields) (octets (Value.object ms).chars) with
  | error fault =>
    rw [found] at text
    cases x with
    | none => rfl
    | some v => cases text
  | ok after =>
    rw [found] at text
    cases x with
    | none => cases text
    | some v =>
      cases text
      rfl

end Agora.Json
