import Agora.Proofs.Calendar
import Agora.Proofs.WrittenNumbers
import Agora.Time.Reader

set_option autoImplicit false

namespace Agora.Time

open Agora.Text

/-- A moment that a clock may show: a leap second has its place at the end of a minute only. -/
def Stamp.Proper (t : Stamp) : Prop :=
  t.nano < 1000000000 ∨ t.nano < 2000000000 ∧ t.second % 60 = 59

theorem toList_padded (width n : Nat) :
    (padded width n).toList =
      List.replicate (width - (Nat.toDigits 10 n).length) '0' ++ Nat.toDigits 10 n :=
  String.toList_ofList

theorem isDigit_padded {width n : Nat} {c : Char} (inside : c ∈ (padded width n).toList) :
    c.isDigit = true := by
  rw [toList_padded] at inside
  rcases List.mem_append.1 inside with zero | digit
  · rw [List.eq_of_mem_replicate zero]
    rfl
  · exact Digits.isDigit_of_mem digit

theorem length_padded (width n : Nat) (positive : 0 < width) (fits : n < 10 ^ width) :
    (padded width n).toList.length = width := by
  have bound := (Nat.length_toDigits_le_iff (by decide) positive).2 fits
  rw [toList_padded, List.length_append, List.length_replicate]
  omega

theorem padded_ne_nil (width n : Nat) : (padded width n).toList ≠ [] := by
  rw [toList_padded]
  exact List.append_ne_nil_of_right_ne_nil _ Nat.toDigits_ne_nil

theorem value_padded (width n : Nat) : Nat.ofDigitChars 10 (padded width n).toList 0 = n := by
  rw [toList_padded, Nat.ofDigitChars_append, Nat.ofDigitChars_replicate_zero, Nat.mul_zero,
    Nat.ofDigitChars_ten_toDigits]

namespace Reader

theorem valueOf_eq (cs : List Char) : valueOf cs = Nat.ofDigitChars 10 cs 0 :=
  (Nat.ofDigitChars_eq_foldl ..).symm

theorem takeWhile_digits {ds rest : List Char} (digits : ∀ c ∈ ds, c.isDigit = true)
    (stops : ∀ c ∈ rest.head?, c.isDigit = false) :
    (ds ++ rest).takeWhile Char.isDigit = ds ∧ (ds ++ rest).dropWhile Char.isDigit = rest := by
  rw [List.takeWhile_append_of_pos digits, List.dropWhile_append_of_pos digits]
  cases rest with
  | nil => exact ⟨List.append_nil ds, rfl⟩
  | cons c rest =>
    rw [List.takeWhile_cons, List.dropWhile_cons, stops c rfl]
    exact ⟨List.append_nil ds, rfl⟩

theorem digits_taken {width : Nat} {ds rest : List Char} (digits : ∀ c ∈ ds, c.isDigit = true)
    (fits : ds.length ≤ width)
    (stops : ds.length = width ∨ ∀ c ∈ rest.head?, c.isDigit = false) :
    ((ds ++ rest).take width).takeWhile Char.isDigit = ds := by
  rcases stops with full | other
  · have alone : (ds ++ []).takeWhile Char.isDigit = ds :=
      (takeWhile_digits digits fun _ none => by cases none).1
    rw [← full, List.take_left]
    rwa [List.append_nil] at alone
  · rw [List.take_append, List.take_of_length_le fits]
    refine (takeWhile_digits digits fun c first => other c ?_).1
    cases rest with
    | nil =>
      rw [List.take_nil] at first
      exact first
    | cons d rest =>
      cases room : width - ds.length with
      | zero =>
        rw [room] at first
        cases first
      | succ n =>
        rw [room] at first
        exact first

/-- A run of digits reads as its value if it has the full width or no digit follows. -/
theorem number_digits {width : Nat} {ds rest : List Char} (digits : ∀ c ∈ ds, c.isDigit = true)
    (some : ds ≠ []) (fits : ds.length ≤ width)
    (stops : ds.length = width ∨ ∀ c ∈ rest.head?, c.isDigit = false) :
    number width (ds ++ rest) = .some (Nat.ofDigitChars 10 ds 0, rest) := by
  have taken := digits_taken digits fits stops
  have nonempty : ds.isEmpty = false := List.isEmpty_eq_false_iff.2 some
  simp only [number, taken, nonempty, Bool.false_eq_true, ↓reduceIte, List.drop_left, valueOf_eq]

theorem isBlank_of_isDigit {c : Char} (digit : c.isDigit = true) : isBlank c = false := by
  have range := Digits.char_lt digit
  simp only [isBlank, Bool.or_eq_false_iff, Bool.and_eq_false_iff, decide_eq_false_iff_not,
    beq_eq_false_iff_ne]
  omega

theorem skipBlanks_cons {c : Char} (rest : List Char) (other : isBlank c = false) :
    skipBlanks (c :: rest) = c :: rest := by
  rw [skipBlanks, List.dropWhile_cons, other]
  rfl

theorem skipBlanks_digits {ds : List Char} (rest : List Char) (some : ds ≠ [])
    (digits : ∀ c ∈ ds, c.isDigit = true) : skipBlanks (ds ++ rest) = ds ++ rest := by
  cases ds with
  | nil => exact absurd rfl some
  | cons c ds => exact skipBlanks_cons _ (isBlank_of_isDigit (digits c (.head _)))

theorem short_padded {n : Nat} (rest : List Char) (small : n < 100) :
    short ((padded 2 n).toList ++ rest) = some (n, rest) := by
  have digits : ∀ c ∈ (padded 2 n).toList, c.isDigit = true := fun c => isDigit_padded
  have length := length_padded 2 n (by decide) small
  rw [short, skipBlanks_digits rest (padded_ne_nil 2 n) digits,
    number_digits digits (padded_ne_nil 2 n) (Nat.le_of_eq length) (.inl length), value_padded]

theorem mark_cons {c : Char} (rest : List Char) (other : isBlank c = false) :
    mark c (c :: rest) = some rest := by
  rw [mark, skipBlanks_cons rest other]
  exact if_pos rfl

theorem longNumber_padded (n : Nat) (rest : List Char)
    (stops : ∀ c ∈ rest.head?, c.isDigit = false) :
    longNumber ((padded 4 n).toList ++ rest) = some (n, rest) := by
  have digits : ∀ c ∈ (padded 4 n).toList, c.isDigit = true := fun c => isDigit_padded
  rw [longNumber, number_digits digits (padded_ne_nil 4 n)
    (by rw [List.length_append]; omega) (.inr stops), value_padded]

theorem year_padded {n : Nat} (rest : List Char) (small : n < 10000) :
    year ((padded 4 n).toList ++ rest) = some ((n : Int), rest) := by
  have digits : ∀ c ∈ (padded 4 n).toList, c.isDigit = true := fun c => isDigit_padded
  have length := length_padded 4 n (by decide) small
  have read : number 4 ((padded 4 n).toList ++ rest) = some (n, rest) := by
    rw [number_digits digits (padded_ne_nil 4 n) (Nat.le_of_eq length) (.inl length), value_padded]
  obtain ⟨c, cs, first⟩ := List.exists_cons_of_ne_nil (padded_ne_nil 4 n)
  have digit : c.isDigit = true := digits c (first ▸ List.mem_cons_self)
  rw [year, skipBlanks_digits rest (padded_ne_nil 4 n) digits]
  rw [first, List.cons_append] at read ⊢
  split
  · rename_i same
    cases same
    cases digit
  · rename_i same
    cases same
    cases digit
  · rw [read]
    rfl

theorem year_minus (cs : List Char) :
    year ('-' :: cs) = (longNumber cs).map fun (n, rest) => (-Int.ofNat n, rest) := by
  rw [year, skipBlanks_cons cs (by decide)]
  rfl

theorem year_plus (cs : List Char) :
    year ('+' :: cs) = (longNumber cs).map fun (n, rest) => (Int.ofNat n, rest) := by
  rw [year, skipBlanks_cons cs (by decide)]
  rfl

theorem year_yearText (y : Int) (rest : List Char) (stops : ∀ c ∈ rest.head?, c.isDigit = false) :
    year ((yearText y).toList ++ rest) = some (y, rest) := by
  unfold yearText
  by_cases four : 0 ≤ y ∧ y ≤ 9999
  · have back : (y.toNat : Int) = y := by omega
    rw [if_pos four, year_padded rest (by omega), back]
  · rw [if_neg four]
    by_cases negative : y < 0
    · have back : -Int.ofNat (-y).toNat = y := by
        rw [Int.ofNat_eq_natCast]
        omega
      have sign : "-".toList = ['-'] := rfl
      rw [if_pos negative, String.toList_append, sign, List.append_assoc, List.singleton_append,
        year_minus, longNumber_padded _ rest stops]
      exact congrArg (fun y => some (y, rest)) back
    · have back : Int.ofNat y.toNat = y := by
        rw [Int.ofNat_eq_natCast]
        omega
      have sign : "+".toList = ['+'] := rfl
      rw [if_neg negative, String.toList_append, sign, List.append_assoc, List.singleton_append,
        year_plus, longNumber_padded _ rest stops]
      exact congrArg (fun y => some (y, rest)) back

/-- Decimals of a number of digits are so many billionths. -/
theorem fraction_padded {places n : Nat} {rest : List Char} (positive : 0 < places)
    (most : places ≤ 9) (small : n < 10 ^ places)
    (stops : ∀ c ∈ rest.head?, c.isDigit = false) :
    fraction ('.' :: ((padded places n).toList ++ rest)) =
      some (n * 10 ^ (9 - places), rest) := by
  have digits : ∀ c ∈ (padded places n).toList, c.isDigit = true := fun c => isDigit_padded
  have length := length_padded places n positive small
  have fits : (padded places n).toList.length ≤ 9 := Nat.le_trans (Nat.le_of_eq length) most
  have taken : (((padded places n).toList ++ rest).take 9).takeWhile Char.isDigit =
      (padded places n).toList := digits_taken digits fits (.inr stops)
  have nonempty : (padded places n).toList.isEmpty = false :=
    List.isEmpty_eq_false_iff.2 (padded_ne_nil places n)
  have dropped := (takeWhile_digits digits stops).2
  simp only [fraction, taken, nonempty, dropped, valueOf_eq, value_padded, length, ↓guard_eq,
    Bool.not_false, ↓reduceIte, Option.bind_eq_bind, Option.pure_def, Option.bind_some]

/-- The decimals that are written lose nothing. -/
theorem fraction_fractionText {nano : Nat} (small : nano < 1000000000) (rest : List Char) :
    fraction ((fractionText nano).toList ++ 'Z' :: rest) = some (nano, 'Z' :: rest) := by
  have stops : ∀ c ∈ ('Z' :: rest).head?, c.isDigit = false := by
    intro c first
    cases first
    rfl
  have point : ".".toList = ['.'] := rfl
  unfold fractionText
  by_cases whole : nano = 0
  · rw [if_pos whole, whole]
    rfl
  rw [if_neg whole]
  by_cases millis : nano % 1000000 = 0
  · have back : nano / 1000000 * 10 ^ (9 - 3) = nano := by omega
    rw [if_pos millis, String.toList_append, point, List.append_assoc, List.singleton_append,
      fraction_padded (by decide) (by decide) (by omega) stops, back]
  rw [if_neg millis]
  by_cases micros : nano % 1000 = 0
  · have back : nano / 1000 * 10 ^ (9 - 6) = nano := by omega
    rw [if_pos micros, String.toList_append, point, List.append_assoc, List.singleton_append,
      fraction_padded (by decide) (by decide) (by omega) stops, back]
  · have back : nano * 10 ^ (9 - 9) = nano := by omega
    rw [if_neg micros, String.toList_append, point, List.append_assoc, List.singleton_append,
      fraction_padded (by decide) (by decide) (by omega) stops, back]

end Reader

theorem toList_render (t : Stamp) :
    let date := Date.ofDays (t.second / 86400)
    let clock := (t.second % 86400).toNat
    t.render.toList = (yearText date.year).toList ++ '-' ::
      ((padded 2 date.month).toList ++ '-' :: ((padded 2 date.day).toList ++ 'T' ::
        ((padded 2 (clock / 3600)).toList ++ ':' :: ((padded 2 (clock / 60 % 60)).toList ++ ':' ::
          ((padded 2 (clock % 60 + t.nano / 1000000000)).toList ++
            ((fractionText (t.nano % 1000000000)).toList ++ 'Z' :: [])))))) := by
  have dash : "-".toList = ['-'] := rfl
  have colon : ":".toList = [':'] := rfl
  have letter : "T".toList = ['T'] := rfl
  have zone : "Z".toList = ['Z'] := rfl
  simp only [Stamp.render, String.toList_append, dash, colon, letter, zone, List.append_assoc,
    List.cons_append, List.nil_append]

namespace Reader

theorem date_written {d : Date} (month : d.month < 100) (day : d.day < 100) (rest : List Char) :
    date ((yearText d.year).toList ++ '-' ::
      ((padded 2 d.month).toList ++ '-' :: ((padded 2 d.day).toList ++ rest))) =
      some (d, rest) := by
  have stops (rest : List Char) : ∀ c ∈ ('-' :: rest).head?, c.isDigit = false := by
    intro c first
    cases first
    rfl
  have dash : isBlank '-' = false := by decide
  simp only [date, year_yearText _ _ (stops _), mark_cons _ dash, short_padded _ month,
    short_padded _ day, Option.bind_eq_bind, Option.bind_some, Option.pure_def]

theorem clock_written (hour minute : Nat) {second nano : Nat} (hours : hour < 24)
    (minutes : minute < 60) (seconds : second ≤ 60) (small : nano < 1000000000)
    (rest : List Char) :
    clock ((padded 2 hour).toList ++ ':' :: ((padded 2 minute).toList ++ ':' ::
      ((padded 2 second).toList ++ ((fractionText nano).toList ++ 'Z' :: rest)))) =
      some ((hour * 3600 + minute * 60 + (second - if second = 60 then 1 else 0),
        nano + (if second = 60 then 1 else 0) * 1000000000), 'Z' :: rest) := by
  have colon : isBlank ':' = false := by decide
  have valid : hour < 24 ∧ minute < 60 ∧ second ≤ 60 := ⟨hours, minutes, seconds⟩
  simp only [clock, short_padded _ (show hour < 100 by omega),
    short_padded _ (show minute < 100 by omega), short_padded _ (show second < 100 by omega),
    mark_cons _ colon, fraction_fractionText small, valid, ↓guard_eq, Option.bind_eq_bind,
    Option.bind_some, Option.pure_def, and_self, ↓reduceIte]

/-- The second of a minute that is written, with a leap second counted as the 61st. -/
theorem second_of_proper {t : Stamp} (proper : t.Proper) :
    let second := (t.second % 86400).toNat % 60 + t.nano / 1000000000
    second ≤ 60 ∧ second - (if second = 60 then 1 else 0) = (t.second % 86400).toNat % 60 ∧
      t.nano % 1000000000 + (if second = 60 then 1 else 0) * 1000000000 = t.nano := by
  dsimp only
  rcases proper with short | ⟨long, last⟩
  · have none : t.nano / 1000000000 = 0 := by omega
    rw [none, if_neg (by omega)]
    omega
  · have minute : (t.second % 86400).toNat % 60 = 59 := by omega
    rw [minute]
    by_cases leap : t.nano / 1000000000 = 1
    · rw [leap, if_pos rfl]
      omega
    · have none : t.nano / 1000000000 = 0 := by omega
      rw [none, if_neg (by omega)]
      omega

theorem date_bounds (days : Int) :
    (Date.ofDays days).month < 100 ∧ (Date.ofDays days).day < 100 := by
  have exist := (Date.toDays_ofDays days).2
  simp only [Date.valid, Bool.and_eq_true, decide_eq_true_eq] at exist
  have length : daysInMonth (Date.ofDays days).year (Date.ofDays days).month ≤ 31 := by
    unfold daysInMonth
    repeat' split
    all_goals omega
  omega

/-- A moment that a clock may show reads as itself from its written form, as long as it lies within
the calendar. -/
theorem stamp?_render {t : Stamp} (proper : t.Proper) :
    stamp? t.render = if t.representable then some t else none := by
  obtain ⟨month, day⟩ := date_bounds (t.second / 86400)
  obtain ⟨days, exist⟩ := Date.toDays_ofDays (t.second / 86400)
  obtain ⟨seconds, second, nano⟩ := second_of_proper proper
  have clocks := clock_written ((t.second % 86400).toNat / 3600)
    ((t.second % 86400).toNat / 60 % 60) (by omega) (by omega) seconds
    (Nat.mod_lt t.nano (by decide)) []
  have total : (t.second % 86400).toNat / 3600 * 3600 + (t.second % 86400).toNat / 60 % 60 * 60 +
      (t.second % 86400).toNat % 60 = (t.second % 86400).toNat := by omega
  rw [second, nano, total] at clocks
  have separated (rest : List Char) : separator ('T' :: rest) = some rest := rfl
  have letter : isBlank 'Z' = false := by decide
  have zoned : zone ['Z'] = some (0, []) := rfl
  have back : (t.second / 86400 * 86400 + ((t.second % 86400).toNat : Int) - 0) = t.second := by
    omega
  have years : (Stamp.firstYear ≤ (Date.ofDays (t.second / 86400)).year ∧
      (Date.ofDays (t.second / 86400)).year ≤ Stamp.lastYear) ↔ t.representable = true := by
    simp only [Stamp.representable, Bool.and_eq_true, decide_eq_true_eq]
  simp only [stamp?, toList_render, date_written month day, separated, clocks,
    skipBlanks_cons _ letter, zoned, Option.bind_eq_bind, Option.bind_some, days, back, exist,
    years, ↓guard_eq]
  cases t.representable with
  | true => rfl
  | false => rfl

end Reader

end Agora.Time
