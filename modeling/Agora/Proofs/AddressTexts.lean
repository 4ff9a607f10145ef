import Agora.Address.Endpoint
import Agora.Proofs.WrittenNumbers

/-!
The texts of internet addresses read as the addresses they are of. Four octets in decimal are read
back one by one. Eight words in hexadecimal are read back group by group, up to the two colons that
stand for a run of zeros, and after them again; what is left out between is as long as the words
that have been read leave it, and the words that were left out are all zero. So different addresses
have different texts.
-/

set_option autoImplicit false

namespace Agora.Address.Ip

/-- The text does not go on with a digit. -/
def Stops (base : Nat) (cs : List Char) : Prop := ∀ c ∈ cs.head?, digit? base c = none

section

variable {base width n : Nat} {ds : List Nat} {rest : List Char}

theorem digit?_digitChar {d : Nat} (small : d < base) (most : base ≤ 16) :
    digit? base d.digitChar = some d := by
  have hex : ∀ d < 16, Bytes.hexValue? d.digitChar = some d := by decide
  rw [digit?, hex d (Nat.lt_of_lt_of_le small most)]
  exact Option.filter_some_pos (decide_eq_true small)

theorem digitRun_of_stops (stops : Stops base rest) : digitRun base rest = ([], rest) := by
  cases rest with
  | nil => rfl
  | cons c rest => rw [digitRun, stops c rfl]

theorem digitRun_digits (most : base ≤ 16) (small : ∀ d ∈ ds, d < base)
    (stops : Stops base rest) : digitRun base (ds.map Nat.digitChar ++ rest) = (ds, rest) := by
  induction ds with
  | nil => exact digitRun_of_stops stops
  | cons d ds ih =>
    rw [List.map_cons, List.cons_append, digitRun, digit?_digitChar (small d (.head _)) most,
      ih fun e inside => small e (.tail _ inside)]

theorem exists_digits (more : 1 < base) (n : Nat) :
    ∃ ds, Nat.toDigits base n = ds.map Nat.digitChar ∧ (∀ d ∈ ds, d < base) ∧
      digitsValue base ds = n := by
  induction n using Nat.strongRecOn with
  | ind n ih =>
    rw [Nat.toDigits_eq_if more]
    by_cases small : n < base
    · rw [if_pos small]
      refine ⟨[n], rfl, fun d inside => ?_, by simp [digitsValue]⟩
      rwa [List.mem_singleton.1 inside]
    · rw [if_neg small]
      obtain ⟨ds, digits, below, value⟩ := ih (n / base) (Nat.div_lt_self (by omega) more)
      refine ⟨ds ++ [n % base], by rw [digits, List.map_append]; rfl, fun d inside => ?_, ?_⟩
      · rcases List.mem_append.1 inside with inside | last
        · exact below d inside
        · rw [List.mem_singleton.1 last]
          exact Nat.mod_lt n (by omega)
      · rw [digitsValue, List.foldl_append]
        change digitsValue base ds * base + n % base = n
        rw [value, Nat.div_add_mod']

theorem number_toDigits (more : 1 < base) (most : base ≤ 16) (positive : 0 < width)
    (fits : n < base ^ width) (stops : Stops base rest) :
    number base width (Nat.toDigits base n ++ rest) = some (n, rest) := by
  obtain ⟨ds, digits, below, value⟩ := exists_digits more n
  have short : ds.length ≤ width := by
    rw [← List.length_map (f := Nat.digitChar), ← digits]
    exact (Nat.length_toDigits_le_iff more positive).2 fits
  have some : ds ≠ [] := by
    rintro rfl
    exact Nat.toDigits_ne_nil digits
  rw [number, digits, digitRun_digits most below stops]
  simp [some, short, value]

end

theorem after_self (c : Char) (rest : List Char) : after c (c :: rest) = some rest := if_pos rfl

theorem octet_digits (a : UInt8) {rest : List Char} (stops : Stops 10 rest) :
    octet (Nat.toDigits 10 a.toNat ++ rest) = some (a, rest) := by
  have small : a.toNat < 256 := a.toNat_lt
  have leading : (Nat.toDigits 10 a.toNat ++ rest).head? ≠ some '0' ∨
      rest.length + 1 = (Nat.toDigits 10 a.toNat ++ rest).length := by
    by_cases zero : a.toNat = 0
    · rw [zero]
      exact .inr (by simp)
    · obtain ⟨c, cs, digits, other⟩ := Digits.head_ne_zero (Nat.pos_of_ne_zero zero)
      rw [digits]
      exact .inl fun same => other (Option.some.inj same)
  rw [octet, number_toDigits (by decide) (by decide) (by decide) (by omega) stops]
  simp only [Option.bind_eq_bind, Option.bind_some, ↓guard_eq, small, leading, if_true]
  simp

theorem stops_cons {base : Nat} {c : Char} (other : digit? base c = none) (rest : List Char) :
    Stops base (c :: rest) := by
  rintro d ⟨⟩
  exact other

theorem stops_nil (base : Nat) : Stops base [] := nofun

theorem toList_fourText (a b c d : UInt8) : (fourText a b c d).toList =
    Nat.toDigits 10 a.toNat ++ '.' :: (Nat.toDigits 10 b.toNat ++ '.' ::
      (Nat.toDigits 10 c.toNat ++ '.' :: Nat.toDigits 10 d.toNat)) := by
  have dot : (toString ".").toList = ['.'] := rfl
  simp [fourText, String.toList_append, dot]

theorem readFour_fourText (a b c d : UInt8) {rest : List Char} (stops : Stops 10 rest) :
    readFour ((fourText a b c d).toList ++ rest) = some ((a, b, c, d), rest) := by
  have dot (cs : List Char) : Stops 10 ('.' :: cs) := stops_cons (by decide) cs
  rw [toList_fourText]
  simp only [List.append_assoc, List.cons_append, readFour, octet_digits a (dot _),
    octet_digits b (dot _), octet_digits c (dot _), octet_digits d stops, Option.bind_eq_bind,
    Option.bind_some, after_self, Option.pure_def]

/-- The text does not go on with a dot behind the decimal digits at its start. -/
def Undotted (cs : List Char) : Prop := ∀ rest, (digitRun 10 cs).2 ≠ '.' :: rest

theorem undotted_of_stops {c : Char} (other : digit? 10 c = none) (apart : c ≠ '.')
    (rest : List Char) : Undotted (c :: rest) := by
  intro more same
  rw [digitRun_of_stops (stops_cons other rest)] at same
  cases same
  exact apart rfl

theorem undotted_nil : Undotted [] := nofun

theorem readFour_of_undotted {cs : List Char} (undotted : Undotted cs) : readFour cs = none := by
  have rest {a : UInt8} {rest : List Char} (read : octet cs = some (a, rest)) :
      rest = (digitRun 10 cs).2 := by
    obtain ⟨⟨n, more⟩, digits, accepted⟩ := Option.bind_eq_some_iff.1 read
    rw [number] at digits
    dsimp only at digits
    split at digits
    · cases digits
    · cases digits
      obtain ⟨_, _, accepted⟩ := Option.bind_eq_some_iff.1 accepted
      obtain ⟨_, _, accepted⟩ := Option.bind_eq_some_iff.1 accepted
      cases accepted
      rfl
  rw [readFour]
  cases read : octet cs with
  | none => rfl
  | some first =>
    obtain ⟨a, more⟩ := first
    have stuck : after '.' more = none := by
      cases more with
      | nil => rfl
      | cons c more =>
        refine if_neg ?_
        rintro rfl
        exact undotted more (rest read).symm
    simp only [Option.bind_eq_bind, Option.bind_some, stuck, Option.bind_none]

def digits (w : UInt16) : List Char := Nat.toDigits 16 w.toNat

def trail (ws : List UInt16) : List Char := ws.flatMap fun w => ':' :: digits w

/-- The text after some groups: it ends, or two colons stand for a run of zeros. -/
inductive Halts : List Char → Prop where
  | nil : Halts []
  | gap (rest : List Char) : Halts (':' :: ':' :: rest)

theorem number_digits (w : UInt16) {rest : List Char} (stops : Stops 16 rest) :
    number 16 4 (digits w ++ rest) = some (w.toNat, rest) :=
  number_toDigits (by decide) (by decide) (by decide) w.toNat_lt stops

theorem undotted_digits (w : UInt16) {rest : List Char} (undotted : Undotted rest) :
    Undotted (digits w ++ rest) := by
  obtain ⟨ds, text, -, -⟩ := exists_digits (by decide : 1 < 16) w.toNat
  rw [digits, text]
  clear text
  induction ds with
  | nil => exact undotted
  | cons d ds ih =>
    intro more same
    rw [List.map_cons, List.cons_append, digitRun] at same
    split at same
    · exact ih more same
    · exact Nat.digitChar_ne '.' (by decide) (List.cons.inj same).1

namespace Halts

variable {rest : List Char}

theorem stops (halts : Halts rest) : Stops 16 rest := by
  cases halts with
  | nil => exact stops_nil 16
  | gap more => exact stops_cons (by decide) _

theorem undotted (halts : Halts rest) : Undotted rest := by
  cases halts with
  | nil => exact undotted_nil
  | gap more => exact undotted_of_stops (by decide) (by decide) _

theorem readGroups_eq (halts : Halts rest) (first : Bool) (room : Nat) :
    readGroups first room rest = ⟨[], false, rest⟩ := by
  cases room with
  | zero => rfl
  | succ room =>
    -- With a colon taken off or not, what remains begins with no digit.
    have none : (groupStart first rest).bind readFour = none ∧
        (groupStart first rest).bind (number 16 4) = none := by
      have colon (more : List Char) : readFour (':' :: more) = none ∧
          number 16 4 (':' :: more) = none := by
        refine ⟨readFour_of_undotted (undotted_of_stops (by decide) (by decide) _), ?_⟩
        rw [number, digitRun_of_stops (stops_cons (by decide) more)]
        rfl
      cases halts with
      | nil => cases first <;> exact ⟨rfl, rfl⟩
      | gap more =>
        cases first with
        | true => exact colon _
        | false => exact colon more
    rw [readGroups, none.1, none.2, ite_self]

end Halts

theorem readGroups_word (first : Bool) (w : UInt16) (room : Nat) {rest : List Char}
    (stops : Stops 16 rest) (undotted : Undotted rest) :
    readGroups first (room + 1) ((if first then [] else [':']) ++ digits w ++ rest) =
      let tail := readGroups false room rest
      { tail with words := w :: tail.words } := by
  have starts : groupStart first ((if first then [] else [':']) ++ digits w ++ rest) =
      some (digits w ++ rest) := by
    cases first with
    | true => rfl
    | false => exact after_self ':' _
  rw [readGroups, starts]
  simp only [Option.bind_some, readFour_of_undotted (undotted_digits w undotted),
    number_digits w stops, ite_self, UInt16.ofNat_toNat]

theorem stops_trail (ws : List UInt16) {rest : List Char} (halts : Halts rest) :
    Stops 16 (trail ws ++ rest) ∧ Undotted (trail ws ++ rest) := by
  cases ws with
  | nil => exact ⟨halts.stops, halts.undotted⟩
  | cons w ws =>
    exact ⟨stops_cons (by decide) _, undotted_of_stops (by decide) (by decide) _⟩

theorem readGroups_trail {ws : List UInt16} {room : Nat} (fits : ws.length ≤ room)
    {rest : List Char} (halts : Halts rest) :
    readGroups false room (trail ws ++ rest) = ⟨ws, false, rest⟩ := by
  induction ws generalizing room with
  | nil => exact halts.readGroups_eq false room
  | cons w ws ih =>
    cases room with
    | zero => cases fits
    | succ room =>
      obtain ⟨stops, undotted⟩ := stops_trail ws halts
      have text : trail (w :: ws) ++ rest = [':'] ++ digits w ++ (trail ws ++ rest) := by
        simp [trail]
      rw [text]
      refine (readGroups_word false w room stops undotted).trans ?_
      rw [ih (Nat.le_of_succ_le_succ fits)]

theorem toList_wordsText (w : UInt16) (ws : List UInt16) :
    (wordsText (w :: ws)).toList = digits w ++ trail ws := by
  induction ws generalizing w with
  | nil => simp [wordsText, wordText, digits, trail]
  | cons v ws ih =>
    have more : wordsText (w :: v :: ws) = wordText w ++ ":" ++ wordsText (v :: ws) :=
      String.intercalate_cons_cons
    rw [more, String.toList_append, ih]
    simp [wordText, digits, trail]

theorem readGroups_words {ws : List UInt16} {room : Nat} (fits : ws.length ≤ room)
    {rest : List Char} (halts : Halts rest) :
    readGroups true room ((wordsText ws).toList ++ rest) = ⟨ws, false, rest⟩ := by
  cases ws with
  | nil => exact halts.readGroups_eq true room
  | cons w ws =>
    cases room with
    | zero => cases fits
    | succ room =>
      obtain ⟨stops, undotted⟩ := stops_trail ws halts
      rw [toList_wordsText, List.append_assoc]
      refine (readGroups_word true w room stops undotted).trans ?_
      rw [readGroups_trail (Nat.le_of_succ_le_succ fits) halts]

theorem zeros_eq {ws : List UInt16} {n : Nat} (run : n ≤ zeros ws) :
    ws = List.replicate n 0 ++ ws.drop n := by
  induction ws generalizing n with
  | nil =>
    rw [Nat.le_zero.1 run]
    rfl
  | cons w ws ih =>
    cases n with
    | zero => rfl
    | succ n =>
      by_cases zero : w = 0
      · subst zero
        have fewer : n ≤ zeros ws := by simpa [zeros] using run
        rw [List.replicate_succ, List.cons_append, List.drop_succ_cons, ← ih fewer]
      · simp [zeros, zero] at run

/-- At the place of the longest run of zeros there are as many as its length. -/
theorem longestZeros_run (ws : List UInt16) :
    (longestZeros ws).2 ≤ zeros (ws.drop (longestZeros ws).1) := by
  let run (best : Nat × Nat) : Prop := best.2 ≤ zeros (ws.drop best.1)
  have start : run (0, 0) := Nat.zero_le _
  refine List.foldlRecOn (motive := run) _ _ start fun best stands i _ => ?_
  dsimp only
  split
  · exact Nat.le_refl _
  · exact stands

/-- The longest run of zeros lies within the words. -/
theorem longestZeros_within {ws : List UInt16} (some : 0 < (longestZeros ws).2) :
    (longestZeros ws).1 + (longestZeros ws).2 ≤ ws.length := by
  have run := Nat.le_trans (longestZeros_run ws) (List.takeWhile_prefix _).length_le
  rw [List.length_drop] at run
  omega

theorem ofWords_toList (groups : Vector UInt16 8) : ofWords groups.toList = groups := by
  ext i small
  simp [ofWords]

/-- Two colons stand for as many zeros as the words before and after them leave. -/
theorem readSix_gap {head : List UInt16} (few : head.length < 8) {cs : List Char} {tail : Groups}
    (read : readGroups true (7 - head.length) cs = tail) :
    readSix ((wordsText head).toList ++ ':' :: ':' :: cs) =
      some (ofWords (head ++ List.replicate (8 - head.length - tail.words.length) 0 ++ tail.words),
        tail.rest) := by
  have before := readGroups_words (Nat.le_of_lt few) (.gap cs)
  rw [readSix, before]
  simp only [Nat.ne_of_lt few, ↓reduceIte, Bool.not_false, ↓guard_eq, Option.bind_eq_bind,
    after_self, Option.bind_some, read, Option.pure_def]

/-- Eight words are read back, with or without a run of zeros left out. -/
theorem readSix_sixText {ws : List UInt16} (eight : ws.length = 8) :
    readSix (sixText ws).toList = some (ofWords ws, []) := by
  have run := zeros_eq (longestZeros_run ws)
  have within := @longestZeros_within ws
  unfold sixText
  generalize longestZeros ws = best at run within ⊢
  obtain ⟨start, length⟩ := best
  dsimp only at run within ⊢
  by_cases long : 1 < length
  · have inside := within (Nat.lt_of_succ_lt long)
    have before : (ws.take start).length = start := List.length_take_of_le (by omega)
    have few : (ws.drop (start + length)).length ≤ 7 - (ws.take start).length := by
      rw [before, List.length_drop]
      omega
    have after := readGroups_words few .nil
    rw [List.append_nil] at after
    have text : (wordsText (ws.take start) ++ "::" ++ wordsText (ws.drop (start + length))).toList =
        (wordsText (ws.take start)).toList ++ ':' :: ':' ::
          (wordsText (ws.drop (start + length))).toList := by
      simp [String.toList_append]
    have gap : 8 - start - (ws.drop (start + length)).length = length := by
      rw [List.length_drop]
      omega
    have whole : ws.take start ++ List.replicate length 0 ++ ws.drop (start + length) = ws := by
      rw [List.append_assoc, ← List.drop_drop, ← run, List.take_append_drop]
    rw [if_pos long, text, readSix_gap (by omega) after, before]
    dsimp only
    rw [gap, whole]
  · have read := readGroups_words (Nat.le_of_eq eight) .nil
    rw [List.append_nil] at read
    rw [if_neg long, readSix, read]
    simp [eight]

theorem joinOctets_split (w : UInt16) : joinOctets (w >>> 8).toUInt8 w.toUInt8 = w := by
  apply UInt16.toNat_inj.1
  have small := w.toNat_lt
  simp [joinOctets, Nat.shiftRight_eq_div_pow]
  omega

/-- Where a word and four octets follow the gap, all three words are read. -/
theorem readSix_mapped (x y : UInt16) :
    readSix ("::ffff:" ++
        fourText (x >>> 8).toUInt8 x.toUInt8 (y >>> 8).toUInt8 y.toUInt8).toList =
      some (ofWords [0, 0, 0, 0, 0, 0xFFFF, x, y], []) := by
  generalize octets : (fourText (x >>> 8).toUInt8 x.toUInt8 (y >>> 8).toUInt8 y.toUInt8).toList =
    cs
  have four : readGroups false 6 (':' :: cs) = ⟨[x, y], true, []⟩ := by
    have read := readFour_fourText (x >>> 8).toUInt8 x.toUInt8 (y >>> 8).toUInt8 y.toUInt8
      (stops_nil 10)
    rw [List.append_nil, octets] at read
    have starts : groupStart false (':' :: cs) = some cs := after_self ':' cs
    rw [readGroups, starts]
    simp [read, joinOctets_split]
  have tail : readGroups true 7 (digits 0xFFFF ++ ':' :: cs) = ⟨[0xFFFF, x, y], true, []⟩ := by
    refine (readGroups_word true 0xFFFF 6 (stops_cons (by decide) cs)
      (undotted_of_stops (by decide) (by decide) cs)).trans ?_
    rw [four]
  have text : ("::ffff:" ++
        fourText (x >>> 8).toUInt8 x.toUInt8 (y >>> 8).toUInt8 y.toUInt8).toList =
      (wordsText []).toList ++ ':' :: ':' :: (digits 0xFFFF ++ ':' :: cs) := by
    rw [String.toList_append, octets]
    rfl
  rw [text, @readSix_gap [] (by decide) _ _ tail]
  rfl

theorem undotted_wordsText (ws : List UInt16) {rest : List Char} (halts : Halts rest) :
    Undotted ((wordsText ws).toList ++ rest) := by
  cases ws with
  | nil => exact halts.undotted
  | cons w ws =>
    rw [toList_wordsText, List.append_assoc]
    exact undotted_digits w (stops_trail ws halts).2

/-- No text of eight words begins with four octets. -/
theorem undotted_sixText (ws : List UInt16) : Undotted (sixText ws).toList := by
  unfold sixText
  dsimp only
  split
  · rw [String.toList_append, String.toList_append, List.append_assoc]
    exact undotted_wordsText _ (.gap _)
  · have undotted := undotted_wordsText ws .nil
    rwa [List.append_nil] at undotted

theorem parse?_of_readSix {s : String} {groups : Vector UInt16 8} (undotted : Undotted s.toList)
    (read : readSix s.toList = some (groups, [])) : parse? s = some (.v6 groups) := by
  rw [parse?, readFour_of_undotted undotted, read]
  rfl

/-- The text of an address reads as the address. -/
theorem parse?_render (ip : Ip) : parse? ip.render = some ip := by
  cases ip with
  | v4 a b c d =>
    have read := readFour_fourText a b c d (stops_nil 10)
    rw [List.append_nil] at read
    rw [render, parse?, read]
    rfl
  | v6 groups =>
    rw [render]
    split
    · rename_i x y mapped
      rw [← ofWords_toList groups, mapped]
      refine parse?_of_readSix ?_ (readSix_mapped x y)
      rw [String.toList_append]
      exact undotted_of_stops (by decide) (by decide) _
    · have read := readSix_sixText groups.length_toList
      rw [ofWords_toList] at read
      exact parse?_of_readSix (undotted_sixText _) read

/-- Different addresses have different texts. -/
theorem render_inj {a b : Ip} : a.render = b.render ↔ a = b := by
  refine ⟨fun same => ?_, congrArg render⟩
  have read := congrArg parse? same
  rw [parse?_render, parse?_render] at read
  exact Option.some.inj read

end Agora.Address.Ip
