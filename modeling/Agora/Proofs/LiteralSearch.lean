import Agora.Proofs.FeedContents
import Mathlib.Data.List.TakeWhile

/-!
When a feed finds what stands in a post letter for letter. The searched text and the texts of a post
are put in lower case each on its own, and the lower case of a capital sigma depends on its
neighbours: at the edge of the searched text these are other ones than in the post. So a literal
occurrence is found where each capital sigma has the lower case that it has in the searched text
alone, and a text is found wherever it occurs exactly if its neighbours within the text decide the
lower case of each of its capital sigmas.
-/

set_option autoImplicit false

namespace Agora

namespace Text

/-- The nearest character that is not passed over has a case, or has none; nothing, if all are
passed over. -/
def nearest (cs : List Char) : Option Bool := (cs.dropWhile isCaseIgnorable).head?.map isCased

/-- Whatever stands further away, the neighbours decide the lower case of a capital sigma between
the reversed text before it and the text after it. -/
def Decided (before after : List Char) : Prop :=
  nearest before = some false ∨ nearest after = some true ∨
    nearest before = some true ∧ nearest after = some false

/-- The text itself decides the lower case of each of its capital sigmas. -/
def Firm (text : List Char) : Prop :=
  ∀ before after, text = before ++ 'Σ' :: after → Decided before.reverse after

/-- Between two other texts, each capital sigma of a text has the lower case that it has there
without them. -/
def Steady (front text back : List Char) : Prop :=
  ∀ before after, text = before ++ 'Σ' :: after →
    lowerSigma (before.reverse ++ front.reverse) (after ++ back) = lowerSigma before.reverse after

section

variable {before after front back cs ds : List Char}

theorem nearest_append : nearest (cs ++ ds) = (nearest cs).or (nearest ds) := by
  induction cs with
  | nil => rfl
  | cons c rest ih =>
    by_cases passed : isCaseIgnorable c = true
    · simpa only [nearest, List.cons_append, List.dropWhile_cons_of_pos passed] using ih
    · simp only [nearest, List.cons_append, List.dropWhile_cons_of_neg passed, List.head?_cons,
        Option.map_some, Option.some_or]

theorem nearest_sigma : nearest ('Σ' :: cs) = some true := by
  have stays : isCaseIgnorable 'Σ' = false := by decide +kernel
  have cased : isCased 'Σ' = true := by decide +kernel
  have first : ('Σ' :: cs).dropWhile isCaseIgnorable = 'Σ' :: cs :=
    List.dropWhile_cons_of_neg (by simp [stays])
  rw [nearest, first, List.head?_cons, Option.map_some, cased]

theorem meetsCased_eq : meetsCased cs = (nearest cs).getD false := by
  rw [meetsCased, nearest]
  cases cs.dropWhile isCaseIgnorable <;> rfl

theorem lowerSigma_eq : lowerSigma before after =
    if (nearest before).getD false && !(nearest after).getD false then 'ς' else 'σ' := by
  rw [lowerSigma, meetsCased_eq, meetsCased_eq]

/-- What is decided stays so between other texts. -/
theorem Decided.lowerSigma (decided : Decided before after) (front back : List Char) :
    lowerSigma (before ++ front) (after ++ back) = lowerSigma before after := by
  rw [lowerSigma_eq, lowerSigma_eq, nearest_append, nearest_append]
  rcases decided with uncased | cased | ⟨cased, uncased⟩
  · rw [uncased]
    rfl
  · rw [cased]
    simp
  · rw [cased, uncased]
    rfl

theorem Firm.steady (firm : Firm cs) (front back : List Char) : Steady front cs back :=
  fun before after split => (firm before after split).lowerSigma front.reverse back

/-- The lower case of a part of a text, between the reversed text before it and the text after. -/
def lowerBetween (before after : List Char) : List Char → List Char
  | [] => []
  | c :: rest =>
    if c = 'Σ' then lowerSigma before (rest ++ after) :: lowerBetween (c :: before) after rest
    else lowerChar c ++ lowerBetween (c :: before) after rest

theorem lowerAfter_append : lowerAfter before (cs ++ ds) =
    lowerBetween before ds cs ++ lowerAfter (cs.reverse ++ before) ds := by
  induction cs generalizing before with
  | nil => rfl
  | cons c rest ih =>
    have sigma : c.toNat = 0x3A3 ↔ c = 'Σ' := Char.toNat_inj (c := c) (d := 'Σ')
    rw [List.cons_append, lowerAfter, lowerBetween, ih, List.reverse_cons, List.append_assoc,
      List.singleton_append]
    by_cases capital : c = 'Σ'
    · rw [if_pos (sigma.2 capital), if_pos capital, List.cons_append]
    · rw [if_neg (mt sigma.1 capital), if_neg capital, List.append_assoc]

theorem lowerAfter_eq : lowerAfter before cs = lowerBetween before [] cs := by
  have whole := @lowerAfter_append before cs []
  rwa [List.append_nil, lowerAfter, List.append_nil] at whole

theorem lowerBetween_append : lowerBetween before after (cs ++ ds) =
    lowerBetween before (ds ++ after) cs ++ lowerBetween (cs.reverse ++ before) after ds := by
  induction cs generalizing before with
  | nil => rfl
  | cons c rest ih =>
    rw [List.cons_append, lowerBetween, lowerBetween, ih, List.reverse_cons, List.append_assoc,
      List.append_assoc, List.singleton_append]
    by_cases capital : c = 'Σ'
    · rw [if_pos capital, if_pos capital, List.cons_append]
    · rw [if_neg capital, if_neg capital, List.append_assoc]

/-- Only the capital sigmas of a part depend on what stands around it. -/
theorem lowerBetween_congr {before' after' : List Char}
    (alike : ∀ first rest, cs = first ++ 'Σ' :: rest →
      lowerSigma (first.reverse ++ before) (rest ++ after) =
        lowerSigma (first.reverse ++ before') (rest ++ after')) :
    lowerBetween before after cs = lowerBetween before' after' cs := by
  induction cs generalizing before before' with
  | nil => rfl
  | cons c rest ih =>
    have later : lowerBetween (c :: before) after rest =
        lowerBetween (c :: before') after' rest := by
      refine ih fun first others split => ?_
      have here := alike (c :: first) others (by rw [split, List.cons_append])
      rwa [List.reverse_cons, List.append_assoc, List.append_assoc] at here
    rw [lowerBetween, lowerBetween, later]
    by_cases capital : c = 'Σ'
    · rw [if_pos capital, if_pos capital]
      exact congrArg (· :: _) (alike [] rest (by rw [capital, List.nil_append]))
    · rw [if_neg capital, if_neg capital]

/-- The lower case of a text is that of its parts, each where it stands. -/
theorem lowerAfter_parts (front cs back : List Char) :
    lowerAfter [] (front ++ cs ++ back) = lowerBetween [] (cs ++ back) front ++
      lowerBetween front.reverse back cs ++ lowerAfter (cs.reverse ++ front.reverse) back := by
  rw [lowerAfter_append, lowerBetween_append, List.reverse_append, List.append_nil, List.append_nil]

/-- Where the sigmas of a text have the lower case that they have in it alone, its lower case is
found in that of the whole. -/
theorem Steady.infix (steady : Steady front cs back) :
    lowerAfter [] cs <:+: lowerAfter [] (front ++ cs ++ back) := by
  have same : lowerBetween front.reverse back cs = lowerBetween [] [] cs := by
    refine lowerBetween_congr fun first rest split => ?_
    rw [List.append_nil, List.append_nil]
    exact steady first rest split
  rw [lowerAfter_parts, same, lowerAfter_eq]
  exact List.infix_append _ _ _

theorem nearest_eq_none : nearest cs = none ↔ ∀ c ∈ cs, isCaseIgnorable c = true := by
  rw [nearest, Option.map_eq_none_iff, List.head?_eq_none_iff, List.dropWhile_eq_nil_iff]

/-- A text that is all passed over has no capital sigma, and its lower case is the same
everywhere. -/
theorem lowerBetween_of_passed (passed : ∀ c ∈ cs, isCaseIgnorable c = true)
    (before' after' : List Char) :
    lowerBetween before after cs = lowerBetween before' after' cs := by
  refine lowerBetween_congr fun first rest split => ?_
  have stops := nearest_eq_none.2 fun c (inside : c ∈ 'Σ' :: rest) =>
    passed c (split ▸ List.mem_append_right _ inside)
  rw [nearest_sigma] at stops
  cases stops

/-- What stands before a capital sigma does not matter to what follows it. -/
theorem lowerBetween_of_sigma_before (before' : List Char) :
    lowerBetween ('Σ' :: before) after cs = lowerBetween ('Σ' :: before') after cs := by
  refine lowerBetween_congr fun first rest _ => ?_
  rw [lowerSigma_eq, lowerSigma_eq]
  simp only [nearest_append, nearest_sigma]

/-- What stands after a capital sigma does not matter to what precedes it. -/
theorem lowerBetween_of_sigma_after (after' : List Char) :
    lowerBetween before ('Σ' :: after) cs = lowerBetween before ('Σ' :: after') cs := by
  refine lowerBetween_congr fun first rest _ => ?_
  rw [lowerSigma_eq, lowerSigma_eq]
  simp only [nearest_append, nearest_sigma]

/-- A text is not found where one of its characters is another and nothing around brings it back. -/
theorem not_infix_of_other {x y : Char} (other : y ≠ x) (absent : x ∉ front ++ back) :
    ¬before ++ x :: after <:+: front ++ (before ++ y :: after) ++ back := by
  intro found
  have fewer := found.sublist.count_le x
  have missing : (front ++ back).count x = 0 := List.count_eq_zero.2 absent
  simp only [List.count_append, List.count_cons_self, List.count_cons_of_ne other] at fewer missing
  omega

theorem lowerBetween_sigma : lowerBetween front back (before ++ 'Σ' :: after) =
    lowerBetween front ('Σ' :: (after ++ back)) before ++
      lowerSigma (before.reverse ++ front) (after ++ back) ::
        lowerBetween ('Σ' :: (before.reverse ++ front)) back after := by
  rw [lowerBetween_append, lowerBetween, if_pos rfl, List.cons_append]

/-- A text is not found behind a letter that makes the first of its sigmas a final one. -/
theorem hidden_behind_letter (passed : ∀ c ∈ before, isCaseIgnorable c = true)
    (ends : nearest after ≠ some true) :
    ¬lowerAfter [] (before ++ 'Σ' :: after) <:+:
      lowerAfter [] (['a'] ++ (before ++ 'Σ' :: after) ++ []) := by
  have ahead : nearest before.reverse = none :=
    nearest_eq_none.2 fun c inside => passed c (List.mem_reverse.1 inside)
  have cased : nearest ['a'] = some true := by decide +kernel
  have plain : lowerSigma (before.reverse ++ []) (after ++ []) = 'σ' := by
    rw [lowerSigma_eq, List.append_nil, ahead]
    rfl
  have final : lowerSigma (before.reverse ++ ['a']) (after ++ []) = 'ς' := by
    have uncased : (nearest after).getD false = false := by
      cases nearby : nearest after with
      | none => rfl
      | some known =>
        cases known with
        | false => rfl
        | true => exact absurd nearby ends
    rw [lowerSigma_eq, nearest_append, ahead, cased, List.append_nil, uncased]
    rfl
  rw [lowerAfter_parts, lowerAfter_eq, lowerBetween_sigma, lowerBetween_sigma, plain,
    List.reverse_singleton, final,
    lowerBetween_of_passed passed ['a'] ('Σ' :: (after ++ [])),
    lowerBetween_of_sigma_before (before.reverse ++ ['a'])]
  have absent : 'σ' ∉ ['a'] ++ [] := by decide
  exact not_infix_of_other (by decide) absent

/-- A text is not found before a letter that keeps the last of its sigmas from being a final one. -/
theorem hidden_before_letter (starts : nearest before.reverse = some true)
    (passed : ∀ c ∈ after, isCaseIgnorable c = true) :
    ¬lowerAfter [] (before ++ 'Σ' :: after) <:+:
      lowerAfter [] ([] ++ (before ++ 'Σ' :: after) ++ ['a']) := by
  have behind : nearest after = none := nearest_eq_none.2 passed
  have cased : nearest ['a'] = some true := by decide +kernel
  have final : lowerSigma (before.reverse ++ []) (after ++ []) = 'ς' := by
    rw [lowerSigma_eq, List.append_nil, List.append_nil, starts, behind]
    rfl
  have plain : lowerSigma (before.reverse ++ []) (after ++ ['a']) = 'σ' := by
    rw [lowerSigma_eq, nearest_append, nearest_append, starts, behind, cased]
    rfl
  rw [lowerAfter_parts, lowerAfter_eq, lowerBetween_sigma, lowerBetween_sigma, final,
    List.reverse_nil, plain,
    lowerBetween_of_sigma_after (after ++ ['a']),
    lowerBetween_of_passed passed ('Σ' :: (before.reverse ++ [])) ['a']]
  have absent : 'ς' ∉ [] ++ ['a'] := by decide
  exact not_infix_of_other (by decide) absent

/-- What a text does not decide itself, a letter next to it decides the other way. -/
theorem hidden_of_not_firm (loose : ¬Firm cs) :
    ∃ front back, ¬lowerAfter [] cs <:+: lowerAfter [] (front ++ cs ++ back) := by
  obtain ⟨before, after, rfl, undecided⟩ : ∃ before after, cs = before ++ 'Σ' :: after ∧
      ¬Decided before.reverse after := by
    simpa only [Firm, not_forall, exists_prop] using loose
  cases ahead : nearest before.reverse with
  | none =>
    refine ⟨['a'], [], hidden_behind_letter (fun c inside => ?_) fun cased => ?_⟩
    · exact nearest_eq_none.1 ahead c (List.mem_reverse.2 inside)
    · exact undecided (.inr (.inl cased))
  | some known =>
    cases known with
    | false => exact absurd (.inl ahead) undecided
    | true =>
      cases behind : nearest after with
      | none => exact ⟨[], ['a'], hidden_before_letter ahead (nearest_eq_none.1 behind)⟩
      | some other =>
        cases other with
        | true => exact absurd (.inr (.inl behind)) undecided
        | false => exact absurd (.inr (.inr ⟨ahead, behind⟩)) undecided

end

end Text

namespace Store

open Feed (Query)
open Text (Firm Steady lowerAfter)

/-- A text stands in another letter for letter. -/
def StandsIn (search text : String) : Prop := search.toList <:+: text.toList

/-- A text stands in another letter for letter, at a place where each of its capital sigmas has the
lower case that it has in the text alone. -/
def StandsSteadyIn (search text : String) : Prop :=
  ∃ front back, text.toList = front ++ search.toList ++ back ∧ Steady front search.toList back

theorem StandsSteadyIn.finds {search text : String} (stands : StandsSteadyIn search text) :
    Tables.Finds search text := by
  obtain ⟨front, back, whole, steady⟩ := stands
  rw [Tables.Finds, Text.lower, Text.lower, whole]
  exact steady.infix

theorem StandsIn.steady {search text : String} (stands : StandsIn search text)
    (firm : Firm search.toList) : StandsSteadyIn search text := by
  obtain ⟨front, back, whole⟩ := stands
  exact ⟨front, back, whole.symm, firm.steady front back⟩

/-- To search for a text takes out the posts in which it is not found. -/
theorem Tables.mem_shown_search {t : Tables} {viewer : Int} {q : Query} {search : String}
    {item : FeedItem} : item ∈ t.shown viewer { q with search } ↔
      item ∈ t.shown viewer { q with search := "" } ∧
        (Finds search item.post.title ∨ Finds search item.post.content) := by
  rw [(shown_isFeed t viewer { q with search }).members,
    (shown_isFeed t viewer { q with search := "" }).members]
  constructor
  · rintro ⟨⟨stored, seen, found, tagged⟩, described⟩
    exact ⟨⟨⟨stored, seen, .inl List.nil_infix, tagged⟩, described⟩, found⟩
  · rintro ⟨⟨⟨stored, seen, _, tagged⟩, described⟩, found⟩
    exact ⟨⟨stored, seen, found, tagged⟩, described⟩

def Tables.single (text : String) : Tables where
  posts := Table.Ledger.empty.add fun id => ⟨id, 0, 1, text, text, [], ⟨0, 0⟩, ⟨0, 0⟩⟩

def soleItem (text : String) : FeedItem := ⟨⟨1, 0, 1, text, text, [], ⟨0, 0⟩, ⟨0, 0⟩⟩, "", 0⟩

theorem soleItem_shown (text : String) : soleItem text ∈ (Tables.single text).shown 1 {} :=
  ((Tables.shown_isFeed _ _ _).members _).2
    ⟨⟨rfl, .inl rfl, .inl List.nil_infix, nofun⟩, Tables.describes_iff.2 rfl⟩

/-- A post that is shown without a search, and in which the searched text stands letter for letter,
is shown with the search if somewhere each capital sigma of that text has the lower case that it has
in the text alone. Whatever the posts are, those in which the text stands are all shown exactly if
the text itself decides the lower case of its capital sigmas. -/
theorem literal_matches_found (search : String) :
    (∀ (t : Tables) (viewer : Int) (q : Query), ∀ item ∈ t.shown viewer { q with search := "" },
      StandsSteadyIn search item.post.title ∨ StandsSteadyIn search item.post.content →
        item ∈ t.shown viewer { q with search }) ∧
    ((∀ (t : Tables) (viewer : Int) (q : Query), ∀ item ∈ t.shown viewer { q with search := "" },
      StandsIn search item.post.title ∨ StandsIn search item.post.content →
        item ∈ t.shown viewer { q with search }) ↔ Firm search.toList) := by
  have steady : ∀ (t : Tables) (viewer : Int) (q : Query),
      ∀ item ∈ t.shown viewer { q with search := "" },
      StandsSteadyIn search item.post.title ∨ StandsSteadyIn search item.post.content →
        item ∈ t.shown viewer { q with search } := by
    intro t viewer q item shown stands
    exact Tables.mem_shown_search.2
      ⟨shown, stands.imp StandsSteadyIn.finds StandsSteadyIn.finds⟩
  refine ⟨steady, ?_, ?_⟩
  · intro found
    by_contra loose
    obtain ⟨front, back, hidden⟩ := Text.hidden_of_not_firm loose
    let text := String.ofList (front ++ search.toList ++ back)
    have whole : text.toList = front ++ search.toList ++ back := String.toList_ofList
    have stands : StandsIn search text := ⟨front, back, whole.symm⟩
    have shown := found (Tables.single text) 1 {} _ (soleItem_shown text) (.inl stands)
    have finds : Tables.Finds search text := (Tables.mem_shown_search.1 shown).2.elim id id
    rw [Tables.Finds, Text.lower, Text.lower, whole] at finds
    exact hidden finds
  · intro firm t viewer q item shown stands
    exact steady t viewer q item shown (stands.imp (·.steady firm) (·.steady firm))

/-- The final sigma of a word is found where the word ends. -/
theorem word_with_final_sigma_found :
    StandsSteadyIn "ΟΔΟΣ" "Η ΟΔΟΣ ΜΟΥ" ∧ ¬Firm "ΟΔΟΣ".toList ∧
      soleItem "Η ΟΔΟΣ ΜΟΥ" ∈ (Tables.single "Η ΟΔΟΣ ΜΟΥ").shown 1 { search := "ΟΔΟΣ" } := by
  have stands : StandsSteadyIn "ΟΔΟΣ" "Η ΟΔΟΣ ΜΟΥ" := by
    refine ⟨"Η ".toList, " ΜΟΥ".toList, by decide, fun before after split => ?_⟩
    have last : "ΟΔΟ".toList ++ 'Σ' :: [] = before ++ 'Σ' :: after := split
    obtain ⟨rfl, _, rfl⟩ := (List.append_cons_inj_of_notMem (by decide) List.not_mem_nil).1 last
    decide +kernel
  refine ⟨stands, fun firm => ?_, ?_⟩
  · have undecided : ¬Text.Decided "ΟΔΟ".toList.reverse [] := by
      unfold Text.Decided
      decide +kernel
    exact undecided (firm "ΟΔΟ".toList [] (by decide))
  · exact (literal_matches_found "ΟΔΟΣ").1 _ 1 {} _ (soleItem_shown _) (.inl stands)

/-- A capital sigma at the end of a word is not found by a search for the letter alone. -/
theorem sigma_at_word_end_missed :
    Feed.Params.query { search := some "Σ" } = .ok { search := "Σ" } ∧ StandsIn "Σ" "ΑΣ" ∧
      (Tables.single "ΑΣ").shown 1 {} = [soleItem "ΑΣ"] ∧
      (Tables.single "ΑΣ").shown 1 { search := "Σ" } = [] := by
  refine ⟨rfl, ⟨['Α'], [], by decide⟩, by decide +kernel, by decide +kernel⟩

end Store

end Agora
