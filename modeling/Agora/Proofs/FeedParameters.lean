import Agora.Feed.Query
import Agora.Proofs.TextPieces

/-!
What may be asked of a feed. Each parameter has a rule of its own; parameters that break rules are
refused by the first of these, and all others are taken as they are given. A text of tags is a row
of parts between commas, each of which is blank or holds one tag between blanks; it is read as these
tags in their order, whatever blanks and blank parts are among them.
-/

set_option autoImplicit false

namespace Agora.Feed

open Text (isBlank trim Trimmed)

/-- A tag is a text that is not empty, without commas and without blanks at its ends. -/
structure IsTag (tag : String) : Prop where
  some : tag ≠ ""
  whole : ',' ∉ tag.toList
  trimmed : Trimmed tag.toList

/-- The tags that a row of parts holds, in their order. -/
inductive Holds : List (List Char) → List String → Prop where
  | nil : Holds [] []
  | blank {part : List Char} {parts : List (List Char)} {tags : List String}
      (blank : ∀ c ∈ part, isBlank c = true) (rest : Holds parts tags) : Holds (part :: parts) tags
  | tag {before after : List Char} {parts : List (List Char)} {tag : String} {tags : List String}
      (left : ∀ c ∈ before, isBlank c = true) (proper : IsTag tag)
      (right : ∀ c ∈ after, isBlank c = true) (rest : Holds parts tags) :
      Holds ((before ++ tag.toList ++ after) :: parts) (tag :: tags)

/-- A text lists tags: they stand in the parts between its commas. -/
def Lists (text : String) (tags : List String) : Prop :=
  ∃ parts, text.toList = [','].intercalate parts ∧ Holds parts tags

/-- What is left of parts without the blanks around them, where anything is. -/
def tagsOf (parts : List (List Char)) : List String :=
  ((parts.map trim).filter (!·.isEmpty)).map String.ofList

theorem tagsOf_blank {part : List Char} (empty : trim part = []) (parts : List (List Char)) :
    tagsOf (part :: parts) = tagsOf parts := by
  rw [tagsOf, List.map_cons, empty]
  rfl

theorem tagsOf_tag {part : List Char} (some : trim part ≠ []) (parts : List (List Char)) :
    tagsOf (part :: parts) = String.ofList (trim part) :: tagsOf parts := by
  have kept : (!(trim part).isEmpty) = true := by
    rw [List.isEmpty_eq_false_iff.2 some]
    rfl
  simp only [tagsOf, List.map_cons, List.filter_cons, kept, if_true]

theorem trim_blank {part : List Char} (blank : ∀ c ∈ part, isBlank c = true) : trim part = [] := by
  have between := Text.trim_between blank
    (Text.trimmed_of_no_blank (List.forall_mem_nil _)) (List.forall_mem_nil _)
  rwa [List.append_nil, List.append_nil] at between

theorem no_comma_of_blank {part : List Char} (blank : ∀ c ∈ part, isBlank c = true) :
    ',' ∉ part := by
  intro inside
  exact absurd (blank ',' inside) (by decide)

theorem no_comma_of_mem_splitOn {cs part : List Char} (found : part ∈ cs.splitOn ',') :
    ',' ∉ part := by
  induction cs generalizing part with
  | nil =>
    rw [List.splitOn_nil, List.mem_singleton] at found
    rw [found]
    exact List.not_mem_nil
  | cons c cs ih =>
    rw [List.splitOn_cons_eq_if_modifyHead] at found
    split at found
    · rcases List.mem_cons.1 found with rfl | later
      · exact List.not_mem_nil
      · exact ih later
    · rename_i other
      have differs : ',' ≠ c := fun same => other (beq_iff_eq.2 same.symm)
      cases split : cs.splitOn ',' with
      | nil => exact absurd split (List.splitOn_ne_nil _ _)
      | cons first rest =>
        rw [split] at found ih
        rcases List.mem_cons.1 found with rfl | later
        · exact List.not_mem_cons_of_ne_of_not_mem differs (ih (.head _))
        · exact ih (.tail _ later)

namespace Holds

variable {parts : List (List Char)} {tags : List String}

theorem proper (holds : Holds parts tags) : ∀ tag ∈ tags, IsTag tag := by
  induction holds with
  | nil => exact List.forall_mem_nil _
  | blank _ _ ih => exact ih
  | tag _ proper _ _ ih => exact List.forall_mem_cons.2 ⟨proper, ih⟩

theorem no_comma (holds : Holds parts tags) : ∀ part ∈ parts, ',' ∉ part := by
  induction holds with
  | nil => exact List.forall_mem_nil _
  | blank blank _ ih => exact List.forall_mem_cons.2 ⟨no_comma_of_blank blank, ih⟩
  | tag left proper right _ ih =>
    refine List.forall_mem_cons.2 ⟨?_, ih⟩
    simp only [List.mem_append, not_or]
    exact ⟨⟨no_comma_of_blank left, proper.whole⟩, no_comma_of_blank right⟩

theorem read (holds : Holds parts tags) : tagsOf parts = tags := by
  induction holds with
  | nil => rfl
  | blank blank _ ih => rw [tagsOf_blank (trim_blank blank), ih]
  | @tag before after parts tag tags left proper right _ ih =>
    have between : trim (before ++ tag.toList ++ after) = tag.toList :=
      Text.trim_between left proper.trimmed right
    have some : trim (before ++ tag.toList ++ after) ≠ [] := by
      rw [between]
      exact fun empty => proper.some (String.toList_eq_nil_iff.1 empty)
    rw [tagsOf_tag some, between, String.ofList_toList, ih]

end Holds

theorem holds_tagsOf {parts : List (List Char)} (whole : ∀ part ∈ parts, ',' ∉ part) :
    Holds parts (tagsOf parts) := by
  induction parts with
  | nil => exact .nil
  | cons part parts ih =>
    obtain ⟨here, later⟩ := List.forall_mem_cons.1 whole
    obtain ⟨trimmed, before, after, split, left, right⟩ := Text.trim_parts part
    by_cases empty : trim part = []
    · rw [tagsOf_blank empty]
      refine .blank (fun c inside => ?_) (ih later)
      rw [split, empty, List.append_nil] at inside
      exact (List.mem_append.1 inside).elim (left c) (right c)
    · have proper : IsTag (String.ofList (trim part)) := by
        refine ⟨fun none => empty (String.ofList_eq_empty_iff.1 none), ?_, ?_⟩
        · rw [String.toList_ofList]
          intro inside
          rw [split] at here
          exact here (List.mem_append_left _ (List.mem_append_right _ inside))
        · rwa [String.toList_ofList]
      have held := Holds.tag left proper right (ih later)
      rw [String.toList_ofList, ← split] at held
      rwa [tagsOf_tag empty]

/-- A text is read as the tags that it lists, and as nothing else. -/
theorem splitTags_eq_iff {text : String} {tags : List String} :
    Params.splitTags text = tags ↔ Lists text tags := by
  have split : Params.splitTags text = tagsOf (text.toList.splitOn ',') := rfl
  rw [split]
  constructor
  · rintro rfl
    exact ⟨_, (List.intercalate_splitOn ',').symm, holds_tagsOf fun part => no_comma_of_mem_splitOn⟩
  · rintro ⟨parts, joined, holds⟩
    rw [joined]
    cases parts with
    | nil =>
      cases holds
      rfl
    | cons part parts =>
      rw [List.splitOn_intercalate ',' holds.no_comma (List.cons_ne_nil part parts)]
      exact holds.read

/-- Tags that are joined by commas alone are listed. -/
theorem lists_intercalate {tags : List String} (proper : ∀ tag ∈ tags, IsTag tag) :
    Lists (",".intercalate tags) tags := by
  refine ⟨tags.map String.toList, String.toList_intercalate, ?_⟩
  induction tags with
  | nil => exact .nil
  | cons tag tags ih =>
    obtain ⟨here, later⟩ := List.forall_mem_cons.1 proper
    have held := Holds.tag (List.forall_mem_nil _) here (List.forall_mem_nil _) (ih later)
    rwa [List.nil_append, List.append_nil] at held

/-- The number of a rule in the order in which the rules are checked; refusals stand for them. -/
def Refusal.place : Refusal → Nat
  | .limitOutOfRange => 0
  | .negativeOffset => 1
  | .unknownSort _ => 2
  | .tooManyTags => 3
  | .searchTooLong => 4

theorem Refusal.place_le (r : Refusal) : r.place ≤ 4 := by
  cases r <;> simp only [place, Nat.zero_le, Nat.le_refl, Nat.reduceLeDiff]

/-- The parameter that a rule is about. -/
def Refusal.parameter : Refusal → String
  | .limitOutOfRange => "limit"
  | .negativeOffset => "offset"
  | .unknownSort _ => "sort"
  | .tooManyTags => "tags"
  | .searchTooLong => "search"

/-- The words of a refusal name the parameter. -/
theorem Refusal.parameter_named (r : Refusal) :
    ∃ before after, r.message = before ++ r.parameter ++ after := by
  cases r with
  | limitOutOfRange => exact ⟨"", " must be between 1 and 100", by decide +kernel⟩
  | negativeOffset => exact ⟨"", " must not be negative", by decide +kernel⟩
  | unknownSort text =>
    have start : "sort must be 'asc' or 'desc', got '" =
        "" ++ "sort" ++ " must be 'asc' or 'desc', got '" := by decide +kernel
    refine ⟨"", " must be 'asc' or 'desc', got '" ++ (text ++ "'"), ?_⟩
    unfold message parameter
    dsimp only
    rw [← String.append_assoc, ← start, ← String.append_assoc]
    rfl
  | tooManyTags => exact ⟨"at most 5 ", " are allowed", by decide +kernel⟩
  | searchTooLong => exact ⟨"", " must be at most 100 characters", by decide +kernel⟩

namespace Params

/-- Parameters break the rule of a refusal. -/
def Breaks (p : Params) : Refusal → Prop
  | .limitOutOfRange => ∃ n, p.limit = some n ∧ ¬(1 ≤ n ∧ n ≤ 100)
  | .negativeOffset => ∃ n, p.offset = some n ∧ n < 0
  | .unknownSort text => p.sort = some text ∧ text ≠ "asc" ∧ text ≠ "desc"
  | .tooManyTags => ∃ text tags, p.tags = some text ∧ Lists text tags ∧ 5 < tags.length
  | .searchTooLong => ∃ text, p.search = some text ∧ 100 < text.length

/-- Parameters break a rule, and none before it. -/
structure FirstBroken (p : Params) (r : Refusal) : Prop where
  broken : p.Breaks r
  first : ∀ other, p.Breaks other → r.place ≤ other.place

/-- All parameters keep within their limits. -/
structure Within (p : Params) : Prop where
  limit : ∀ n, p.limit = some n → 1 ≤ n ∧ n ≤ 100
  offset : ∀ n, p.offset = some n → 0 ≤ n
  sort : ∀ text, p.sort = some text → text = "asc" ∨ text = "desc"
  tags : ∀ text, p.tags = some text → ∃ tags, Lists text tags ∧ tags.length ≤ 5
  search : ∀ text, p.search = some text → text.length ≤ 100

/-- A query asks for what parameters say. -/
structure Asks (p : Params) (q : Query) : Prop where
  limit : (q.limit : Int) = p.limit.getD 20
  offset : (q.offset : Int) = p.offset.getD 0
  order : q.order = if p.sort = some "asc" then .ascending else .descending
  untagged : p.tags = none → q.tags = []
  tags : ∀ text, p.tags = some text → Lists text q.tags
  search : q.search = p.search.getD ""

variable {p : Params} {r : Refusal} {q : Query}

theorem limit_kept (within : ∀ n, p.limit = some n → 1 ≤ n ∧ n ≤ 100) :
    ∀ r : Refusal, r.place = 0 → ¬p.Breaks r := by
  rintro (_ | _ | _ | _ | _) place ⟨n, given, outside⟩ <;> cases place
  exact outside (within n given)

theorem offset_kept (within : ∀ n, p.offset = some n → 0 ≤ n) :
    ∀ r : Refusal, r.place = 1 → ¬p.Breaks r := by
  rintro (_ | _ | _ | _ | _) place ⟨n, given, negative⟩ <;> cases place
  exact Int.not_le.2 negative (within n given)

theorem sort_kept (within : ∀ text, p.sort = some text → text = "asc" ∨ text = "desc") :
    ∀ r : Refusal, r.place = 2 → ¬p.Breaks r := by
  rintro (_ | _ | text | _ | _) place broken <;> cases place
  obtain ⟨given, up, down⟩ := broken
  exact (within text given).elim up down

theorem tags_kept
    (within : ∀ text, p.tags = some text → ∃ tags, Lists text tags ∧ tags.length ≤ 5) :
    ∀ r : Refusal, r.place = 3 → ¬p.Breaks r := by
  rintro (_ | _ | _ | _ | _) place broken <;> cases place
  obtain ⟨text, tags, given, lists, many⟩ := broken
  obtain ⟨others, lists', few⟩ := within text given
  -- A text lists one row of tags only.
  rw [← splitTags_eq_iff] at lists lists'
  rw [← lists', lists] at few
  exact Nat.not_le_of_lt many few

theorem search_kept (within : ∀ text, p.search = some text → text.length ≤ 100) :
    ∀ r : Refusal, r.place = 4 → ¬p.Breaks r := by
  rintro (_ | _ | _ | _ | _) place broken <;> cases place
  obtain ⟨text, given, long⟩ := broken
  exact Nat.not_le_of_lt long (within text given)

theorem Within.unbroken (within : p.Within) (r : Refusal) : ¬p.Breaks r := by
  cases r with
  | limitOutOfRange => exact limit_kept within.limit _ rfl
  | negativeOffset => exact offset_kept within.offset _ rfl
  | unknownSort text => exact sort_kept within.sort _ rfl
  | tooManyTags => exact tags_kept within.tags _ rfl
  | searchTooLong => exact search_kept within.search _ rfl

theorem FirstBroken.unique {other : Refusal} (one : p.FirstBroken r)
    (another : p.FirstBroken other) : r = other := by
  have place := Nat.le_antisymm (one.first other another.broken) (another.first r one.broken)
  cases r <;> cases other <;> cases place <;> try rfl
  -- Only the refusals of orders differ at one place, and there is but one order.
  exact congrArg _ (Option.some.inj (one.broken.1.symm.trans another.broken.1))

theorem Asks.tags_unique {other : Query} (one : p.Asks q) (another : p.Asks other) :
    q.tags = other.tags := by
  cases given : p.tags with
  | none => rw [one.untagged given, another.untagged given]
  | some text =>
    rw [← splitTags_eq_iff.2 (one.tags text given), splitTags_eq_iff.2 (another.tags text given)]

theorem Asks.unique {other : Query} (one : p.Asks q) (another : p.Asks other) : q = other := by
  have limit := Int.ofNat_inj.1 (one.limit.trans another.limit.symm)
  have offset := Int.ofNat_inj.1 (one.offset.trans another.offset.symm)
  have order := one.order.trans another.order.symm
  have tags := one.tags_unique another
  have search := one.search.trans another.search.symm
  cases q
  cases other
  congr

theorem Asks.proper (asks : p.Asks q) : ∀ tag ∈ q.tags, IsTag tag := by
  cases given : p.tags with
  | none =>
    rw [asks.untagged given]
    exact List.forall_mem_nil _
  | some text =>
    obtain ⟨parts, _, holds⟩ := asks.tags text given
    exact holds.proper

theorem within_of_unbroken (unbroken : ∀ r, ¬p.Breaks r) : p.Within where
  limit n given :=
    Decidable.byContradiction fun outside => unbroken .limitOutOfRange ⟨n, given, outside⟩
  offset n given := Int.not_lt.1 fun negative => unbroken .negativeOffset ⟨n, given, negative⟩
  sort text given := by
    by_cases up : text = "asc"
    · exact .inl up
    · refine .inr (Decidable.byContradiction fun down => ?_)
      exact unbroken (.unknownSort text) ⟨given, up, down⟩
  tags text given := by
    refine ⟨_, splitTags_eq_iff.1 rfl, Nat.le_of_not_lt fun many => ?_⟩
    exact unbroken .tooManyTags ⟨text, _, given, splitTags_eq_iff.1 rfl, many⟩
  search text given := Nat.le_of_not_lt fun long => unbroken .searchTooLong ⟨text, given, long⟩

/-- What the check of a rule comes to: a value that is as it should be where the rule is kept, and
its refusal where it is broken. -/
def Checked {α : Type} (p : Params) (place : Nat) (proper : α → Prop) : Except Refusal α → Prop
  | .ok value => proper value ∧ ∀ r, r.place = place → ¬p.Breaks r
  | .error r => r.place = place ∧ p.Breaks r

theorem limit?_checked :
    p.Checked 0 (fun n : Nat => (n : Int) = p.limit.getD 20) (limit? p.limit) := by
  cases given : p.limit with
  | none => exact ⟨rfl, limit_kept (by rw [given]; nofun)⟩
  | some n =>
    rw [limit?]
    split
    · rename_i inside
      refine ⟨Int.toNat_of_nonneg (by omega), limit_kept ?_⟩
      rw [given]
      exact fun k same => Option.some.inj same ▸ inside
    · rename_i outside
      exact ⟨rfl, n, given, outside⟩

theorem offset?_checked :
    p.Checked 1 (fun n : Nat => (n : Int) = p.offset.getD 0) (offset? p.offset) := by
  cases given : p.offset with
  | none => exact ⟨rfl, offset_kept (by rw [given]; nofun)⟩
  | some n =>
    rw [offset?]
    split
    · rename_i positive
      refine ⟨Int.toNat_of_nonneg positive, offset_kept ?_⟩
      rw [given]
      exact fun k same => Option.some.inj same ▸ positive
    · rename_i negative
      exact ⟨rfl, n, given, Int.not_le.1 negative⟩

theorem order?_checked : p.Checked 2
    (· = if p.sort = some "asc" then .ascending else .descending) (order? p.sort) := by
  cases given : p.sort with
  | none => exact ⟨rfl, sort_kept (by rw [given]; nofun)⟩
  | some text =>
    by_cases down : text = "desc"
    · subst down
      refine ⟨rfl, sort_kept ?_⟩
      rw [given]
      exact fun other same => .inr (Option.some.inj same).symm
    · by_cases up : text = "asc"
      · subst up
        refine ⟨rfl, sort_kept ?_⟩
        rw [given]
        exact fun other same => .inl (Option.some.inj same).symm
      · rw [order?, if_neg down, if_neg up]
        exact ⟨rfl, given, up, down⟩

theorem tags?_checked : p.Checked 3
    (fun tags => (p.tags = none → tags = []) ∧ ∀ text, p.tags = some text → Lists text tags)
    (tags? p.tags) := by
  cases given : p.tags with
  | none => exact ⟨⟨fun _ => rfl, nofun⟩, tags_kept (by rw [given]; nofun)⟩
  | some text =>
    have lists : Lists text (splitTags text) := splitTags_eq_iff.1 rfl
    simp only [tags?]
    split
    · rename_i few
      refine ⟨⟨nofun, fun other same => Option.some.inj same ▸ lists⟩, tags_kept ?_⟩
      rw [given]
      exact fun other same => Option.some.inj same ▸ ⟨_, lists, few⟩
    · rename_i many
      exact ⟨rfl, text, _, given, lists, Nat.lt_of_not_le many⟩

theorem search?_checked : p.Checked 4 (· = p.search.getD "") (search? p.search) := by
  cases given : p.search with
  | none => exact ⟨rfl, search_kept (by rw [given]; nofun)⟩
  | some text =>
    rw [search?]
    split
    · rename_i short
      refine ⟨rfl, search_kept ?_⟩
      rw [given]
      exact fun other same => Option.some.inj same ▸ short
    · rename_i long
      exact ⟨rfl, text, given, Nat.lt_of_not_le long⟩

section

variable {α : Type} {place : Nat} {proper : α → Prop}

theorem Checked.first (checked : p.Checked place proper (.error r))
    (before : ∀ r, r.place < place → ¬p.Breaks r) : p.FirstBroken r where
  broken := checked.2
  first other broken := by
    rw [checked.1]
    exact Nat.le_of_not_lt fun early => before other early broken

theorem Checked.after {value : α} (checked : p.Checked place proper (.ok value))
    (before : ∀ r, r.place < place → ¬p.Breaks r) : ∀ r, r.place < place + 1 → ¬p.Breaks r := by
  intro r early
  rcases Nat.lt_succ_iff_lt_or_eq.1 early with earlier | here
  · exact before r earlier
  · exact checked.2 r here

end

/-- What comes of parameters: what they ask for if they break no rule, and otherwise the refusal of
the first rule that they break. -/
theorem query_spec (p : Params) :
    match p.query with
    | .ok q => (∀ r, ¬p.Breaks r) ∧ p.Asks q
    | .error r => p.FirstBroken r := by
  have limit := limit?_checked (p := p)
  have offset := offset?_checked (p := p)
  have order := order?_checked (p := p)
  have tags := tags?_checked (p := p)
  have search := search?_checked (p := p)
  have none : ∀ r : Refusal, r.place < 0 → ¬p.Breaks r := fun r early => nomatch early
  unfold query
  generalize limit? p.limit = limited at limit ⊢
  generalize offset? p.offset = skipped at offset ⊢
  generalize order? p.sort = ordered at order ⊢
  generalize tags? p.tags = tagged at tags ⊢
  generalize search? p.search = searched at search ⊢
  rcases limited with r | n
  · exact limit.first none
  have none := limit.after none
  rcases skipped with r | k
  · exact offset.first none
  have none := offset.after none
  rcases ordered with r | o
  · exact order.first none
  have none := order.after none
  rcases tagged with r | ts
  · exact tags.first none
  have none := tags.after none
  rcases searched with r | text
  · exact search.first none
  exact ⟨fun r => search.after none r (Nat.lt_succ_of_le r.place_le),
    limit.1, offset.1, order.1, tags.1.1, tags.1.2, search.1⟩

theorem query_ok : p.query = .ok q ↔ p.Within ∧ p.Asks q := by
  have spec := query_spec p
  constructor
  · intro accepted
    rw [accepted] at spec
    exact ⟨within_of_unbroken spec.1, spec.2⟩
  · rintro ⟨within, asks⟩
    cases outcome : p.query with
    | ok other =>
      rw [outcome] at spec
      exact congrArg Except.ok (spec.2.unique asks)
    | error r =>
      rw [outcome] at spec
      exact absurd spec.broken (within.unbroken r)

theorem query_error : p.query = .error r ↔ p.FirstBroken r := by
  have spec := query_spec p
  constructor
  · intro refused
    rwa [refused] at spec
  · intro first
    cases outcome : p.query with
    | ok q =>
      rw [outcome] at spec
      exact absurd first.broken (spec.1 r)
    | error other =>
      rw [outcome] at spec
      exact congrArg Except.error (spec.unique first)

/-- Parameters that are accepted are so with any other text of tags, which stands for the tags that
it lists. -/
theorem query_of_lists {text : String} {tags : List String} (accepted : p.query = .ok q)
    (lists : Lists text tags) (few : tags.length ≤ 5) :
    { p with tags := some text }.query = .ok { q with tags := tags } := by
  obtain ⟨within, asks⟩ := query_ok.1 accepted
  refine query_ok.2 ⟨{ within with tags := ?_ }, { asks with untagged := nofun, tags := ?_ }⟩
  · exact fun other same => Option.some.inj same ▸ ⟨tags, lists, few⟩
  · exact fun other same => Option.some.inj same ▸ lists

/-- How parameters are judged. -/
structure Judged (p : Params) : Prop where
  accepted : (∃ q, p.query = .ok q) ↔ p.Within
  query (q : Query) : p.query = .ok q ↔ p.Within ∧ p.Asks q
  refused (r : Refusal) : p.query = .error r ↔ p.FirstBroken r
  /-- The words of a refusal name the parameter that its rule is about. -/
  named (r : Refusal) : p.query = .error r →
    ∃ before after, r.message = before ++ r.parameter ++ after
  proper (q : Query) : p.query = .ok q → ∀ tag ∈ q.tags, IsTag tag
  /-- Whatever blanks and blank parts are put among tags, they are read as they are. -/
  listed (q : Query) (text : String) (tags : List String) : p.query = .ok q →
    Lists text tags → tags.length ≤ 5 →
    { p with tags := some text }.query = .ok { q with tags := tags }
  joined (tags : List String) : (∀ tag ∈ tags, IsTag tag) → Lists (",".intercalate tags) tags

/-- Parameters are accepted just if all of them keep within their limits, and ask for what they
say; otherwise they are refused by the first rule that they break. -/
theorem accepted_within_limits (p : Params) : p.Judged where
  accepted := by
    refine ⟨fun ⟨q, accepted⟩ => (query_ok.1 accepted).1, fun within => ?_⟩
    have spec := query_spec p
    cases outcome : p.query with
    | ok q => exact ⟨q, rfl⟩
    | error r =>
      rw [outcome] at spec
      exact absurd spec.broken (within.unbroken r)
  query q := query_ok
  refused r := query_error
  named r _ := r.parameter_named
  proper q accepted := (query_ok.1 accepted).2.proper
  listed q text tags := query_of_lists
  joined tags := lists_intercalate

end Params

/-- Blanks of all kinds and blank parts around two tags, one of which has a blank in it. -/
example : Params.splitTags ", rust\t,,\u00A0async  io\u3000, ," = ["rust", "async  io"] := by decide

end Agora.Feed
