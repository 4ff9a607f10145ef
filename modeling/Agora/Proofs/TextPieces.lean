import Agora.Credential.Scheme

set_option autoImplicit false

namespace Agora

namespace Text

/-- The text neither begins nor ends with a blank. -/
structure Trimmed (cs : List Char) : Prop where
  first : ∀ c ∈ cs.head?, isBlank c = false
  last : ∀ c ∈ cs.getLast?, isBlank c = false

theorem trimmed_of_no_blank {cs : List Char} (none : ∀ c ∈ cs, isBlank c = false) :
    Trimmed cs where
  first c first := none c (List.mem_of_mem_head? first)
  last c last := none c (List.mem_of_getLast? last)

theorem dropWhile_of_first {cs : List Char} (first : ∀ c ∈ cs.head?, isBlank c = false) :
    cs.dropWhile isBlank = cs := by
  cases cs with
  | nil => rfl
  | cons c rest => exact List.dropWhile_cons_of_neg (by simp [first c rfl])

theorem first_dropWhile (cs : List Char) :
    ∀ c ∈ (cs.dropWhile isBlank).head?, isBlank c = false := by
  intro c first
  have stops := List.head?_dropWhile_not isBlank cs
  rw [Option.mem_def.1 first] at stops
  exact stops

theorem trimEnd_append {mid right : List Char} (last : ∀ c ∈ mid.getLast?, isBlank c = false)
    (blank : ∀ c ∈ right, isBlank c = true) : trimEnd (mid ++ right) = mid := by
  have ends : ∀ c ∈ mid.reverse.head?, isBlank c = false := by
    rw [List.head?_reverse]
    exact last
  rw [trimEnd, List.reverse_append,
    List.dropWhile_append_of_pos fun c inside => blank c (List.mem_reverse.1 inside),
    dropWhile_of_first ends, List.reverse_reverse]

theorem trimEnd_parts (cs : List Char) :
    ∃ right, cs = trimEnd cs ++ right ∧ ∀ c ∈ right, isBlank c = true := by
  refine ⟨(cs.reverse.takeWhile isBlank).reverse, ?_, fun c inside => ?_⟩
  · rw [trimEnd, ← List.reverse_append, List.takeWhile_append_dropWhile, List.reverse_reverse]
  · exact List.all_eq_true.1 List.all_takeWhile c (List.mem_reverse.1 inside)

/-- Between blanks, a text that is trimmed is what remains. -/
theorem trim_between {left mid right : List Char} (before : ∀ c ∈ left, isBlank c = true)
    (trimmed : Trimmed mid) (after : ∀ c ∈ right, isBlank c = true) :
    trim (left ++ mid ++ right) = mid := by
  rw [trim, List.append_assoc, List.dropWhile_append_of_pos before]
  cases mid with
  | nil =>
    have gone : (right ++ []).dropWhile isBlank = [] := List.dropWhile_append_of_pos after
    rw [List.append_nil] at gone
    rw [List.nil_append, gone]
    rfl
  | cons c rest =>
    have first : ∀ d ∈ (c :: rest ++ right).head?, isBlank d = false := trimmed.first
    rw [dropWhile_of_first first]
    exact trimEnd_append trimmed.last after

/-- Every text is its trimmed part between blanks. -/
theorem trim_parts (cs : List Char) :
    Trimmed (trim cs) ∧ ∃ left right, cs = left ++ trim cs ++ right ∧
      (∀ c ∈ left, isBlank c = true) ∧ ∀ c ∈ right, isBlank c = true := by
  obtain ⟨right, parts, after⟩ := trimEnd_parts (cs.dropWhile isBlank)
  refine ⟨⟨fun c first => ?_, fun c last => ?_⟩, cs.takeWhile isBlank, right, ?_, ?_, after⟩
  · apply first_dropWhile cs c
    rw [parts, List.head?_append, ← trim, Option.mem_def.1 first]
    rfl
  · rw [trim, trimEnd, List.getLast?_reverse] at last
    exact first_dropWhile _ c last
  · rw [List.append_assoc, trim, ← parts, List.takeWhile_append_dropWhile]
  · exact fun c inside => List.all_eq_true.1 List.all_takeWhile c inside

end Text

namespace Credential

theorem splitFirst?_append {c : Char} {before : List Char} (first : c ∉ before)
    (after : List Char) : splitFirst? c (before ++ c :: after) = some (before, after) := by
  have keeps : ∀ d ∈ before, decide (d ≠ c) = true := fun d inside =>
    decide_eq_true fun same => first (same ▸ inside)
  have taken : (before ++ c :: after).takeWhile (fun d => decide (d ≠ c)) = before := by
    rw [List.takeWhile_append_of_pos keeps, List.takeWhile_cons_of_neg (by simp), List.append_nil]
  have more : before.length < (before ++ c :: after).length := by simp
  rw [splitFirst?, taken, if_pos more, ← List.drop_drop, List.drop_left]
  rfl

theorem splitFirst?_of_not_mem {c : Char} {cs : List Char} (missing : c ∉ cs) :
    splitFirst? c cs = none := by
  have keeps : ∀ d ∈ cs, decide (d ≠ c) = true := fun d inside =>
    decide_eq_true fun same => missing (same ▸ inside)
  have taken : cs.takeWhile (fun d => decide (d ≠ c)) = cs := by
    have all : (cs ++ []).takeWhile (fun d => decide (d ≠ c)) = cs ++ [] :=
      List.takeWhile_append_of_pos keeps
    rwa [List.append_nil] at all
  rw [splitFirst?, taken]
  exact if_neg (Nat.lt_irrefl _)

end Credential

end Agora
