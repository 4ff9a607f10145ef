/-!
Rows under numbers that are given out in increasing order and never twice. A row carries its own
number; changing a row keeps it, and taking a row out leaves its number unused for good.
-/

set_option autoImplicit false

namespace Agora.Table

/-- A row knows its number. -/
class Numbered (α : Type) where
  number : α → Int

export Numbered (number)

/-- Rows in the order of their numbers, all of them below the next one. -/
@[ext] structure Ledger (α : Type) [Numbered α] where
  next : Int := 1
  rows : List α := []
  ordered : rows.Pairwise (fun a b => number a < number b) := by exact .nil
  below : ∀ row ∈ rows, number row < next := by exact fun _ inside => nomatch inside
  positive : ∀ row ∈ rows, 0 < number row := by exact fun _ inside => nomatch inside
  nextPositive : 0 < next := by decide

namespace Ledger

variable {α : Type} [Numbered α]

def empty : Ledger α := {}

instance : Inhabited (Ledger α) := ⟨empty⟩

instance [DecidableEq α] : DecidableEq (Ledger α) := fun a b =>
  if same : a.next = b.next ∧ a.rows = b.rows then isTrue (Ledger.ext same.1 same.2)
  else isFalse fun equal => same ⟨congrArg next equal, congrArg rows equal⟩

def get? (l : Ledger α) (id : Int) : Option α := l.rows.find? fun row => number row = id

def contains (l : Ledger α) (id : Int) : Bool := (l.get? id).isSome

/-- Append the row that `make` builds for the next number. -/
def add (l : Ledger α) (make : Int → α) (numbered : ∀ id, number (make id) = id := by
    intro; rfl) : Ledger α where
  next := l.next + 1
  rows := l.rows ++ [make l.next]
  ordered := by
    refine List.pairwise_append.2 ⟨l.ordered, List.pairwise_singleton _ _, ?_⟩
    intro row inside last added
    simp only [List.mem_singleton] at added
    rw [added, numbered]
    exact l.below row inside
  below := by
    intro row inside
    rcases List.mem_append.1 inside with old | added
    · exact Int.lt_add_one_of_le (Int.le_of_lt (l.below row old))
    · simp only [List.mem_singleton] at added
      rw [added, numbered]
      exact Int.lt_succ l.next
  positive := by
    intro row inside
    rcases List.mem_append.1 inside with old | added
    · exact l.positive row old
    · simp only [List.mem_singleton] at added
      rw [added, numbered]
      exact l.nextPositive
  nextPositive := Int.lt_add_one_of_le (Int.le_of_lt l.nextPositive)

def filter (l : Ledger α) (keep : α → Bool) : Ledger α where
  next := l.next
  rows := l.rows.filter keep
  ordered := l.ordered.filter _
  below := fun row inside => l.below row (List.mem_filter.1 inside).1
  positive := fun row inside => l.positive row (List.mem_filter.1 inside).1
  nextPositive := l.nextPositive

def remove (l : Ledger α) (id : Int) : Ledger α := l.filter fun row => number row ≠ id

def modify (l : Ledger α) (id : Int) (change : α → α)
    (keeps : ∀ row, number (change row) = number row := by intro; rfl) : Ledger α where
  next := l.next
  rows := l.rows.map fun row => if number row = id then change row else row
  ordered := by
    refine List.pairwise_map.2 (l.ordered.imp ?_)
    intro a b less
    split <;> split <;> simpa [keeps] using less
  below := by
    intro row inside
    obtain ⟨old, found, rfl⟩ := List.mem_map.1 inside
    have bound := l.below old found
    split <;> simpa [keeps] using bound
  positive := by
    intro row inside
    obtain ⟨old, found, rfl⟩ := List.mem_map.1 inside
    have bound := l.positive old found
    split <;> simpa [keeps] using bound
  nextPositive := l.nextPositive

theorem number_of_get? {l : Ledger α} {id : Int} {row : α} (found : l.get? id = some row) :
    number row = id := by
  simpa using List.find?_some found

theorem mem_of_get? {l : Ledger α} {id : Int} {row : α} (found : l.get? id = some row) :
    row ∈ l.rows := List.mem_of_find?_eq_some found

theorem get?_of_mem {l : Ledger α} {row : α} (inside : row ∈ l.rows) :
    l.get? (number row) = some row := by
  obtain ⟨next, rows, ordered, below, positive, nextPositive⟩ := l
  simp only [get?] at inside ⊢
  clear below positive
  induction rows with
  | nil => cases inside
  | cons first rest ih =>
    obtain ⟨before, ordered⟩ := List.pairwise_cons.1 ordered
    rcases List.mem_cons.1 inside with rfl | inside
    · simp only [List.find?_cons, decide_true]
    · have apart : number first ≠ number row := Int.ne_of_lt (before row inside)
      simp only [List.find?_cons, apart, decide_false]
      exact ih ordered inside

theorem lt_next_of_get? {l : Ledger α} {id : Int} {row : α} (found : l.get? id = some row) :
    id < l.next := by
  have below := l.below row (mem_of_get? found)
  rwa [number_of_get? found] at below

theorem get?_add (l : Ledger α) (make : Int → α) (numbered : ∀ id, number (make id) = id)
    (id : Int) :
    (l.add make numbered).get? id = if id = l.next then some (make l.next) else l.get? id := by
  simp only [get?, add, List.find?_append]
  by_cases same : id = l.next
  · have missing : l.rows.find? (fun row => decide (number row = l.next)) = none := by
      simp only [List.find?_eq_none, decide_eq_true_eq]
      exact fun row inside equal => Int.ne_of_lt (l.below row inside) equal
    simp [same, missing, numbered]
  · have apart : ¬ l.next = id := fun equal => same equal.symm
    simp [same, numbered, apart]

theorem get?_filter_of_keep (l : Ledger α) (keep : α → Bool) {id : Int} {row : α}
    (found : l.get? id = some row) (kept : keep row = true) :
    (l.filter keep).get? id = some row := by
  obtain ⟨next, rows, ordered, below, positive, nextPositive⟩ := l
  simp only [get?, filter] at found ⊢
  induction rows with
  | nil => exact found
  | cons first rest ih =>
    obtain ⟨_, ordered⟩ := List.pairwise_cons.1 ordered
    by_cases same : number first = id
    · simp only [List.find?_cons, same, decide_true, Option.some.injEq] at found
      subst found
      simp [kept, same]
    · simp only [List.find?_cons, same, decide_false] at found
      have later := ih ordered (fun r i => below r (.tail _ i)) (fun r i => positive r (.tail _ i))
        found
      cases pass : keep first
      · simpa [List.filter_cons, pass, -List.find?_filter] using later
      · simpa [List.filter_cons, pass, same, -List.find?_filter] using later

theorem get?_remove (l : Ledger α) (id other : Int) :
    (l.remove id).get? other = if other = id then none else l.get? other := by
  by_cases same : other = id
  · subst same
    simp [get?, remove, filter, List.find?_eq_none]
  · rw [if_neg same]
    cases found : l.get? other with
    | some row =>
      refine get?_filter_of_keep l _ found ?_
      rw [number_of_get? found]
      simpa using same
    | none =>
      simp only [get?, remove, filter, List.find?_eq_none] at found ⊢
      exact fun row inside => found row (List.mem_filter.1 inside).1

theorem get?_modify (l : Ledger α) (id other : Int) (change : α → α)
    (keeps : ∀ row, number (change row) = number row) :
    (l.modify id change keeps).get? other =
      if other = id then (l.get? id).map change else l.get? other := by
  obtain ⟨next, rows, ordered, below, positive, nextPositive⟩ := l
  simp only [get?, modify]
  clear ordered below positive
  induction rows with
  | nil => simp
  | cons first rest ih =>
    simp only [List.map_cons, List.find?_cons]
    by_cases here : number first = id
    · by_cases same : other = id
      · simp [here, same, keeps]
      · have apart : ¬ id = other := fun equal => same equal.symm
        simp only [same, if_false] at ih
        simp [here, same, keeps, apart, ih]
    · by_cases same : other = id
      · simp only [same, if_true] at ih ⊢
        simp [here, ih]
      · simp only [same, if_false] at ih ⊢
        rw [if_neg here, ih]

end Ledger

end Agora.Table
