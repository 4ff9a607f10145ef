set_option autoImplicit false

namespace Agora.Table

@[ext] structure Directory (κ ν : Type) where
  entries : List (κ × ν) := []
  distinct : entries.Pairwise (fun a b => a.1 ≠ b.1) := by exact .nil

namespace Directory

variable {κ ν : Type}

def empty : Directory κ ν := {}

instance : Inhabited (Directory κ ν) := ⟨empty⟩

instance [DecidableEq κ] [DecidableEq ν] : DecidableEq (Directory κ ν) := fun a b =>
  if same : a.entries = b.entries then isTrue (Directory.ext same)
  else isFalse fun equal => same (congrArg entries equal)

def size (d : Directory κ ν) : Nat := d.entries.length

def filter (keep : κ → ν → Bool) (d : Directory κ ν) : Directory κ ν where
  entries := d.entries.filter fun e => keep e.1 e.2
  distinct := d.distinct.filter _

variable [DecidableEq κ]

def get? (d : Directory κ ν) (key : κ) : Option ν :=
  (d.entries.find? fun e => e.1 = key).map (·.2)

def contains (d : Directory κ ν) (key : κ) : Bool := (d.get? key).isSome

/-- The entries but the one under a key. -/
def erase (d : Directory κ ν) (key : κ) : Directory κ ν := d.filter fun k _ => k ≠ key

/-- File a value under a key in place of any before. -/
def set (d : Directory κ ν) (key : κ) (value : ν) : Directory κ ν where
  entries := (d.erase key).entries ++ [(key, value)]
  distinct := by
    refine List.pairwise_append.2 ⟨(d.erase key).distinct, List.pairwise_singleton _ _, ?_⟩
    intro a kept b added
    simp only [erase, filter, List.mem_filter, decide_eq_true_eq] at kept
    simp only [List.mem_singleton] at added
    exact added ▸ kept.2

/-- The entries of a list of pairs, a later one replacing an earlier one of the same key. -/
def ofList (pairs : List (κ × ν)) : Directory κ ν :=
  pairs.foldl (fun d pair => d.set pair.1 pair.2) empty

theorem get?_empty (key : κ) : (empty : Directory κ ν).get? key = none := rfl

theorem get?_filter (d : Directory κ ν) (keep : κ → ν → Bool) (key : κ) :
    (d.filter keep).get? key = (d.get? key).filter (keep key) := by
  obtain ⟨entries, distinct⟩ := d
  simp only [get?, filter]
  induction entries with
  | nil => rfl
  | cons e rest ih =>
    obtain ⟨k, v⟩ := e
    obtain ⟨apart, distinct⟩ := List.pairwise_cons.1 distinct
    have ih := ih distinct
    by_cases same : k = key
    · subst same
      have missing : rest.find? (fun e => decide (e.1 = k)) = none := by
        simp only [List.find?_eq_none, decide_eq_true_eq]
        exact fun other inside equal => apart other inside equal.symm
      rw [missing] at ih
      cases kept : keep k v
      · rw [List.filter_cons_of_neg (by simp [kept]), ih]
        simp [kept, Option.filter]
      · simp [kept, Option.filter]
    · have step : List.find? (fun e => decide (e.1 = key)) ((k, v) :: rest) =
          List.find? (fun e => decide (e.1 = key)) rest := by simp [same]
      rw [step, ← ih]
      cases kept : keep k v <;> simp [kept, same]

theorem get?_erase (d : Directory κ ν) (key other : κ) :
    (d.erase key).get? other = if other = key then none else d.get? other := by
  rw [erase, get?_filter]
  by_cases same : other = key <;> cases d.get? other <;> simp [same, Option.filter]

theorem get?_set (d : Directory κ ν) (key other : κ) (value : ν) :
    (d.set key value).get? other = if other = key then some value else d.get? other := by
  have erased := get?_erase d key other
  simp only [get?, set, List.find?_append] at erased ⊢
  by_cases same : other = key
  · simp only [same, if_true, Option.map_eq_none_iff] at erased ⊢
    simp [erased]
  · rw [if_neg same] at erased ⊢
    rw [← erased]
    have apart : ¬ key = other := fun equal => same equal.symm
    simp [apart]

end Directory

end Agora.Table
