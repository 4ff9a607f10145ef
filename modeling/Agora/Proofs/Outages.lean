import Agora.Proofs.DistinctAccounts
import Agora.Proofs.OperationsInPlace

set_option autoImplicit false

namespace Agora.Store

/-- An operation that was made, and its answer. -/
structure Reply where
  event : Event
  answer : Except Error event.call.Answer

/-- The answers to all operations of a course, in order. -/
def replies : Store → List Turn → List Reply := courseYields fun s e => some ⟨e, e.answer s⟩

/-- The answers to those operations of a course that pass a test on what they find, in order. -/
def repliesWhere (passes : Store → Event → Bool) : Store → List Turn → List Reply :=
  courseYields fun s e => if passes s e then some ⟨e, e.answer s⟩ else none

/-- A course without the operations that do not pass a test on what they find. -/
def thinned (passes : Store → Event → Bool) : Store → List Turn → List Turn
  | _, [] => []
  | s, .made e :: rest =>
    if passes s e then .made e :: thinned passes (e.next s) rest
    else thinned passes (e.next s) rest
  | s, .switched up :: rest => .switched up :: thinned passes { s with available := up } rest

def online (s : Store) (_ : Event) : Bool := s.available

/-- The operation succeeds. -/
def succeeds (s : Store) (e : Event) : Bool := (e.answer s).isOk

theorem next_of_offline {s : Store} {e : Event} (down : online s e = false) : e.next s = s :=
  congrArg Prod.snd (perform_of_offline down)

theorem next_of_failed {s : Store} {e : Event} (fails : succeeds s e = false) : e.next s = s := by
  cases failed : e.answer s with
  | ok a => rw [succeeds, failed] at fails; cases fails
  | error error => exact perform_of_failed failed

/-- Operations that change nothing can be left out: the others find what they would have found. -/
theorem course_thinned {passes : Store → Event → Bool}
    (idle : ∀ s e, passes s e = false → e.next s = s) (s : Store) (turns : List Turn) :
    course s (thinned passes s turns) = course s turns ∧
      replies s (thinned passes s turns) = repliesWhere passes s turns := by
  induction turns generalizing s with
  | nil => exact ⟨rfl, rfl⟩
  | cons turn rest ih =>
    cases turn with
    | switched up => exact ih { s with available := up }
    | made e =>
      obtain ⟨ends, answers⟩ := ih (e.next s)
      by_cases kept : passes s e = true
      · rw [thinned, if_pos kept]
        refine ⟨ends, ?_⟩
        simp only [replies, repliesWhere, courseYields, kept, ↓reduceIte] at answers ⊢
        rw [answers]
      · rw [thinned, if_neg kept]
        have same := idle s e (Bool.eq_false_iff.2 kept)
        have unseen : repliesWhere passes s (.made e :: rest) =
            repliesWhere passes (e.next s) rest := by
          simp only [repliesWhere, courseYields, kept, Bool.false_eq_true, ↓reduceIte,
            Option.toList_none, List.nil_append]
        rw [unseen]
        show course s _ = course (e.next s) rest ∧ _
        rw [same] at ends answers ⊢
        exact ⟨ends, answers⟩

/-- An operation that fails, worked out in place, leaves the store as it was, and while the store is
offline all of them fail. So no course of a store shows which operations were made during outages,
or failed otherwise: without them it ends with the same store, and the others have the same
answers. -/
theorem outages_leave_no_trace (s : Store) :
    (∀ now c, (Call.inPlace now c).on s = s.perform now c) ∧
    (∀ now c e, ((Call.inPlace now c).on s).1 = .error e → ((Call.inPlace now c).on s).2 = s) ∧
    (s.available = false →
      ∀ now c, ((Call.inPlace now c).on s).1 = .error (.unavailable .offline)) ∧
    ∀ turns,
      (course s (thinned online s turns) = course s turns ∧
        replies s (thinned online s turns) = repliesWhere online s turns) ∧
      (course s (thinned succeeds s turns) = course s turns ∧
        replies s (thinned succeeds s turns) = repliesWhere succeeds s turns) := by
  have same (now : Time.Stamp) (c : Call) := InPlace.inPlace_eq now s c
  refine ⟨same, fun now c e failed => ?_, fun down now c => ?_, fun turns =>
    ⟨course_thinned (fun _ _ => next_of_offline) s turns,
      course_thinned (fun _ _ => next_of_failed) s turns⟩⟩
  · rw [same] at failed ⊢
    exact perform_of_failed failed
  · rw [same, perform_of_offline down]

namespace Sample

/-- A post is made, an outage follows in which another is, and then somebody deletes a third. -/
def troubled : List Turn :=
  [.made ⟨⟨0, 0⟩, .createPost 1 "first" "" []⟩, .switched false,
    .made ⟨⟨1, 0⟩, .createPost 1 "second" "" []⟩, .switched true, .made ⟨⟨2, 0⟩, .deletePost 3⟩,
    .made ⟨⟨3, 0⟩, .createPost 1 "third" "" []⟩]

end Sample

theorem troubled_posts :
    ((Call.inPlace ⟨0, 0⟩ (.deletePost 3)).on {}).2 = {} ∧
    ((Call.inPlace ⟨0, 0⟩ (.createPost 1 "" "" [])).on { available := false }).1 =
      .error (.unavailable .offline) ∧
    (thinned online {} Sample.troubled).length = 5 ∧
    (course {} (thinned online {} Sample.troubled)).tables.posts.rows.map (·.id) = [1, 2] := by
  obtain ⟨_, failed, _, runs⟩ := outages_leave_no_trace {}
  refine ⟨failed ⟨0, 0⟩ (.deletePost 3) .notFound rfl,
    (outages_leave_no_trace { available := false }).2.2.1 rfl _ _, rfl, ?_⟩
  rw [(runs Sample.troubled).1.1]
  rfl

end Agora.Store
