import Agora.Proofs.StoreFrame

set_option autoImplicit false

namespace Agora.Store

open Time (Stamp)

structure Event where
  now : Stamp
  call : Call

namespace Event

def answer (s : Store) (e : Event) : Except Error e.call.Answer := (s.perform e.now e.call).1

def next (s : Store) (e : Event) : Store := (s.perform e.now e.call).2

end Event

/-- The store after a history. -/
def after (s : Store) (history : List Event) : Store := history.foldl Event.next s

def ofHistory (history : List Event) : Store := after {} history

/-- What the operations of a history yield on the stores that they find, in order. -/
def yields {β : Type} (find : Store → Event → Option β) : Store → List Event → List β
  | _, [] => []
  | s, e :: rest => (find s e).toList ++ yields find (e.next s) rest

@[simp] theorem after_append (s : Store) (first second : List Event) :
    s.after (first ++ second) = (s.after first).after second := List.foldl_append

theorem after_concat (s : Store) (history : List Event) (e : Event) :
    s.after (history ++ [e]) = e.next (s.after history) := by
  rw [after_append]
  rfl

/-- What every operation keeps, every history keeps. -/
theorem after_induction {P : Store → Prop} (step : ∀ s e, P s → P (Event.next s e))
    (history : List Event) {s : Store} (start : P s) : P (s.after history) := by
  induction history generalizing s with
  | nil => exact start
  | cons e rest ih => exact ih (step s e start)

theorem ofHistory_concat (history : List Event) (e : Event) :
    ofHistory (history ++ [e]) = e.next (ofHistory history) := after_concat _ history e

/-- A new store answers, and goes on to. -/
@[simp] theorem ofHistory_available (history : List Event) :
    (ofHistory history).available = true := by
  refine after_induction (P := fun s => s.available = true) ?_ history rfl
  intro s e up
  rw [Event.next, perform_available, up]

variable {β : Type} (find : Store → Event → Option β)

theorem yields_append (s : Store) (first second : List Event) :
    yields find s (first ++ second) =
      yields find s first ++ yields find (s.after first) second := by
  induction first generalizing s with
  | nil => rfl
  | cons e rest ih =>
    simp only [List.cons_append, yields, ih, List.append_assoc]
    rfl

theorem yields_concat (s : Store) (history : List Event) (e : Event) :
    yields find s (history ++ [e]) =
      yields find s history ++ (find (s.after history) e).toList := by
  rw [yields_append]
  simp only [yields, List.append_nil]

end Agora.Store
