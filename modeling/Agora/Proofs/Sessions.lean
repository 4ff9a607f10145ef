import Agora.Proofs.CacheDiscipline

/-!
Sessions: what happens to a service one event after the other, from its start. Whatever every
operation of the store keeps, a session keeps; and at every moment of a session the cache of
identities is coherent.
-/

set_option autoImplicit false

namespace Agora

open Http (Request Response)
open Store (NewUser)
open Time (Span Stamp)

namespace Service

/-- What stays as it is for as long as a service runs. -/
structure Setting where
  config : Config := {}
  hasher : Credential.Hasher := Credential.Password.hasher
  started : Stamp := ⟨0, 0⟩

/-- What may be otherwise for each event: the time of the calendar, how long the store takes for a
call, and what is drawn at random. -/
structure Occasion where
  now : Stamp := ⟨0, 0⟩
  proper : now.Proper := by exact .inl (by decide)
  delay : Span := 0
  draws : Draws := {}

def Sample.start : Occasion := {}

/-- What a request finds on an occasion. -/
def Setting.env (setting : Setting) (o : Occasion) : Env where
  config := setting.config
  hasher := setting.hasher
  now := o.now
  started := setting.started
  delay := o.delay
  draws := o.draws

/-- What may happen to a service. Beside requests, accounts and roles are put into the store from
outside, the store goes offline and comes back, and time passes. -/
inductive Event where
  | request (o : Occasion) (q : Request)
  | seed (o : Occasion) (new : NewUser) (active : Bool)
  | putRole (o : Occasion) (name : String) (level : Int)
  | setAvailable (up : Bool)
  | advance (span : Span)

def Event.next (setting : Setting) (s : State) : Event → State
  | .request o q => (respond (setting.env o) q s).2
  | .seed o new active => (s.perform o.now (.seedUser new active)).2
  | .putRole o name level => (s.perform o.now (.putRole name level)).2
  | .setAvailable up => { s with store := { s.store with available := up } }
  | .advance span => s.advance span

namespace Setting

variable (setting : Setting)

def after (s : State) (history : List Event) : State := history.foldl (Event.next setting) s

/-- The state that a session has come to. -/
def course (history : List Event) : State := setting.after (State.ofConfig setting.config) history

theorem course_append (first second : List Event) :
    setting.course (first ++ second) = setting.after (setting.course first) second :=
  List.foldl_append

theorem course_append_cons (before rest : List Event) (e : Event) :
    setting.course (before ++ e :: rest) =
      setting.after (e.next setting (setting.course before)) rest := by
  rw [course_append]
  rfl

variable {setting}

/-- What every event keeps, a session keeps. -/
theorem after_induction {P : State → Prop} (step : ∀ s e, P s → P (Event.next setting s e))
    (history : List Event) {s : State} (start : P s) : P (setting.after s history) := by
  induction history generalizing s with
  | nil => exact start
  | cons e rest ih => exact ih (step s e start)

end Setting

section

variable {env : Env} {cutoff : Option Span}

/-- What every operation of the store keeps, a plan keeps. -/
theorem Plan.run_store {α : Type} {P : Store → Prop}
    (step : ∀ s c, P s → P (Store.perform env.now s c).2) (p : Plan α) {s : State}
    (start : P s.store) : P (p.run env cutoff s).2.store := by
  induction p generalizing s with
  | done value => exact start
  | halt why => exact start
  | step first next ih =>
    have once : P (first.perform env cutoff s).2.store := by
      cases first with
      | call c =>
        rw [Step.perform]
        rcases performCall_store env cutoff c s with same | made
        · rw [same]
          exact start
        · rw [made]
          exact step s.store c start
      | _ =>
        rw [Step.perform_store env cutoff s rfl]
        exact start
    rw [run]
    split
    · rename_i answer later result
      rw [result] at once
      exact ih answer once
    · rename_i later result
      rwa [result] at once

theorem respond_store {P : Store → Prop} (step : ∀ s c, P s → P (Store.perform env.now s c).2)
    (q : Request) {s : State} (start : P s.store) : P (respond env q s).2.store := by
  by_cases ready : started env q
  · rw [(respond_of_started ready).2]
    exact Plan.run_store step _ start
  · rw [(respond_of_refused ready).2]
    exact start

end

/-- What every operation of the store keeps, and what does not hang on whether the store answers, a
session keeps. -/
theorem Setting.after_store {setting : Setting} {P : Store → Prop}
    (step : ∀ (now : Stamp) s c, now.Proper → P s → P (Store.perform now s c).2)
    (switch : ∀ (s : Store) up, P s → P { s with available := up }) (history : List Event)
    {s : State} (start : P s.store) : P (setting.after s history).store := by
  refine after_induction (P := fun s => P s.store) (fun s e holds => ?_) history start
  cases e with
  | request o q => exact respond_store (fun s c => step o.now s c o.proper) q holds
  | seed o new active => exact step o.now s.store _ o.proper holds
  | putRole o name level => exact step o.now s.store _ o.proper holds
  | setAvailable up => exact switch s.store up holds
  | advance span =>
    rw [Event.next, State.advance, State.rest_store]
    exact holds

theorem Event.next_sound (setting : Setting) {s : State} (sound : Sound s) (e : Event) :
    Sound (e.next setting s) := by
  cases e with
  | request o q => exact respond_sound o.proper q sound
  | seed o new active => exact sound.perform o.proper (.seedUser new active) rfl rfl
  | putRole o name level => exact sound.perform o.proper (.putRole name level) rfl rfl
  | setAvailable up => exact ⟨sound.coherent, sound.dated⟩
  | advance span => exact sound.congr (State.rest_store _) (State.rest_identities _)

/-- At every moment of a session the cache is coherent. -/
theorem Setting.course_sound (setting : Setting) (history : List Event) :
    Sound (setting.course history) :=
  after_induction (P := Sound) (fun _ e sound => e.next_sound setting sound) history
    (sound_ofConfig setting.config)

end Service

end Agora
