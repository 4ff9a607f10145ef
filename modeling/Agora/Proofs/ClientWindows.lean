import Agora.Admission.Limiter

/-!
A limiter over time, and a client by itself. What a limiter answers a client hangs on that client's
own requests and their moments only: other clients, looks at the limiter and sweeps, made by hand or
by the sweeper, leave no trace in the answers. So a limiter is a machine for each client, which
nothing else touches.
-/

set_option autoImplicit false

namespace Agora.Admission

open Table (Directory)
open Time (Span)

/-- A limiter, and the clock by which it goes. -/
structure Watch where
  limiter : Limiter
  clock : Span := 0

inductive Event where
  | allow (client : String)
  | sweep
  | stats
  | startSweeper
  | stopSweeper
  /-- The sweeper takes its turns, if any are due. -/
  | takeTurns
  | advance (span : Span)

namespace Watch

def start (limit : Nat) (length : Span) : Watch := { limiter := { limit, length } }

def allowed (client : String) (s : Watch) : Watch :=
  { s with limiter := (s.limiter.allow s.clock client).2 }

end Watch

def Event.next (s : Watch) : Event → Watch
  | .allow client => s.allowed client
  | .sweep => { s with limiter := s.limiter.sweep s.clock }
  | .stats => s
  | .startSweeper => { s with limiter := s.limiter.startSweeper s.clock }
  | .stopSweeper => { s with limiter := s.limiter.stopSweeper }
  | .takeTurns => { s with limiter := (s.limiter.takeTurns? s.clock).getD s.limiter }
  | .advance span => { s with clock := s.clock + span }

def Watch.after (s : Watch) (history : List Event) : Watch := history.foldl Event.next s

/-- The window of a client that has not ended at a moment. -/
def Limiter.current? (moment : Span) (client : String) (l : Limiter) : Option Window :=
  (l.windows.get? client).filter (·.live l.length moment)

/-- A request as a client sees it: when it was made, whether it opened a window, and its answer. -/
structure Visit where
  moment : Span
  opens : Bool
  verdict : Verdict
  deriving DecidableEq, Repr

def Watch.visit (client : String) (s : Watch) : Visit where
  moment := s.clock
  opens := (s.limiter.current? s.clock client).isNone
  verdict := (s.limiter.allow s.clock client).1

/-- What a client sees in the course of some events. -/
def visits (client : String) : Watch → List Event → List Visit
  | _, [] => []
  | s, .allow other :: rest =>
    if other = client then s.visit client :: visits client (s.allowed other) rest
    else visits client (s.allowed other) rest
  | s, e :: rest => visits client (e.next s) rest

def moments (client : String) : Span → List Event → List Span
  | _, [] => []
  | now, .allow other :: rest =>
    if other = client then now :: moments client now rest else moments client now rest
  | now, .advance span :: rest => moments client (now + span) rest
  | now, _ :: rest => moments client now rest

namespace Alone

/-- A request of a client now: the answer, and the window of the client then. -/
def ask (limit : Nat) (length now : Span) : Option Window → Verdict × Window
  | none => (.allowed, ⟨1, now⟩)
  | some w =>
    if length ≤ now - w.started then (.allowed, ⟨1, now⟩)
    else if w.count < limit then (.allowed, { w with count := w.count + 1 })
    else (.limited (length - (now - w.started)), w)

/-- A request now opens a window: there is none, or it is too old. -/
def opens (length now : Span) (window : Option Window) : Bool :=
  window.all fun w => length ≤ now - w.started

def visit (limit : Nat) (length now : Span) (window : Option Window) : Visit where
  moment := now
  opens := opens length now window
  verdict := (ask limit length now window).1

def visits (limit : Nat) (length : Span) : Option Window → List Span → List Visit
  | _, [] => []
  | window, now :: later =>
    visit limit length now window ::
      visits limit length (some (ask limit length now window).2) later

end Alone

namespace Window

variable {length now moment : Span} {w : Window}

theorem live_iff : w.live length now = true ↔ now - w.started < length := decide_eq_true_iff

theorem live_of_later (order : now ≤ moment) (live : w.live length moment = true) :
    w.live length now = true := by
  rw [live_iff] at live ⊢
  exact Nat.lt_of_le_of_lt (Nat.sub_le_sub_right order _) live

end Window

namespace Limiter

variable {now moment : Span} {client other : String} {l : Limiter} {w : Window}

theorem current?_eq_some : l.current? moment client = some w ↔
    l.windows.get? client = some w ∧ w.live l.length moment = true := Option.filter_eq_some_iff

theorem current?_none_of_later (order : now ≤ moment) (ended : l.current? now client = none) :
    l.current? moment client = none := by
  rw [Option.eq_none_iff_forall_ne_some] at ended ⊢
  intro w found
  obtain ⟨held, live⟩ := current?_eq_some.1 found
  exact ended w (current?_eq_some.2 ⟨held, Window.live_of_later order live⟩)

theorem allow_of_none (free : l.current? now client = none) :
    l.allow now client = (.allowed, { l with windows := l.windows.set client ⟨1, now⟩ }) := by
  unfold current? at free
  rw [allow, free]

theorem allow_of_some (found : l.current? now client = some w) :
    l.allow now client =
      if w.count < l.limit then
        (.allowed, { l with windows := l.windows.set client { w with count := w.count + 1 } })
      else (.limited (l.length - (now - w.started)), l) := by
  unfold current? at found
  rw [allow, found]

/-- All that a request can do to the windows: it files one under the name of the client, or leaves
them. -/
theorem allow_windows (now : Span) (client : String) (l : Limiter) :
    (∃ w, (l.allow now client).2 = { l with windows := l.windows.set client w }) ∨
      (l.allow now client).2 = l := by
  cases found : l.current? now client with
  | none => exact .inl ⟨_, congrArg Prod.snd (allow_of_none found)⟩
  | some w =>
    rw [allow_of_some found]
    split
    · exact .inl ⟨_, rfl⟩
    · exact .inr rfl

@[simp] theorem allow_limit : (l.allow now client).2.limit = l.limit := by
  rcases allow_windows now client l with ⟨w, filed⟩ | same
  · rw [filed]
  · rw [same]

@[simp] theorem allow_length : (l.allow now client).2.length = l.length := by
  rcases allow_windows now client l with ⟨w, filed⟩ | same
  · rw [filed]
  · rw [same]

/-- A request of a client leaves the windows of all others alone. -/
theorem get?_allow (apart : other ≠ client) :
    (l.allow now client).2.windows.get? other = l.windows.get? other := by
  rcases allow_windows now client l with ⟨w, filed⟩ | same
  · rw [filed]
    exact (Directory.get?_set _ _ _ _).trans (if_neg apart)
  · rw [same]

theorem takeTurns?_eq {later : Limiter} (taken : l.takeTurns? now = some later) :
    ∃ s, later = { l.sweep now with sweeper := some s } := by
  obtain ⟨s, _, turned⟩ := Option.bind_eq_some_iff.1 taken
  dsimp only at turned
  split at turned
  · exact ⟨_, (Option.some.inj turned).symm⟩
  · cases turned

end Limiter

/-- Time has passed, and sweeps may have been made: every window is as it was, or is forgotten and
had ended. -/
structure Aged (before after : Watch) : Prop where
  limit : after.limiter.limit = before.limiter.limit
  length : after.limiter.length = before.limiter.length
  clock : before.clock ≤ after.clock
  windows (client : String) :
    after.limiter.windows.get? client = before.limiter.windows.get? client ∨
      after.limiter.windows.get? client = none ∧
        before.limiter.current? after.clock client = none

namespace Aged

variable {before between after s : Watch}

theorem refl (s : Watch) : Aged s s := ⟨rfl, rfl, Nat.le_refl _, fun _ => .inl rfl⟩

/-- No window is new. -/
theorem stood (aged : Aged before after) {client : String} {w : Window}
    (held : after.limiter.windows.get? client = some w) :
    before.limiter.windows.get? client = some w := by
  rcases aged.windows client with same | ⟨forgotten, _⟩
  · rw [← same, held]
  · rw [forgotten] at held
    cases held

/-- No look at a moment to come tells the two apart. -/
theorem current (aged : Aged before after) {moment : Span} (later : after.clock ≤ moment)
    (client : String) :
    after.limiter.current? moment client = before.limiter.current? moment client := by
  rcases aged.windows client with same | ⟨forgotten, ended⟩
  · rw [Limiter.current?, Limiter.current?, same, aged.length]
  · rw [Limiter.current?_none_of_later later ended, Limiter.current?, forgotten]
    rfl

theorem trans (first : Aged before between) (second : Aged between after) :
    Aged before after where
  limit := second.limit.trans first.limit
  length := second.length.trans first.length
  clock := Nat.le_trans first.clock second.clock
  windows client := by
    rcases second.windows client with same | ⟨forgotten, ended⟩
    · rw [same]
      refine (first.windows client).imp_right fun gone => ⟨gone.1, ?_⟩
      exact Limiter.current?_none_of_later second.clock gone.2
    · exact .inr ⟨forgotten, (first.current second.clock client).symm.trans ended⟩

theorem of_windows (limit : after.limiter.limit = before.limiter.limit)
    (length : after.limiter.length = before.limiter.length)
    (windows : after.limiter.windows = before.limiter.windows)
    (clock : before.clock ≤ after.clock) : Aged before after :=
  ⟨limit, length, clock, fun client => .inl (congrArg (·.get? client) windows)⟩

/-- Windows that have ended at a moment that has come may be forgotten. -/
theorem of_sweep {moment : Span} (limit : after.limiter.limit = before.limiter.limit)
    (length : after.limiter.length = before.limiter.length)
    (windows : after.limiter.windows = (before.limiter.sweep moment).windows)
    (clock : before.clock ≤ after.clock) (past : moment ≤ after.clock) : Aged before after := by
  refine ⟨limit, length, clock, fun client => ?_⟩
  have swept : after.limiter.windows.get? client = before.limiter.current? moment client := by
    rw [windows, Limiter.sweep, Directory.get?_filter, Limiter.current?]
  cases found : before.limiter.current? moment client with
  | none => exact .inr ⟨swept.trans found, Limiter.current?_none_of_later past found⟩
  | some w =>
    refine .inl (swept.trans ?_)
    rw [found, (Limiter.current?_eq_some.1 found).1]

theorem of_takeTurns {moment : Span} (clock : before.clock ≤ after.clock)
    (past : moment ≤ after.clock)
    (turns : after.limiter = (before.limiter.takeTurns? moment).getD before.limiter) :
    Aged before after := by
  cases taken : before.limiter.takeTurns? moment with
  | none =>
    rw [taken, Option.getD_none] at turns
    exact of_windows (by rw [turns]) (by rw [turns]) (by rw [turns]) clock
  | some later =>
    rw [taken, Option.getD_some] at turns
    obtain ⟨sweeper, made⟩ := Limiter.takeTurns?_eq taken
    rw [made] at turns
    exact of_sweep (by rw [turns]; rfl) (by rw [turns]; rfl) (by rw [turns]) clock past

end Aged

def Event.asks : Event → Bool
  | .allow _ => true
  | _ => false

/-- Whatever is no request is time that passes, or a sweep. -/
theorem Event.aged {e : Event} (other : e.asks = false) (s : Watch) : Aged s (e.next s) := by
  cases e with
  | allow client => cases other
  | sweep => exact .of_sweep rfl rfl rfl (Nat.le_refl _) (Nat.le_refl s.clock)
  | stats => exact .refl s
  | startSweeper => exact .of_windows rfl rfl rfl (Nat.le_refl _)
  | stopSweeper => exact .of_windows rfl rfl rfl (Nat.le_refl _)
  | takeTurns => exact .of_takeTurns (Nat.le_refl _) (Nat.le_refl s.clock) rfl
  | advance span => exact .of_windows rfl rfl rfl (Nat.le_add_right _ _)

/-- A request is answered by the window that has not ended. -/
theorem Alone.ask_eq (limit : Nat) (length now : Span) (window : Option Window) :
    ask limit length now window =
      match window.filter (·.live length now) with
      | some w =>
        if w.count < limit then (.allowed, { w with count := w.count + 1 })
        else (.limited (length - (now - w.started)), w)
      | none => (.allowed, ⟨1, now⟩) := by
  cases window with
  | none => rfl
  | some w =>
    by_cases old : length ≤ now - w.started
    · have ended : w.live length now = false := by simpa [Window.live] using old
      simp only [ask, old, Option.filter, ended, ↓reduceIte, Bool.false_eq_true]
    · have live : w.live length now = true := by simpa [Window.live] using old
      simp only [ask, old, Option.filter, live, ↓reduceIte]

theorem Alone.opens_eq (length now : Span) (window : Option Window) :
    opens length now window = (window.filter (·.live length now)).isNone := by
  cases window with
  | none => rfl
  | some w =>
    by_cases old : length ≤ now - w.started
    · simp [opens, Option.filter, Window.live, old]
    · have young := Nat.lt_of_not_le old
      simp [opens, Option.filter, Window.live, young]

/-- A limiter treats a client as one that has a window, as far as any look to come can show. -/
structure Follows (limit : Nat) (length : Span) (client : String) (window : Option Window)
    (s : Watch) : Prop where
  most : s.limiter.limit = limit
  span : s.limiter.length = length
  current {moment : Span} (later : s.clock ≤ moment) :
    s.limiter.current? moment client = window.filter (·.live length moment)

theorem follows_start (limit : Nat) (length : Span) (client : String) :
    Follows limit length client none (.start limit length) where
  most := rfl
  span := rfl
  current _ := rfl

theorem follows_held {client : String} {w : Window} {s : Watch}
    (held : s.limiter.windows.get? client = some w) :
    Follows s.limiter.limit s.limiter.length client (some w) s where
  most := rfl
  span := rfl
  current _ := by rw [Limiter.current?, held]

namespace Follows

variable {limit : Nat} {length : Span} {client : String} {window : Option Window} {s after : Watch}

theorem aged (follows : Follows limit length client window s) (aged : Aged s after) :
    Follows limit length client window after where
  most := aged.limit.trans follows.most
  span := aged.length.trans follows.span
  current later :=
    (aged.current later client).trans (follows.current (Nat.le_trans aged.clock later))

/-- Requests of other clients do not matter. -/
theorem other {stranger : String} (apart : stranger ≠ client)
    (follows : Follows limit length client window s) :
    Follows limit length client window (s.allowed stranger) where
  most := Limiter.allow_limit.trans follows.most
  span := Limiter.allow_length.trans follows.span
  current later := by
    rw [Limiter.current?, Watch.allowed, Limiter.get?_allow fun same => apart same.symm,
      Limiter.allow_length]
    exact follows.current later

theorem visit (follows : Follows limit length client window s) :
    s.visit client = Alone.visit limit length s.clock window := by
  have current := follows.current (Nat.le_refl s.clock)
  rw [Watch.visit, Alone.visit, Alone.opens_eq, Alone.ask_eq, ← current]
  cases found : s.limiter.current? s.clock client with
  | none => rw [Limiter.allow_of_none found]
  | some w =>
    rw [Limiter.allow_of_some found, follows.most, follows.span]
    dsimp only
    split <;> rfl

theorem own (follows : Follows limit length client window s) :
    Follows limit length client (some (Alone.ask limit length s.clock window).2)
      (s.allowed client) where
  most := Limiter.allow_limit.trans follows.most
  span := Limiter.allow_length.trans follows.span
  current {moment} later := by
    have current := follows.current (Nat.le_refl s.clock)
    have filed (w : Window) : Limiter.current? moment client
        { s.limiter with windows := s.limiter.windows.set client w } =
          (some w).filter (·.live length moment) := by
      rw [Limiter.current?, Directory.get?_set, if_pos rfl, follows.span]
    rw [Alone.ask_eq, ← current, Watch.allowed]
    cases found : s.limiter.current? s.clock client with
    | none =>
      rw [Limiter.allow_of_none found]
      exact filed ⟨1, s.clock⟩
    | some w =>
      rw [Limiter.allow_of_some found, follows.most]
      dsimp only
      split
      · exact filed { w with count := w.count + 1 }
      · -- The window is full, and stays as it is: the one that the limiter holds.
        rw [Limiter.current?, (Limiter.current?_eq_some.1 found).1, follows.span]

/-- In the course of any events the client sees what it would see by itself. -/
theorem visits (follows : Follows limit length client window s) (history : List Event) :
    visits client s history =
      Alone.visits limit length window (moments client s.clock history) := by
  induction history generalizing s window with
  | nil => rfl
  | cons e rest ih =>
    cases e with
    | allow stranger =>
      by_cases same : stranger = client
      · subst same
        simp only [Admission.visits, moments, ↓reduceIte, Alone.visits]
        rw [follows.visit, ih follows.own]
        rfl
      · simp only [Admission.visits, moments, same, ↓reduceIte]
        exact ih (follows.other same)
    | sweep => exact ih (follows.aged (Event.aged rfl s))
    | stats => exact ih follows
    | startSweeper => exact ih (follows.aged (Event.aged rfl s))
    | stopSweeper => exact ih (follows.aged (Event.aged rfl s))
    | takeTurns => exact ih (follows.aged (Event.aged rfl s))
    | advance span => exact ih (follows.aged (Event.aged rfl s))

end Follows

/-- In every run of a limiter, each client sees what it would see by itself: at the moments of its
own requests, the same answers with the same times to wait, and the same windows opened. -/
theorem clients_independent (limit : Nat) (length : Span) (history : List Event)
    (client : String) :
    visits client (.start limit length) history =
      Alone.visits limit length none (moments client 0 history) :=
  (follows_start limit length client).visits history

/-- A sweep at the very end of a window, and just before it, and another client. -/
example :
    let history : List Event :=
      [.startSweeper, .allow "a", .allow "b", .allow "a", .advance 9, .sweep, .allow "a",
        .advance 1, .takeTurns, .allow "a", .stopSweeper, .allow "a"]
    (visits "a" (.start 1 10) history).map (·.verdict) =
      [.allowed, .limited 10, .limited 1, .allowed, .limited 10] := by
  decide

end Agora.Admission
