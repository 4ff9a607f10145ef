import Agora.Proofs.ClientWindows

set_option autoImplicit false

namespace Agora.Admission

open Table (Directory)
open Time (Span)

/-- The number of a client's requests that are admitted at moments of a kind. -/
def admitted (seen : List Visit) (within : Span → Bool) : Nat :=
  seen.countP fun v => v.verdict = .allowed && within v.moment

section

variable {within wider : Span → Bool} {v : Visit} {seen : List Visit}

theorem admitted_mono (more : ∀ moment, within moment = true → wider moment = true) :
    admitted seen within ≤ admitted seen wider := by
  refine List.countP_mono_left fun v _ counted => ?_
  simp only [Bool.and_eq_true] at counted ⊢
  exact ⟨counted.1, more _ counted.2⟩

theorem admitted_eq_zero (none : ∀ v ∈ seen, within v.moment = false) :
    admitted seen within = 0 := by
  refine List.countP_eq_zero.2 fun v inside counted => ?_
  rw [none v inside, Bool.and_false] at counted
  cases counted

theorem admitted_cons_le : admitted (v :: seen) within ≤ admitted seen within + 1 := by
  rw [admitted, List.countP_cons]
  split
  · exact Nat.le_refl _
  · exact Nat.le_succ _

theorem admitted_cons_outside (outside : within v.moment = false) :
    admitted (v :: seen) within = admitted seen within := by
  rw [admitted, List.countP_cons, outside, Bool.and_false, if_neg Bool.false_ne_true]
  rfl

theorem admitted_cons_limited {moment : Span} {opens : Bool} {retryAfter : Span} :
    admitted (⟨moment, opens, .limited retryAfter⟩ :: seen) within = admitted seen within := by
  simp only [admitted, List.countP_cons, reduceCtorEq, decide_false, Bool.false_and,
    Bool.false_eq_true, ↓reduceIte, Nat.add_zero]

end

namespace Alone

variable {limit : Nat} {length now : Span} {rest times : List Span} {w next : Window}

/-- What one request comes to: it opens a window, or is counted in the one that there is, or finds
it full. -/
inductive Turn (limit : Nat) (length now : Span) : Option Window → Visit → Window → Prop where
  | opened {window : Option Window} (old : ∀ w, window = some w → length ≤ now - w.started) :
      Turn limit length now window ⟨now, true, .allowed⟩ ⟨1, now⟩
  | counted {w : Window} (live : now - w.started < length) (room : w.count < limit) :
      Turn limit length now (some w) ⟨now, false, .allowed⟩ { w with count := w.count + 1 }
  | refused {w : Window} (live : now - w.started < length) (full : limit ≤ w.count) :
      Turn limit length now (some w)
        ⟨now, false, .limited (length - (now - w.started))⟩ w

theorem turn (limit : Nat) (length now : Span) (window : Option Window) :
    Turn limit length now window (visit limit length now window)
      (ask limit length now window).2 := by
  cases window with
  | none => exact .opened nofun
  | some w =>
    by_cases old : length ≤ now - w.started
    · simp only [visit, opens, Option.all_some, ask, old, decide_true, ↓reduceIte]
      refine .opened fun other same => ?_
      cases same
      exact old
    · have live := Nat.lt_of_not_le old
      by_cases room : w.count < limit
      · simp only [visit, opens, Option.all_some, ask, old, room, decide_false, ↓reduceIte]
        exact .counted live room
      · simp only [visit, opens, Option.all_some, ask, old, room, decide_false, ↓reduceIte]
        exact .refused live (Nat.le_of_not_lt room)

namespace Turn

variable {window : Option Window} {v : Visit}

/-- A request that has been answered belongs to a window that holds one at least. -/
theorem visited (positive : 1 ≤ limit) (turn : Turn limit length now window v next) :
    1 ≤ next.count := by
  cases turn with
  | opened old => exact Nat.le_refl 1
  | counted live room => exact Nat.le_add_left _ _
  | refused live full => exact Nat.le_trans positive full

/-- The window of a request ends after the request. -/
theorem running (lasting : 0 < length) (turn : Turn limit length now window v next) :
    now < next.started + length := by
  have ends {w : Window} (live : now - w.started < length) : now < w.started + length := by
    rw [Nat.add_comm]
    exact Nat.lt_of_not_le fun ended => Nat.not_le_of_lt live (Nat.le_sub_of_add_le ended)
  cases turn with
  | opened old => exact Nat.lt_add_of_pos_right lasting
  | counted live room => exact ends live
  | refused live full => exact ends live

theorem moment (turn : Turn limit length now window v next) : v.moment = now := by
  cases turn <;> rfl

end Turn

theorem visits_cons (limit : Nat) (length now : Span) (window : Option Window)
    (rest : List Span) :
    ∃ v next, Turn limit length now window v next ∧
      visits limit length window (now :: rest) = v :: visits limit length (some next) rest :=
  ⟨_, _, turn limit length now window, rfl⟩

theorem moment_mem {window : Option Window} {v : Visit}
    (seen : v ∈ visits limit length window times) : v.moment ∈ times := by
  induction times generalizing window with
  | nil => cases seen
  | cons now rest ih =>
    rcases List.mem_cons.1 seen with rfl | seen
    · exact .head _
    · exact .tail _ (ih seen)

/-- The window can be that of a client whose next requests come at some moments: the moments are in
order, none of them comes before the window has begun, and the window is not overfull. -/
structure Ready (limit : Nat) (window : Option Window) (times : List Span) : Prop where
  ordered : times.Pairwise (· ≤ ·)
  begun : ∀ w, window = some w → ∀ moment ∈ times, w.started ≤ moment
  count : ∀ w, window = some w → w.count ≤ limit

namespace Ready

variable {window : Option Window}

theorem order (ready : Ready limit window (now :: rest)) :
    ∀ moment ∈ now :: rest, now ≤ moment := by
  intro moment inside
  rcases List.mem_cons.1 inside with rfl | after
  · exact Nat.le_refl _
  · exact (List.pairwise_cons.1 ready.ordered).1 moment after

theorem ended (ready : Ready limit (some w) (now :: rest)) (old : length ≤ now - w.started) :
    w.started + length ≤ now := by
  rw [Nat.add_comm]
  exact Nat.add_le_of_le_sub (ready.begun w rfl now (.head _)) old

theorem turn {v : Visit} (positive : 1 ≤ limit) (ready : Ready limit window (now :: rest))
    (turn : Turn limit length now window v next) : Ready limit (some next) rest := by
  obtain ⟨order, ordered⟩ := List.pairwise_cons.1 ready.ordered
  cases turn with
  | opened old =>
    refine ⟨ordered, ?_, ?_⟩
    · rintro _ ⟨⟩
      exact order
    · rintro _ ⟨⟩
      exact positive
  | @counted w live room =>
    refine ⟨ordered, ?_, ?_⟩
    · rintro _ ⟨⟩ moment inside
      exact ready.begun w rfl moment (.tail _ inside)
    · rintro _ ⟨⟩
      exact room
  | refused live full =>
    refine ⟨ordered, fun w same moment inside => ?_, ready.count⟩
    exact ready.begun w same moment (.tail _ inside)

end Ready

/-- The rest of a window admits what the window has room for. -/
theorem admitted_in_window (positive : 1 ≤ limit) (ready : Ready limit (some w) times) :
    admitted (visits limit length (some w) times) (· < w.started + length) ≤ limit - w.count := by
  induction times generalizing w with
  | nil => exact Nat.zero_le _
  | cons now rest ih =>
    obtain ⟨v, next, turn, seen⟩ := visits_cons limit length now (some w) rest
    have later := ih (ready.turn positive turn)
    rw [seen]
    cases turn with
    | opened old =>
      -- The window has ended, and no request to come goes back into it.
      rw [← seen]
      refine Nat.le_trans (Nat.le_of_eq (admitted_eq_zero fun v inside => ?_)) (Nat.zero_le _)
      have reached := ready.order _ (moment_mem inside)
      exact decide_eq_false (Nat.not_lt_of_le (Nat.le_trans (ready.ended (old w rfl)) reached))
    | counted live room =>
      refine Nat.le_trans admitted_cons_le ?_
      dsimp only at later
      omega
    | refused live full =>
      rw [admitted_cons_limited]
      exact later

/-- The rest of a window and a whole length after it admit what one more window has room for. -/
theorem admitted_in_two (positive : 1 ≤ limit) (ready : Ready limit (some w) times) :
    admitted (visits limit length (some w) times) (· < w.started + 2 * length) ≤
      limit - w.count + limit := by
  induction times generalizing w with
  | nil => exact Nat.zero_le _
  | cons now rest ih =>
    obtain ⟨v, next, turn, seen⟩ := visits_cons limit length now (some w) rest
    have renewed := ready.turn positive turn
    have later := ih renewed
    rw [seen]
    cases turn with
    | opened old =>
      have ended := ready.ended (old w rfl)
      have soon : w.started + 2 * length ≤ now + length := by
        rw [Nat.two_mul, ← Nat.add_assoc]
        exact Nat.add_le_add_right ended length
      have here : admitted (visits limit length (some ⟨1, now⟩) rest) (· < now + length) ≤
          limit - 1 := admitted_in_window positive renewed
      have fewer :
          admitted (visits limit length (some ⟨1, now⟩) rest) (· < w.started + 2 * length) ≤
            admitted (visits limit length (some ⟨1, now⟩) rest) (· < now + length) :=
        admitted_mono fun moment early =>
          decide_eq_true (Nat.lt_of_lt_of_le (of_decide_eq_true early) soon)
      refine Nat.le_trans admitted_cons_le ?_
      omega
    | counted live room =>
      refine Nat.le_trans admitted_cons_le ?_
      dsimp only at later
      omega
    | refused live full =>
      rw [admitted_cons_limited]
      exact later

/-- No window opens before the one that the client has is over. -/
theorem opens_late {v : Visit} (positive : 1 ≤ limit) (ready : Ready limit (some w) times)
    (inside : v ∈ visits limit length (some w) times) (opening : v.opens = true) :
    w.started + length ≤ v.moment := by
  induction times generalizing w with
  | nil => cases inside
  | cons now rest ih =>
    obtain ⟨first, next, turn, seen⟩ := visits_cons limit length now (some w) rest
    have later := ih (ready.turn positive turn)
    rw [seen] at inside
    cases turn with
    | opened old =>
      have ended := ready.ended (old w rfl)
      rcases List.mem_cons.1 inside with rfl | inside
      · exact ended
      · exact Nat.le_trans ended (Nat.le_of_add_right_le (later inside))
    | counted live room =>
      rcases List.mem_cons.1 inside with rfl | inside
      · cases opening
      · exact later inside
    | refused live full =>
      rcases List.mem_cons.1 inside with rfl | inside
      · cases opening
      · exact later inside

variable {window : Option Window}

/-- One window opens a length after another at the earliest. -/
theorem openings_apart (positive : 1 ≤ limit) (ready : Ready limit window times) :
    ((visits limit length window times).filter (·.opens)).Pairwise
      fun a b => a.moment + length ≤ b.moment := by
  induction times generalizing window with
  | nil => exact .nil
  | cons now rest ih =>
    obtain ⟨v, next, turn, seen⟩ := visits_cons limit length now window rest
    have renewed := ready.turn positive turn
    rw [seen]
    cases turn with
    | opened old =>
      refine List.pairwise_cons.2 ⟨fun later inside => ?_, ih renewed⟩
      obtain ⟨inside, opening⟩ := List.mem_filter.1 inside
      exact opens_late positive renewed inside opening
    | counted live room => exact ih renewed
    | refused live full => exact ih renewed

/-- From the opening of a window until its end no more than the limit is admitted. -/
theorem admitted_from_opening (positive : 1 ≤ limit) (lasting : 0 < length)
    (ready : Ready limit window times) {v : Visit}
    (inside : v ∈ visits limit length window times) (opening : v.opens = true) :
    admitted (visits limit length window times)
      (fun t => v.moment ≤ t ∧ t < v.moment + length) ≤ limit := by
  induction times generalizing window with
  | nil => cases inside
  | cons now rest ih =>
    obtain ⟨first, next, turn, seen⟩ := visits_cons limit length now window rest
    have renewed := ready.turn positive turn
    rw [seen] at inside ⊢
    rcases List.mem_cons.1 inside with rfl | inside
    · cases turn with
      | opened old =>
        have here : admitted (visits limit length (some ⟨1, now⟩) rest) (· < now + length) ≤
            limit - 1 := admitted_in_window positive renewed
        have fewer : admitted (visits limit length (some ⟨1, now⟩) rest)
            (fun t => now ≤ t ∧ t < now + length) ≤
              admitted (visits limit length (some ⟨1, now⟩) rest) (· < now + length) :=
          admitted_mono fun moment inside => decide_eq_true (of_decide_eq_true inside).2
        refine Nat.le_trans admitted_cons_le ?_
        exact Nat.add_le_of_le_sub positive (Nat.le_trans fewer here)
      | counted live room => cases opening
      | refused live full => cases opening
    · -- The request before was answered in a window that had to end first.
      have before : first.moment < v.moment := by
        rw [turn.moment]
        exact Nat.lt_of_lt_of_le (turn.running lasting)
          (opens_late positive renewed inside opening)
      rw [admitted_cons_outside (decide_eq_false fun counted =>
        Nat.not_le_of_lt before counted.1)]
      exact ih renewed inside

/-- In a span as long as a window no more than twice the limit is admitted. -/
theorem admitted_in_span (positive : 1 ≤ limit) (lasting : 0 < length)
    (ready : Ready limit window times) (start : Span) :
    admitted (visits limit length window times)
      (fun t => start ≤ t ∧ t ≤ start + length) ≤ 2 * limit := by
  induction times generalizing window with
  | nil => exact Nat.zero_le _
  | cons now rest ih =>
    obtain ⟨first, next, turn, seen⟩ := visits_cons limit length now window rest
    have renewed := ready.turn positive turn
    rw [seen]
    by_cases early : now < start
    · rw [admitted_cons_outside (decide_eq_false fun counted =>
        Nat.not_le_of_lt early (turn.moment ▸ counted.1))]
      exact ih renewed
    · -- From the first request in the span on, this window and one more are all that it meets.
      have reach : start + length < next.started + 2 * length := by
        rw [Nat.two_mul, ← Nat.add_assoc]
        exact Nat.add_lt_add_right
          (Nat.lt_of_le_of_lt (Nat.le_of_not_lt early) (turn.running lasting)) length
      have two : admitted (visits limit length (some next) rest) (· < next.started + 2 * length) ≤
          limit - next.count + limit := admitted_in_two positive renewed
      have fewer : admitted (visits limit length (some next) rest)
          (fun t => start ≤ t ∧ t ≤ start + length) ≤
            admitted (visits limit length (some next) rest) (· < next.started + 2 * length) :=
        admitted_mono fun moment inside =>
          decide_eq_true (Nat.lt_of_le_of_lt (of_decide_eq_true inside).2 reach)
      have visited := turn.visited positive
      refine Nat.le_trans admitted_cons_le ?_
      omega

end Alone

/-- Every window of a limiter has begun, and holds at least one request and no more than the
limit. -/
structure Orderly (s : Watch) : Prop where
  begun (client : String) (w : Window) :
    s.limiter.windows.get? client = some w → w.started ≤ s.clock
  count (client : String) (w : Window) :
    s.limiter.windows.get? client = some w → 1 ≤ w.count ∧ w.count ≤ s.limiter.limit

theorem orderly_start (limit : Nat) (length : Span) : Orderly (.start limit length) where
  begun _ _ held := by cases held
  count _ _ held := by cases held

namespace Limiter

variable {now : Span} {client : String} {l : Limiter} {w : Window}

/-- The window that a client has when its request has been answered: a new one, or that which it had
before, with the request if there was room. -/
theorem get?_allow_own (held : (l.allow now client).2.windows.get? client = some w) :
    (l.current? now client = none ∧ w = ⟨1, now⟩) ∨
      ∃ before, l.windows.get? client = some before ∧ w.started = before.started ∧
        (w.count = before.count ∨ w.count = before.count + 1 ∧ before.count < l.limit) := by
  cases found : l.current? now client with
  | none =>
    rw [allow_of_none found, Directory.get?_set, if_pos rfl] at held
    exact .inl ⟨rfl, (Option.some.inj held).symm⟩
  | some before =>
    have stood := (current?_eq_some.1 found).1
    refine .inr ⟨before, stood, ?_⟩
    rw [allow_of_some found] at held
    split at held
    · rename_i room
      rw [Directory.get?_set, if_pos rfl] at held
      cases held
      exact ⟨rfl, .inr ⟨rfl, room⟩⟩
    · rw [stood] at held
      cases held
      exact ⟨rfl, .inl rfl⟩

end Limiter

namespace Orderly

variable {s after : Watch}

theorem aged (orderly : Orderly s) (aged : Aged s after) : Orderly after := by
  refine ⟨fun client w held => ?_, fun client w held => ?_⟩
  · exact Nat.le_trans (orderly.begun client w (aged.stood held)) aged.clock
  · rw [aged.limit]
    exact orderly.count client w (aged.stood held)

theorem allowed (positive : 1 ≤ s.limiter.limit) (orderly : Orderly s) (client : String) :
    Orderly (s.allowed client) := by
  have cases (other : String) (w : Window)
      (held : (s.allowed client).limiter.windows.get? other = some w) :
      w.started ≤ s.clock ∧ 1 ≤ w.count ∧ w.count ≤ s.limiter.limit := by
    by_cases same : other = client
    · subst same
      rcases Limiter.get?_allow_own held with ⟨_, rfl⟩ | ⟨before, stood, started, count⟩
      · exact ⟨Nat.le_refl _, Nat.le_refl _, positive⟩
      · have begun := orderly.begun _ _ stood
        have fits := orderly.count _ _ stood
        rw [started]
        rcases count with kept | ⟨grown, room⟩
        · rw [kept]
          exact ⟨begun, fits⟩
        · rw [grown]
          exact ⟨begun, Nat.le_add_left _ _, room⟩
    · rw [Watch.allowed, Limiter.get?_allow same] at held
      exact ⟨orderly.begun other w held, orderly.count other w held⟩
  refine ⟨fun other w held => (cases other w held).1, fun other w held => ?_⟩
  rw [Watch.allowed, Limiter.allow_limit]
  exact (cases other w held).2

theorem next (positive : 1 ≤ s.limiter.limit) (orderly : Orderly s) (e : Event) :
    Orderly (e.next s) := by
  cases e with
  | allow client => exact orderly.allowed positive client
  | _ => exact orderly.aged (Event.aged rfl s)

end Orderly

theorem Event.next_limit (s : Watch) (e : Event) :
    (e.next s).limiter.limit = s.limiter.limit := by
  cases e with
  | allow client => exact Limiter.allow_limit
  | _ => exact (Event.aged rfl s).limit

/-- In the course of any events every window stays in order. -/
theorem orderly_after {s : Watch} (positive : 1 ≤ s.limiter.limit) (orderly : Orderly s)
    (history : List Event) :
    Orderly (s.after history) ∧ (s.after history).limiter.limit = s.limiter.limit := by
  induction history generalizing s with
  | nil => exact ⟨orderly, rfl⟩
  | cons e rest ih =>
    have same := Event.next_limit s e
    obtain ⟨later, kept⟩ := ih (same ▸ positive) (orderly.next positive e)
    exact ⟨later, kept.trans same⟩

section

variable {client : String}

theorem mem_visits_cons {s : Watch} {e : Event} {rest : List Event} {v : Visit}
    (seen : v ∈ visits client (e.next s) rest) : v ∈ visits client s (e :: rest) := by
  cases e with
  | allow other =>
    rw [visits]
    split
    · exact .tail _ seen
    · exact seen
  | _ => exact seen

/-- A window that a client has at the end was there at the start, or the client saw it opened. -/
theorem opened_of_held (history : List Event) {s : Watch} {w : Window}
    (held : (s.after history).limiter.windows.get? client = some w) :
    (∃ before, s.limiter.windows.get? client = some before ∧ w.started = before.started) ∨
      ∃ v ∈ visits client s history, v.opens = true ∧ v.moment = w.started := by
  induction history generalizing s with
  | nil => exact .inl ⟨w, held, rfl⟩
  | cons e rest ih =>
    rcases ih held with ⟨between, stood, started⟩ | ⟨v, seen, opening⟩
    · rw [started]
      cases e with
      | allow other =>
        by_cases same : other = client
        · subst same
          rcases Limiter.get?_allow_own stood with ⟨free, rfl⟩ | ⟨before, stood, started, _⟩
          · refine .inr ⟨s.visit other, ?_, ?_, rfl⟩
            · rw [visits, if_pos rfl]
              exact .head _
            · rw [Watch.visit, free]
              rfl
          · exact .inl ⟨before, stood, started⟩
        · have apart : client ≠ other := fun equal => same equal.symm
          have still : s.limiter.windows.get? client = some between :=
            (Limiter.get?_allow apart).symm.trans stood
          exact .inl ⟨between, still, rfl⟩
      | _ => exact .inl ⟨between, (Event.aged rfl s).stood stood, rfl⟩
    · exact .inr ⟨v, mem_visits_cons seen, opening⟩

theorem moments_ordered (client : String) (now : Span) (history : List Event) :
    (now :: moments client now history).Pairwise (· ≤ ·) := by
  induction history generalizing now with
  | nil => exact List.pairwise_singleton _ _
  | cons e rest ih =>
    cases e with
    | allow other =>
      rw [moments]
      split
      · refine List.pairwise_cons.2 ⟨fun moment inside => ?_, ih now⟩
        rcases List.mem_cons.1 inside with rfl | inside
        · exact Nat.le_refl _
        · exact (List.pairwise_cons.1 (ih now)).1 moment inside
      · exact ih now
    | advance span =>
      obtain ⟨order, ordered⟩ := List.pairwise_cons.1 (ih (now + span))
      refine List.pairwise_cons.2 ⟨fun moment inside => ?_, ordered⟩
      exact Nat.le_trans (Nat.le_add_right _ _) (order moment inside)
    | _ => exact ih now

end

/-- The bounds on what a limiter admits of one client. -/
structure Bounded (limit : Nat) (length : Span) (client : String) (history : List Event) : Prop
    where
  /-- The client has seen its window opened, and the window holds one request at least and no more
  than the limit: a count that can hold the limit never overflows. -/
  window (w : Window) :
    ((Watch.start limit length).after history).limiter.windows.get? client = some w →
      (∃ v ∈ visits client (.start limit length) history, v.opens = true ∧ v.moment = w.started) ∧
        1 ≤ w.count ∧ w.count ≤ limit
  apart : ((visits client (.start limit length) history).filter (·.opens)).Pairwise
    fun a b => a.moment + length ≤ b.moment
  inWindow : ∀ v ∈ visits client (.start limit length) history, v.opens = true →
    admitted (visits client (.start limit length) history)
      (fun t => v.moment ≤ t ∧ t < v.moment + length) ≤ limit
  inSpan (start : Span) :
    admitted (visits client (.start limit length) history)
      (fun t => start ≤ t ∧ t ≤ start + length) ≤ 2 * limit

/-- In every run, the window of a client holds between one request and the limit, its windows open
at least their length apart, each admits no more than the limit, and a span as long as a window, its
ends included, no more than twice the limit. -/
theorem admission_bound {limit : Nat} {length : Span} (positive : 1 ≤ limit)
    (lasting : 0 < length) (history : List Event) (client : String) :
    Bounded limit length client history := by
  have seen := (follows_start limit length client).visits history
  have ready : Alone.Ready limit none (moments client 0 history) :=
    ⟨(List.pairwise_cons.1 (moments_ordered client 0 history)).2, nofun, nofun⟩
  refine ⟨fun w held => ⟨?_, ?_⟩, ?_, ?_, ?_⟩
  · rcases opened_of_held history held with ⟨before, impossible, _⟩ | opened
    · cases impossible
    · exact opened
  · obtain ⟨orderly, same⟩ :=
      orderly_after (s := .start limit length) positive (orderly_start limit length) history
    have count := orderly.count client w held
    rwa [same] at count
  · rw [seen]
    exact Alone.openings_apart positive ready
  · rw [seen]
    exact fun v inside opening => Alone.admitted_from_opening positive lasting ready inside opening
  · rw [seen]
    exact Alone.admitted_in_span positive lasting ready

/-- Twice the limit is reached: late in one window, and at once in the next one. -/
theorem boundary_burst :
    let history : List Event :=
      [.allow "a", .advance 9, .allow "a", .advance 1, .allow "a", .allow "a", .allow "a"]
    1 ≤ 2 ∧ 0 < 10 ∧ Bounded 2 10 "a" history ∧
      admitted (visits "a" (.start 2 10) history) (fun t => 0 ≤ t ∧ t ≤ 0 + 10) = 2 * 2 :=
  ⟨by decide, by decide, admission_bound (by decide) (by decide) _ "a", by decide⟩

end Agora.Admission
