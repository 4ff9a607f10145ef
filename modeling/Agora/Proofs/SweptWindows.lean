import Agora.Proofs.AdmissionBound
import Mathlib.Data.List.Induction
import Mathlib.Data.Set.Card

/-!
How long a window is kept. A sweep forgets the windows that have ended and no others. A sweeper has
its turns a window's length apart, so between two of them no window grows twice as old as that: a
limiter whose sweeper has had its first turn keeps no more windows than there are clients that have
opened one in that time. When no sweeper runs, a window goes by a sweep that is made by hand only.
-/

set_option autoImplicit false

namespace Agora

namespace Table.Directory

variable {κ ν : Type} [DecidableEq κ] {d : Directory κ ν} {key : κ}

theorem exists_get? : (∃ value, d.get? key = some value) ↔ key ∈ d.entries.map Prod.fst := by
  simp only [get?, Option.map_eq_some_iff, List.mem_map]
  constructor
  · rintro ⟨value, e, found, _⟩
    exact ⟨e, List.mem_of_find?_eq_some found, by simpa using List.find?_some found⟩
  · rintro ⟨e, inside, rfl⟩
    have some : (d.entries.find? fun other => other.1 = e.1).isSome :=
      List.find?_isSome.2 ⟨e, inside, decide_eq_true rfl⟩
    obtain ⟨other, found⟩ := Option.isSome_iff_exists.1 some
    exact ⟨other.2, other, found, rfl⟩

theorem keys_eq (d : Directory κ ν) :
    {key | ∃ value, d.get? key = some value} = ((d.entries.map Prod.fst).toFinset : Set κ) := by
  ext key
  rw [Set.mem_ofPred_eq, exists_get?, List.coe_toFinset, Set.mem_ofPred_eq]

theorem size_eq_ncard (d : Directory κ ν) :
    d.size = {key | ∃ value, d.get? key = some value}.ncard := by
  rw [keys_eq, Set.ncard_coe_finset, List.toFinset_card_of_nodup (List.pairwise_map.2 d.distinct),
    List.length_map, size]

theorem size_le_size {e : Directory κ ν} (kept : ∀ key value, d.get? key = some value →
    ∃ other, e.get? key = some other) : d.size ≤ e.size := by
  rw [size_eq_ncard, size_eq_ncard]
  refine Set.ncard_le_ncard (fun key ⟨value, held⟩ => kept key value held) ?_
  rw [keys_eq]
  exact Finset.finite_toSet _

end Table.Directory

namespace Admission

open Table (Directory)
open Time (Span)

/-- An event, and the turns of the sweeper that come due by it. -/
def Event.prompt : Event → List Event
  | .advance span => [.advance span, .takeTurns]
  | e => [e]

/-- Some events, and between them the turns of the sweeper as they come due. -/
def course (history : List Event) : List Event := history.flatMap Event.prompt

/-- The limiter after an event and the turns that come due by it. -/
def Event.pass (s : Watch) (e : Event) : Watch := s.after e.prompt

/-- A limiter that has seen some events, with a sweeper that is prompt. -/
def lived (limit : Nat) (length : Span) (history : List Event) : Watch :=
  (Watch.start limit length).after (course history)

/-- A sweep at a moment has forgotten the windows that are a length old by then, or older, and has
left the others as they were. -/
def Swept (moment : Span) (before after : Limiter) : Prop :=
  ∀ client w, after.windows.get? client = some w ↔
    before.windows.get? client = some w ∧ ¬ before.length ≤ moment - w.started

theorem lived_concat (limit : Nat) (length : Span) (history : List Event) (e : Event) :
    lived limit length (history ++ [e]) = e.pass (lived limit length history) := by
  rw [lived, course, List.flatMap_append, List.flatMap_singleton, Watch.after, List.foldl_append]
  rfl

theorem lived_append (limit : Nat) (length : Span) (before later : List Event) :
    lived limit length (before ++ later) = later.foldl Event.pass (lived limit length before) := by
  induction later using List.reverseRecOn with
  | nil => rw [List.append_nil, List.foldl_nil]
  | append_singleton later e ih =>
    rw [← List.append_assoc, lived_concat, ih, List.foldl_concat]

namespace Limiter

variable {now : Span} {client : String} {l : Limiter} {sw : Sweeper} {w : Window}

theorem swept_sweep (now : Span) (l : Limiter) : Swept now l (l.sweep now) := by
  intro client w
  rw [sweep, Directory.get?_filter, Option.filter_eq_some_iff, Window.live_iff, Nat.not_le]

theorem get?_of_sweep (held : (l.sweep now).windows.get? client = some w) :
    l.windows.get? client = some w := ((swept_sweep now l client w).1 held).1

/-- What a sweep forgets and what it leaves are all that there was. -/
theorem tracked_sweep (now : Span) (l : Limiter) :
    (l.sweep now).tracked + l.windows.entries.countP (fun e => l.length ≤ now - e.2.started) =
      l.tracked := by
  have ended (e : String × Window) :
      decide (l.length ≤ now - e.2.started) = decide ¬e.2.live l.length now = true := by
    rw [decide_eq_decide, Window.live_iff, Nat.not_lt]
  simp only [tracked, sweep, Directory.size, Directory.filter, ended]
  rw [← List.countP_eq_length_filter]
  exact (List.length_eq_countP_add_countP _).symm

/-- The number that a sweep by hand tells is the number of windows that it forgets. -/
theorem reap_eq (now : Span) (l : Limiter) :
    l.reap now =
      (l.windows.entries.countP fun e => l.length ≤ now - e.2.started, l.sweep now) := by
  rw [reap, ← tracked_sweep now l, Nat.add_sub_cancel_left]

theorem tracked_eq (l : Limiter) :
    l.tracked = {client | ∃ w, l.windows.get? client = some w}.ncard := l.windows.size_eq_ncard

@[simp] theorem allow_sweeper : (l.allow now client).2.sweeper = l.sweeper := by
  rcases allow_windows now client l with ⟨w, filed⟩ | same
  · rw [filed]
  · rw [same]

theorem startSweeper_of_runs (runs : l.sweeper = some sw) : l.startSweeper now = l := by
  rw [startSweeper, runs, Option.some_or, ← runs]

theorem takeTurns?_of_idle (idle : ∀ sw, l.sweeper = some sw →
    (now - sw.started) / l.length ≤ sw.turns) : l.takeTurns? now = none := by
  cases runs : l.sweeper with
  | none => rw [takeTurns?, runs, Option.bind_none]
  | some sw =>
    rw [takeTurns?, runs]
    exact if_neg (Nat.not_lt_of_le (idle sw runs))

end Limiter

/-- What the passing of time comes to: one sweep at its end for all turns of the sweeper that come
due, or no sweep if none does. -/
inductive Passage (s : Watch) (span : Span) : Watch → Prop where
  | turned {sw : Sweeper} (runs : s.limiter.sweeper = some sw)
      (due : sw.turns < (s.clock + span - sw.started) / s.limiter.length) :
      Passage s span
        { limiter := { s.limiter.sweep (s.clock + span) with
            sweeper := some { sw with
              turns := (s.clock + span - sw.started) / s.limiter.length } }
          clock := s.clock + span }
  | idle (none : ∀ sw, s.limiter.sweeper = some sw →
      (s.clock + span - sw.started) / s.limiter.length ≤ sw.turns) :
      Passage s span { s with clock := s.clock + span }

theorem passage (s : Watch) (span : Span) : Passage s span (Event.pass s (.advance span)) := by
  have passed : Event.pass s (.advance span) =
    ⟨(s.limiter.takeTurns? (s.clock + span)).getD s.limiter, s.clock + span⟩ := rfl
  rw [passed]
  cases runs : s.limiter.sweeper with
  | none =>
    rw [Limiter.takeTurns?_of_idle fun sw other => nomatch runs.symm.trans other]
    exact .idle fun sw other => nomatch runs.symm.trans other
  | some sw =>
    by_cases due : sw.turns < (s.clock + span - sw.started) / s.limiter.length
    · rw [Limiter.takeTurns?, runs, Option.bind_some, if_pos due]
      exact .turned runs due
    · have idle : ∀ other, s.limiter.sweeper = some other →
          (s.clock + span - other.started) / s.limiter.length ≤ other.turns := by
        rintro other same
        cases runs.symm.trans same
        exact Nat.le_of_not_lt due
      rw [Limiter.takeTurns?_of_idle idle]
      exact .idle idle

/-- A sweeper has taken all turns that were due, and at the last of them has left no window that was
a length old. -/
structure Punctual (s : Watch) (sw : Sweeper) : Prop where
  begun : sw.started ≤ s.clock
  turns : sw.turns = (s.clock - sw.started) / s.limiter.length
  young (client : String) (w : Window) : 0 < sw.turns →
    s.limiter.windows.get? client = some w →
      sw.started + sw.turns * s.limiter.length < w.started + s.limiter.length

/-- The sweeper that runs, if one does, is in time. -/
def InTime (s : Watch) : Prop := ∀ sw, s.limiter.sweeper = some sw → Punctual s sw

namespace Punctual

variable {s after : Watch} {sw : Sweeper}

theorem last (punctual : Punctual s sw) :
    sw.started + sw.turns * s.limiter.length ≤ s.clock := by
  rw [punctual.turns]
  exact Nat.add_le_of_le_sub' punctual.begun (Nat.div_mul_le_self _ _)

/-- Before the next turn of the sweeper no window is older than from one turn to the next but
one. -/
theorem age (lasting : 0 < s.limiter.length) (punctual : Punctual s sw)
    (turned : sw.started + s.limiter.length ≤ s.clock) {client : String} {w : Window}
    (held : s.limiter.windows.get? client = some w) :
    s.clock < w.started + 2 * s.limiter.length := by
  have some : 0 < sw.turns := by
    rw [punctual.turns]
    exact Nat.div_pos (Nat.le_sub_of_add_le' turned) lasting
  have next : s.clock - sw.started < (sw.turns + 1) * s.limiter.length := by
    rw [punctual.turns]
    exact Nat.lt_mul_of_div_lt (Nat.lt_succ_self _) lasting
  calc s.clock
    _ < sw.started + (sw.turns * s.limiter.length + s.limiter.length) := by
      rw [← Nat.succ_mul]
      exact (Nat.sub_lt_iff_lt_add' punctual.begun).1 next
    _ = sw.started + sw.turns * s.limiter.length + s.limiter.length := (Nat.add_assoc _ _ _).symm
    _ < w.started + s.limiter.length + s.limiter.length :=
      Nat.add_lt_add_right (punctual.young client w some held) _
    _ = w.started + 2 * s.limiter.length := by rw [Nat.two_mul, Nat.add_assoc]

/-- At the same moment, nothing but a window that is opened then can be new. -/
theorem of_windows (punctual : Punctual s sw)
    (lasting : 0 < s.limiter.length)
    (length : after.limiter.length = s.limiter.length) (clock : after.clock = s.clock)
    (windows : ∀ client w, after.limiter.windows.get? client = some w →
      w.started = s.clock ∨
        ∃ before, s.limiter.windows.get? client = some before ∧ w.started = before.started) :
    Punctual after sw := by
  refine ⟨clock ▸ punctual.begun, ?_, fun client w some held => ?_⟩
  · rw [clock, length]
    exact punctual.turns
  · rw [length]
    rcases windows client w held with new | ⟨before, stood, started⟩
    · rw [new]
      exact Nat.lt_of_le_of_lt punctual.last (Nat.lt_add_of_pos_right lasting)
    · rw [started]
      exact punctual.young client before some stood

end Punctual

namespace InTime

variable {s : Watch}

theorem start (limit : Nat) (length : Span) : InTime (.start limit length) := nofun

theorem allowed (lasting : 0 < s.limiter.length) (inTime : InTime s) (client : String) :
    InTime (s.allowed client) := by
  intro sw runs
  refine (inTime sw (Limiter.allow_sweeper.symm.trans runs)).of_windows lasting
    Limiter.allow_length rfl fun other w held => ?_
  by_cases same : other = client
  · subst same
    rcases Limiter.get?_allow_own held with ⟨_, rfl⟩ | ⟨before, stood, started, _⟩
    · exact .inl rfl
    · exact .inr ⟨before, stood, started⟩
  · exact .inr ⟨w, (Limiter.get?_allow same).symm.trans held, rfl⟩

theorem startSweeper (inTime : InTime s) : InTime (Event.next s .startSweeper) := by
  intro sw runs
  rcases Option.or_eq_some_iff.1 runs with before | ⟨_, new⟩
  · obtain ⟨begun, turns, young⟩ := inTime sw before
    exact ⟨begun, turns, young⟩
  · cases new
    refine ⟨Nat.le_refl _, ?_, fun _ _ some => (Nat.lt_irrefl 0 some).elim⟩
    rw [Event.next, Nat.sub_self, Nat.zero_div]

theorem passage {span : Span} {after : Watch} (inTime : InTime s)
    (passage : Passage s span after) : InTime after := by
  intro sw runs
  cases passage with
  | turned before due =>
    cases runs
    have begun := Nat.le_add_right_of_le (inTime _ before).begun (k := span)
    refine ⟨begun, rfl, fun client w _ held => ?_⟩
    have left := ((Limiter.swept_sweep _ _ client w).1 held).2
    exact Nat.lt_of_le_of_lt (Nat.add_le_of_le_sub' begun (Nat.div_mul_le_self _ _))
      (lt_add_of_tsub_lt_left (Nat.lt_of_not_le left))
  | idle none =>
    obtain ⟨begun, turns, young⟩ := inTime sw runs
    refine ⟨Nat.le_add_right_of_le begun, Nat.le_antisymm ?_ (none sw runs), young⟩
    rw [turns]
    exact Nat.div_le_div_right (Nat.sub_le_sub_right (Nat.le_add_right _ _) _)

theorem pass (lasting : 0 < s.limiter.length) (inTime : InTime s) (e : Event) :
    InTime (e.pass s) := by
  cases e with
  | allow client => exact inTime.allowed lasting client
  | sweep =>
    intro sw runs
    exact (inTime sw runs).of_windows lasting rfl rfl fun client w held =>
      .inr ⟨w, Limiter.get?_of_sweep held, rfl⟩
  | stats => exact inTime
  | startSweeper => exact inTime.startSweeper
  | stopSweeper => nofun
  | takeTurns => exact inTime.passage (Admission.passage s 0)
  | advance span => exact inTime.passage (Admission.passage s span)

end InTime

theorem Event.next_length (s : Watch) (e : Event) :
    (e.next s).limiter.length = s.limiter.length := by
  cases e with
  | allow client => exact Limiter.allow_length
  | _ => exact (Event.aged rfl s).length

theorem length_after (s : Watch) (history : List Event) :
    (s.after history).limiter.length = s.limiter.length := by
  induction history generalizing s with
  | nil => rfl
  | cons e rest ih => exact (ih (e.next s)).trans (e.next_length s)

theorem length_lived (limit : Nat) (length : Span) (history : List Event) :
    (lived limit length history).limiter.length = length := length_after _ _

/-- In every history the sweeper is in time. -/
theorem inTime_lived {limit : Nat} {length : Span} (lasting : 0 < length) (history : List Event) :
    InTime (lived limit length history) := by
  induction history using List.reverseRecOn with
  | nil => exact .start limit length
  | append_singleton history e ih =>
    rw [lived_concat]
    exact ih.pass (by rwa [length_lived]) e

section

variable {s after : Watch} {span : Span} {e : Event} {sw : Sweeper}

theorem Passage.runs (passage : Passage s span after) (runs : s.limiter.sweeper = some sw) :
    ∃ later, after.limiter.sweeper = some later ∧ later.started = sw.started := by
  cases passage with
  | turned before due =>
    cases before.symm.trans runs
    exact ⟨_, rfl, rfl⟩
  | idle none => exact ⟨sw, runs, rfl⟩

/-- A sweeper that runs goes on until it is stopped. -/
theorem Event.runs_pass (going : e ≠ .stopSweeper) (runs : s.limiter.sweeper = some sw) :
    ∃ later, (e.pass s).limiter.sweeper = some later ∧ later.started = sw.started := by
  cases e with
  | allow client => exact ⟨sw, Limiter.allow_sweeper.trans runs, rfl⟩
  | startSweeper => exact ⟨sw, Option.or_eq_some_iff.2 (.inl runs), rfl⟩
  | stopSweeper => exact (going rfl).elim
  | takeTurns => exact (passage s 0).runs runs
  | advance span => exact (passage s span).runs runs
  | _ => exact ⟨sw, runs, rfl⟩

/-- The windows are swept if a turn of the sweeper comes due, and left alone if none does. -/
theorem Passage.windows (passage : Passage s span after) (runs : s.limiter.sweeper = some sw) :
    let due := sw.turns < (s.clock + span - sw.started) / s.limiter.length
    (due → Swept after.clock s.limiter after.limiter) ∧
      (¬ due → after.limiter.windows = s.limiter.windows) := by
  cases passage with
  | turned before due =>
    cases before.symm.trans runs
    exact ⟨fun _ => Limiter.swept_sweep _ _, fun idle => (idle due).elim⟩
  | idle none => exact ⟨fun due => (Nat.not_lt_of_le (none sw runs) due).elim, fun _ => rfl⟩

theorem Passage.stopped (passage : Passage s span after) (stopped : s.limiter.sweeper = none) :
    after.limiter = s.limiter := by
  cases passage with
  | turned runs due => cases stopped.symm.trans runs
  | idle none => rfl

/-- No sweeper runs until one is started. -/
theorem Event.stopped_pass (resting : e ≠ .startSweeper) (stopped : s.limiter.sweeper = none) :
    (e.pass s).limiter.sweeper = none := by
  cases e with
  | allow client => exact Limiter.allow_sweeper.trans stopped
  | startSweeper => exact (resting rfl).elim
  | stopSweeper => rfl
  | takeTurns => exact (congrArg _ ((passage s 0).stopped stopped)).trans stopped
  | advance span => exact (congrArg _ ((passage s span).stopped stopped)).trans stopped
  | _ => exact stopped

end

section

variable (limit : Nat) {length : Span} (before : List Event) {later : List Event}

/-- From its start until its stop a sweeper runs: the one that was started, if none ran before. -/
theorem runs_lived (lasting : 0 < length) (going : .stopSweeper ∉ later) :
    ∃ sw, (lived limit length (before ++ .startSweeper :: later)).limiter.sweeper = some sw ∧
      sw.started ≤ (lived limit length before).clock ∧
        ((lived limit length before).limiter.sweeper = none →
          sw.started = (lived limit length before).clock) := by
  rw [lived_append, List.foldl_cons]
  induction later using List.reverseRecOn with
  | nil =>
    cases ran : (lived limit length before).limiter.sweeper with
    | none => exact ⟨_, Option.or_eq_some_iff.2 (.inr ⟨ran, rfl⟩), Nat.le_refl _, fun _ => rfl⟩
    | some sw =>
      exact ⟨sw, Option.or_eq_some_iff.2 (.inl ran), (inTime_lived lasting before sw ran).begun,
        nofun⟩
  | append_singleton later e ih =>
    obtain ⟨sw, runs, started⟩ := ih fun stop => going (List.mem_append_left _ stop)
    have other : e ≠ .stopSweeper := fun stop =>
      going (List.mem_append_right _ (stop ▸ List.mem_singleton_self e))
    rw [List.foldl_concat]
    obtain ⟨next, runs, same⟩ := Event.runs_pass other runs
    exact ⟨next, runs, same ▸ started⟩

/-- From its stop until the next start no sweeper runs. -/
theorem stopped_lived (length : Span) (resting : .startSweeper ∉ later) :
    (lived limit length (before ++ .stopSweeper :: later)).limiter.sweeper = none := by
  rw [lived_append, List.foldl_cons]
  induction later using List.reverseRecOn with
  | nil => rfl
  | append_singleton later e ih =>
    rw [List.foldl_concat]
    refine Event.stopped_pass (fun start => ?_) (ih fun start => ?_)
    · exact resting (List.mem_append_right _ (start ▸ List.mem_singleton_self e))
    · exact resting (List.mem_append_left _ start)

end

/-- A turn of a sweeper comes due in a span if a multiple of the length after its start falls into
it. -/
theorem due_iff {length started clock span : Span} (lasting : 0 < length)
    (begun : started ≤ clock) :
    (clock - started) / length < (clock + span - started) / length ↔
      ∃ turn, clock < started + turn * length ∧ started + turn * length ≤ clock + span := by
  have later : started ≤ clock + span := Nat.le_add_right_of_le begun
  constructor
  · intro due
    refine ⟨_, ?_, Nat.add_le_of_le_sub' later (Nat.div_mul_le_self _ length)⟩
    exact (Nat.sub_lt_iff_lt_add' begun).1 (Nat.lt_mul_of_div_lt due lasting)
  · rintro ⟨turn, ahead, reached⟩
    calc (clock - started) / length
      _ < turn := (Nat.div_lt_iff_lt_mul lasting).2 ((Nat.sub_lt_iff_lt_add' begun).2 ahead)
      _ ≤ (clock + span - started) / length :=
        (Nat.le_div_iff_mul_le lasting).2 (Nat.le_sub_of_add_le' reached)

theorem asked_of_mem_visits {client : String} {s : Watch} {history : List Event} {v : Visit}
    (seen : v ∈ visits client s history) : .allow client ∈ history := by
  induction history generalizing s with
  | nil => cases seen
  | cons e rest ih =>
    cases e with
    | allow other =>
      rw [visits] at seen
      split at seen
      next same => exact same ▸ .head _
      next => exact .tail _ (ih seen)
    | _ => exact .tail _ (ih seen)

/-- The windows of a limiter whose sweeper runs have been opened in the last two lengths. -/
theorem tracked_le {limit : Nat} {length : Span} {history : List Event}
    (young : ∀ client w, (lived limit length history).limiter.windows.get? client = some w →
      (lived limit length history).clock < w.started + 2 * length) :
    (lived limit length history).limiter.tracked ≤
      {client | ∃ v ∈ visits client (.start limit length) (course history), v.opens = true ∧
        (lived limit length history).clock < v.moment + 2 * length}.ncard := by
  rw [Limiter.tracked_eq]
  refine Set.ncard_le_ncard (fun client ⟨w, held⟩ => ?_) ?_
  · rcases opened_of_held (course history) held with ⟨_, missing, _⟩ | ⟨v, seen, opening, moment⟩
    · cases missing
    · exact ⟨v, seen, opening, moment ▸ young client w held⟩
  · refine .subset ((List.finite_toSet (course history)).preimage ?_)
      fun client ⟨v, seen, _⟩ => asked_of_mem_visits seen
    exact Set.injOn_of_injective fun _ _ => Event.allow.inj

section

variable {s : Watch} {e : Event} {client : String}

/-- When no sweeper runs, a window of a client is touched by a request of that client and by a sweep
by hand only. -/
theorem get?_pass (stopped : s.limiter.sweeper = none) (other : e ≠ .sweep)
    (apart : e ≠ .allow client) :
    (e.pass s).limiter.windows.get? client = s.limiter.windows.get? client := by
  cases e with
  | allow asking => exact Limiter.get?_allow fun same => apart (same ▸ rfl)
  | sweep => exact (other rfl).elim
  | takeTurns => exact congrArg (·.windows.get? client) ((passage s 0).stopped stopped)
  | advance span => exact congrArg (·.windows.get? client) ((passage s span).stopped stopped)
  | _ => rfl

/-- When no sweeper runs, a client that has a window has one until a sweep by hand. -/
theorem exists_pass (stopped : s.limiter.sweeper = none) (other : e ≠ .sweep) {w : Window}
    (held : s.limiter.windows.get? client = some w) :
    ∃ next, (e.pass s).limiter.windows.get? client = some next := by
  by_cases own : e = .allow client
  · subst own
    change ∃ next, (s.limiter.allow s.clock client).2.windows.get? client = some next
    rcases Limiter.allow_windows s.clock client s.limiter with ⟨next, filed⟩ | same
    · rw [filed]
      exact ⟨next, (Directory.get?_set _ _ _ _).trans (if_pos rfl)⟩
    · rw [same]
      exact ⟨w, held⟩
  · exact ⟨w, (get?_pass stopped other own).trans held⟩

end

/-- What a sweep by hand comes to after some events. -/
structure SweptByHand (limit : Nat) (length : Span) (history : List Event) : Prop where
  /-- It forgets the windows that have ended, and no others. -/
  windows :
    let s := lived limit length history
    Swept s.clock s.limiter (lived limit length (history ++ [.sweep])).limiter
  /-- The number that it tells is the number of these. -/
  told :
    let s := lived limit length history
    s.limiter.reap s.clock =
      (s.limiter.windows.entries.countP fun e => length ≤ s.clock - e.2.started,
        (lived limit length (history ++ [.sweep])).limiter)
  /-- The number of windows drops by as many. -/
  tracked :
    let s := lived limit length history
    (s.limiter.reap s.clock).2.stats.trackedClients + (s.limiter.reap s.clock).1 =
      s.limiter.stats.trackedClients

/-- What a sweeper comes to that was started after some events and has not been stopped since. -/
structure Running (limit : Nat) (length : Span) (before history : List Event) : Prop where
  /-- It sweeps when, since it was started, a multiple of the length has passed: at the end of each
  span in which that happens once or more often, and not in other spans. -/
  turn :
    let s := lived limit length history
    ∃ started ≤ (lived limit length before).clock,
      ((lived limit length before).limiter.sweeper = none →
        started = (lived limit length before).clock) ∧
      ∀ span,
        let after := lived limit length (history ++ [.advance span])
        let due := ∃ turn, s.clock < started + turn * length ∧
          started + turn * length ≤ s.clock + span
        (due → Swept after.clock s.limiter after.limiter) ∧
          (¬ due → after.limiter.windows = s.limiter.windows)
  /-- From its first turn on no window is as old as twice the length. -/
  young : let s := lived limit length history
    (lived limit length before).clock + length ≤ s.clock →
      ∀ client w, s.limiter.windows.get? client = some w → s.clock < w.started + 2 * length
  /-- There are no more windows then than clients that have opened one within that time. -/
  few : let s := lived limit length history
    (lived limit length before).clock + length ≤ s.clock →
      s.limiter.stats.trackedClients ≤
        {client | ∃ v ∈ visits client (.start limit length) (course history), v.opens = true ∧
          s.clock < v.moment + 2 * length}.ncard
  /-- To start it again changes nothing. -/
  again : lived limit length (history ++ [.startSweeper]) = lived limit length history

/-- What an event that is not a sweep by hand comes to while no sweeper runs. -/
structure Resting (limit : Nat) (length : Span) (history : List Event) (e : Event) : Prop where
  /-- No client loses its window. -/
  kept (client : String) (w : Window) :
    (lived limit length history).limiter.windows.get? client = some w →
      ∃ next, (lived limit length (history ++ [e])).limiter.windows.get? client = some next
  /-- Only a request of the client itself touches it. -/
  same (client : String) : e ≠ .allow client →
    (lived limit length (history ++ [e])).limiter.windows.get? client =
      (lived limit length history).limiter.windows.get? client
  tracked : (lived limit length history).limiter.stats.trackedClients ≤
    (lived limit length (history ++ [e])).limiter.stats.trackedClients

/-- How the windows of a limiter are kept in the course of some events. -/
structure Housekeeping (limit : Nat) (length : Span) (history : List Event) : Prop where
  byHand : SweptByHand limit length history
  running (before later : List Event) : history = before ++ .startSweeper :: later →
    .stopSweeper ∉ later → Running limit length before history
  resting (before later : List Event) : history = before ++ .stopSweeper :: later →
    .startSweeper ∉ later → ∀ e, e ≠ .sweep → Resting limit length history e

section

variable {limit : Nat} {length : Span} {before later : List Event}

theorem sweptByHand (limit : Nat) (length : Span) (history : List Event) :
    SweptByHand limit length history where
  windows := by
    rw [lived_concat]
    exact Limiter.swept_sweep _ _
  told := by
    rw [lived_concat]
    dsimp only
    rw [Limiter.reap_eq, length_lived]
    rfl
  tracked := by
    dsimp only
    rw [Limiter.reap_eq]
    exact Limiter.tracked_sweep _ _

theorem running (lasting : 0 < length) (going : .stopSweeper ∉ later) :
    Running limit length before (before ++ .startSweeper :: later) := by
  obtain ⟨sw, runs, started, alone⟩ := runs_lived limit before lasting going
  set s := lived limit length (before ++ .startSweeper :: later) with at_last
  have lasts : s.limiter.length = length := length_lived _ _ _
  have punctual : Punctual s sw := inTime_lived lasting _ sw runs
  have young (turned : (lived limit length before).clock + length ≤ s.clock) (client : String)
      (w : Window) (held : s.limiter.windows.get? client = some w) :
      s.clock < w.started + 2 * length := by
    have turned : sw.started + s.limiter.length ≤ s.clock := by
      rw [lasts]
      exact Nat.le_trans (Nat.add_le_add_right started _) turned
    have age := punctual.age (by rwa [lasts]) turned held
    rwa [lasts] at age
  refine ⟨⟨sw.started, started, alone, fun span => ?_⟩, young,
    fun turned => tracked_le (young turned), ?_⟩
  · rw [lived_concat, ← at_last]
    dsimp only
    rw [← due_iff lasting punctual.begun, ← lasts, ← punctual.turns]
    exact (passage s span).windows runs
  · rw [lived_concat, ← at_last]
    exact congrArg (Watch.mk · s.clock) (Limiter.startSweeper_of_runs runs)

theorem resting {e : Event} (other : e ≠ .sweep) (resting : .startSweeper ∉ later) :
    Resting limit length (before ++ .stopSweeper :: later) e := by
  have stopped := stopped_lived limit before length resting
  have kept (client : String) (w : Window) (held : (lived limit length
      (before ++ .stopSweeper :: later)).limiter.windows.get? client = some w) :=
    exists_pass stopped other held
  constructor
  · rw [lived_concat]
    exact kept
  · rw [lived_concat]
    exact fun client apart => get?_pass stopped other apart
  · rw [lived_concat]
    exact Directory.size_le_size kept

end

/-- In every history each sweep by hand forgets the windows that have ended, and tells how many they
were. A sweeper does the same at its turns, so that none grows twice as old as a window may last, and
to start it again is without effect. When it has been stopped, nothing but a sweep by hand forgets
a window. -/
theorem sweeper_bounds_windows {limit : Nat} {length : Span} (lasting : 0 < length)
    (history : List Event) : Housekeeping limit length history where
  byHand := sweptByHand limit length history
  running := by
    rintro before later rfl going
    exact running lasting going
  resting := by
    rintro before later rfl rest e other
    exact resting other rest

/-- The turns at 10 and at 20 are one sweep, and the window that opens then outlasts the sweeper. -/
theorem stopped_sweeper_keeps_window :
    let history : List Event :=
      [.allow "a", .startSweeper, .advance 25, .allow "b", .startSweeper, .advance 4,
        .stopSweeper, .advance 100]
    0 < 10 ∧ Housekeeping 2 10 history ∧
      (lived 2 10 history).limiter.stats.trackedClients = 1 :=
  ⟨by decide, sweeper_bounds_windows (by decide) _, by decide⟩

end Admission

end Agora
