import Agora.Proofs.Admittance
import Agora.Proofs.AdmissionBound
import Agora.Proofs.ConfigurationRules
import Agora.Proofs.Sessions

set_option autoImplicit false

namespace Agora

open Http (Request Response)
open Time (Span)

namespace Config

variable {c : Config}

/-- A valid configuration leaves time for requests and room in windows, which are neither empty nor
longer than the longest lifetime. -/
structure Limits (c : Config) : Prop where
  time : 0 < c.timeouts.request
  room : 0 < c.rateLimit.maxRequests
  lasting : 0 < c.rateLimit.window
  short : c.rateLimit.window ≤ Rule.longestLifetime

theorem Valid.limits (valid : c.Valid) : Limits c :=
  have sound := valid_iff_sound.1 valid
  ⟨sound.request.1, sound.maxRequests, sound.window.1, sound.window.2⟩

end Config

/-- The whole seconds that cover a span are the fewest that do, if they are not too many. -/
theorem Time.Span.coveringSeconds_spec {s : Span} {most : Nat} (positive : 0 < s)
    (within : s ≤ ofSeconds most) (short : most ≤ Config.Rule.longestLifetime) :
    1 ≤ s.coveringSeconds ∧ s.coveringSeconds ≤ most ∧
      ofSeconds (s.coveringSeconds - 1) < s ∧ s ≤ ofSeconds s.coveringSeconds := by
  unfold coveringSeconds ofSeconds second Config.Rule.longestLifetime at *
  unfold Span at *
  omega

namespace Service

open Admission (Aged Follows Orderly Watch Window)

/-- What may happen to a service and its limiter: the events of a session, a step of a request that
is under way beside others, and what is done to the windows and their sweeper by hand. -/
inductive Occurrence where
  | event (e : Event)
  | turn (env : Env) (cutoff : Option Span) (step : Step)
  | sweep
  | startSweeper
  | stopSweeper

namespace Occurrence

/-- The state after an occurrence. -/
def next (setting : Setting) (s : State) : Occurrence → State
  | .event e => e.next setting s
  | .turn env cutoff step => (step.perform env cutoff s).2
  | .sweep => s.sweep s.clock
  | .startSweeper => { s.rest with limiter := s.rest.limiter.startSweeper s.rest.clock }
  | .stopSweeper => { s with limiter := s.limiter.stopSweeper }

def client? (c : Config) : Occurrence → Option String
  | .event (.request _ q) => some (clientOf c q)
  | .turn _ _ (.allow client) => some client
  | _ => none

end Occurrence

namespace Setting

variable (setting : Setting)

/-- The state after some occurrences. -/
def onward (s : State) (later : List Occurrence) : State :=
  later.foldl (Occurrence.next setting) s

/-- The state that the traffic since the start has come to. -/
def traffic (past : List Occurrence) : State := setting.onward (State.ofConfig setting.config) past

/-- The moments at which requests of a client come in. -/
def arrivals (client : String) : State → List Occurrence → List Span
  | _, [] => []
  | s, e :: later =>
    let rest := arrivals client (e.next setting s) later
    if e.client? setting.config = some client then s.clock :: rest else rest

theorem traffic_append_cons (past later : List Occurrence) (e : Occurrence) :
    setting.traffic (past ++ e :: later) =
      setting.onward (e.next setting (setting.traffic past)) later := List.foldl_append

end Setting

section

variable {setting : Setting} {s : State} {e : Occurrence}

/-- Where requests may take some time, one that is not started has too long a body. -/
theorem respond_of_tooLong {env : Env} {q : Request} (time : 0 < env.config.timeouts.request)
    (refused : ¬started env q) :
    tooLong env.config q = true ∧ (respond env q s).1.status = 413 ∧ (respond env q s).2 = s := by
  have lasting : Span.ofSeconds env.config.timeouts.request ≠ 0 :=
    Nat.mul_ne_zero (by decide) (Nat.ne_of_gt time)
  have long : tooLong env.config q = true := by
    cases declared : tooLong env.config q with
    | true => rfl
    | false => exact absurd ⟨lasting, declared⟩ refused
  have answered : answer env q s = (tooLarge, s) := (if_neg lasting).trans (if_pos long)
  rw [respond_eq, answered, finish_status]
  exact ⟨long, rfl, rfl⟩

theorem Event.aged {e : Event} (other : (Occurrence.event e).client? setting.config = none)
    (s : State) : Aged s.watch (e.next setting s).watch := by
  cases e with
  | request o q => cases other
  | advance span => exact s.aged_advance span
  | _ => exact .refl _

/-- Whatever happens is for the limiter one request of a client, or time that passes. -/
theorem Occurrence.next_cases (enabled : setting.config.rateLimit.enabled = true) (e : Occurrence)
    (s : State) :
    (∃ client, e.client? setting.config = some client ∧
      Aged (s.watch.allowed client) (e.next setting s).watch) ∨
    Aged s.watch (e.next setting s).watch := by
  cases e with
  | event e =>
    cases e with
    | request o q =>
      by_cases ready : started (setting.env o) q
      · cases verdict : (s.limiter.allow s.clock (clientOf setting.config q)).1 with
        | allowed => exact .inl ⟨_, rfl, (respond_of_allowed ready enabled verdict).2⟩
        | limited wait =>
          obtain ⟨_, limiter, clock⟩ := respond_of_limited ready enabled verdict
          exact .inr (.of_windows (congrArg (·.limit) limiter) (congrArg (·.length) limiter)
            (congrArg (·.windows) limiter) (Nat.le_of_eq clock.symm))
      · have same : (Event.request o q).next setting s = s := (respond_of_refused ready).2
        rw [next, same]
        exact .inr (.refl _)
    | _ => exact .inr (Event.aged rfl s)
  | turn env cutoff step =>
    cases step with
    | allow client => exact .inl ⟨client, rfl, .refl _⟩
    | _ => exact .inr (Step.perform_aged env cutoff s rfl)
  | sweep => exact .inr (.of_sweep rfl rfl rfl (Nat.le_refl _) (Nat.le_refl s.clock))
  | startSweeper => exact .inr (s.aged_rest.trans (.of_windows rfl rfl rfl (Nat.le_refl _)))
  | stopSweeper => exact .inr (.of_windows rfl rfl rfl (Nat.le_refl _))

/-- The limiter has the settings of a configuration, and all its windows are in order. -/
structure Regular (c : Config) (s : State) : Prop where
  limit : s.limiter.limit = c.rateLimit.maxRequests
  length : s.limiter.length = Span.ofSeconds c.rateLimit.window
  orderly : Orderly s.watch

theorem Regular.next (regular : Regular setting.config s)
    (room : 0 < setting.config.rateLimit.maxRequests)
    (enabled : setting.config.rateLimit.enabled = true) (e : Occurrence) :
    Regular setting.config (e.next setting s) := by
  have positive : 1 ≤ s.watch.limiter.limit := regular.limit ▸ room
  rcases e.next_cases enabled s with ⟨client, _, aged⟩ | aged
  · exact {
      limit := aged.limit.trans (Admission.Limiter.allow_limit.trans regular.limit)
      length := aged.length.trans (Admission.Limiter.allow_length.trans regular.length)
      orderly := (regular.orderly.allowed positive client).aged aged }
  · exact {
      limit := aged.limit.trans regular.limit
      length := aged.length.trans regular.length
      orderly := regular.orderly.aged aged }

/-- At every moment of the traffic the limiter is as it should be. -/
theorem Setting.traffic_regular (room : 0 < setting.config.rateLimit.maxRequests)
    (enabled : setting.config.rateLimit.enabled = true) (past : List Occurrence) :
    Regular setting.config (setting.traffic past) := by
  have onward (later : List Occurrence) {s : State} (regular : Regular setting.config s) :
      Regular setting.config (setting.onward s later) := by
    induction later generalizing s with
    | nil => exact regular
    | cons e later ih => exact ih (regular.next room enabled e)
  exact onward past ⟨rfl, rfl, Admission.orderly_start _ _⟩

theorem Occurrence.next_clock (enabled : setting.config.rateLimit.enabled = true) (e : Occurrence)
    (s : State) : s.clock ≤ (e.next setting s).clock := by
  rcases e.next_cases enabled s with ⟨client, _, aged⟩ | aged
  · exact aged.clock
  · exact aged.clock

theorem Setting.mem_arrivals_cons {client : String} {later : List Occurrence} {moment : Span} :
    moment ∈ setting.arrivals client s (e :: later) ↔
      (e.client? setting.config = some client ∧ moment = s.clock) ∨
        moment ∈ setting.arrivals client (e.next setting s) later := by
  rw [arrivals]
  split
  · rename_i comes
    simp only [List.mem_cons, comes, true_and]
  · rename_i other
    simp only [other, false_and, false_or]

/-- No request comes in later than at the end. -/
theorem Setting.arrivals_le (enabled : setting.config.rateLimit.enabled = true) {client : String}
    (later : List Occurrence) (s : State) :
    s.clock ≤ (setting.onward s later).clock ∧
      ∀ moment ∈ setting.arrivals client s later, moment ≤ (setting.onward s later).clock := by
  induction later generalizing s with
  | nil => exact ⟨Nat.le_refl _, nofun⟩
  | cons e later ih =>
    obtain ⟨clock, rest⟩ := ih (e.next setting s)
    have order : s.clock ≤ (setting.onward s (e :: later)).clock :=
      Nat.le_trans (e.next_clock enabled s) clock
    refine ⟨order, fun moment arrived => ?_⟩
    rcases mem_arrivals_cons.1 arrived with ⟨_, rfl⟩ | arrived
    · exact order
    · exact rest moment arrived

section

variable {limit : Nat} {length : Span} {client : String} {w : Window}

/-- A window that is full and has not ended is not changed by a request of its client. -/
theorem ask_of_full {now : Span} (full : limit ≤ w.count) (begun : w.started ≤ now)
    (early : now < w.started + length) :
    (Admission.Alone.ask limit length now (some w)).2 = w := by
  have young : ¬length ≤ now - w.started :=
    Nat.not_le_of_lt ((Nat.sub_lt_iff_lt_add' begun).2 early)
  simp only [Admission.Alone.ask, if_neg young, if_neg (Nat.not_lt_of_le full)]

/-- As long as no request of the client comes in after its end, a full window stays as it is. -/
theorem follows_onward (enabled : setting.config.rateLimit.enabled = true)
    (full : limit ≤ w.count) (later : List Occurrence) {s : State}
    (follows : Follows limit length client (some w) s.watch) (begun : w.started ≤ s.clock)
    (early : ∀ moment ∈ setting.arrivals client s later, moment < w.started + length) :
    Follows limit length client (some w) (setting.onward s later).watch := by
  induction later generalizing s with
  | nil => exact follows
  | cons e later ih =>
    have clock := e.next_clock enabled s
    have on : Follows limit length client (some w) (e.next setting s).watch := by
      rcases e.next_cases enabled s with ⟨other, comes, aged⟩ | aged
      · by_cases same : other = client
        · subst same
          have soon : s.watch.clock < w.started + length :=
            early _ (Setting.mem_arrivals_cons.2 (.inl ⟨comes, rfl⟩))
          have own := follows.own
          have begun : w.started ≤ s.watch.clock := begun
          rw [ask_of_full full begun soon] at own
          exact own.aged aged
        · exact (follows.other same).aged aged
      · exact follows.aged aged
    exact ih on (Nat.le_trans begun clock) fun moment arrived =>
      early moment (Setting.mem_arrivals_cons.2 (.inr arrived))

end

end

/-- The client of a request has been told when to come back: its window is full, the time to wait is
what is left of it, and the answer names the seconds that cover this time. -/
structure TurnedBack (env : Env) (q : Request) (s : State) (w : Window) (wait : Span)
    (seconds : Nat) : Prop where
  window : s.limiter.windows.get? (clientOf env.config q) = some w
  full : w.count = env.config.rateLimit.maxRequests
  ends : s.clock + wait = w.started + Span.ofSeconds env.config.rateLimit.window
  told : (respond env q s).1.headers.first? "retry-after" =
    some (Bytes.ofString (toString seconds))
  least : 1 ≤ seconds
  most : seconds ≤ env.config.rateLimit.window
  above : Span.ofSeconds (seconds - 1) < wait
  below : wait ≤ Span.ofSeconds seconds

/-- The client of a request is still to wait: it is told so again, or that the body is too long, and
its window stays as it is. -/
structure StillWaits (env : Env) (q : Request) (s : State) (w : Window) : Prop where
  status : (respond env q s).1.status = if tooLong env.config q then 413 else 429
  limiter : (respond env q s).2.limiter = s.limiter
  window : s.limiter.windows.get? (clientOf env.config q) = some w

theorem clock_at_end {started now length : Nat} (begun : started ≤ now)
    (young : now - started < length) : now + (length - (now - started)) = started + length := by
  omega

section

variable {env : Env} {q : Request} {s : State}

/-- An answer for want of admission turns the client back, whose window stays. -/
theorem turnedBack (limits : Config.Limits env.config)
    (enabled : env.config.rateLimit.enabled = true) (regular : Regular env.config s)
    (limited : (respond env q s).1.status = 429) :
    ∃ w wait seconds, TurnedBack env q s w wait seconds ∧
      w.started ≤ (respond env q s).2.clock ∧
      Follows env.config.rateLimit.maxRequests (Span.ofSeconds env.config.rateLimit.window)
        (clientOf env.config q) (some w) (respond env q s).2.watch := by
  have ready : started env q := Classical.byContradiction fun refused => by
    obtain ⟨_, status, _⟩ := respond_of_tooLong (s := s) limits.time refused
    rw [status] at limited
    cases limited
  cases verdict : (s.limiter.allow s.clock (clientOf env.config q)).1 with
  | allowed => exact absurd limited (respond_of_allowed ready enabled verdict).1
  | limited wait =>
    obtain ⟨answered, limiter, clock⟩ := respond_of_limited ready enabled verdict
    obtain ⟨_, w, current, full, left⟩ := Admission.Limiter.allow_limited verdict
    obtain ⟨held, live⟩ := Admission.Limiter.current?_eq_some.1 current
    have young := Admission.Window.live_iff.1 live
    have begun : w.started ≤ s.clock := regular.orderly.begun _ w held
    rw [regular.length] at left young
    have positive : 0 < wait := left ▸ Nat.sub_pos_of_lt young
    have within : wait ≤ Span.ofSeconds env.config.rateLimit.window := left ▸ Nat.sub_le _ _
    obtain ⟨least, most, above, below⟩ :=
      Span.coveringSeconds_spec positive within limits.short
    have watch : (respond env q s).2.watch = s.watch := by
      rw [State.watch, limiter, clock]
      rfl
    have follows : Follows s.limiter.limit s.limiter.length (clientOf env.config q) (some w)
        s.watch := Admission.follows_held (s := s.watch) held
    rw [regular.limit, regular.length] at follows
    refine ⟨w, wait, wait.coveringSeconds, ?_, clock ▸ begun, watch ▸ follows⟩
    exact {
      window := held
      full := Nat.le_antisymm (regular.limit ▸ (regular.orderly.count _ w held).2)
        (regular.limit ▸ full)
      ends := left ▸ clock_at_end begun young
      told := by
        rw [answered, finish_header _ (by decide) (by decide)]
        rfl
      least, most, above, below }

/-- Until its full window is over, a client that asks again is to wait. -/
theorem stillWaits (limits : Config.Limits env.config)
    (enabled : env.config.rateLimit.enabled = true) {w : Window}
    (full : env.config.rateLimit.maxRequests ≤ w.count)
    (follows : Follows env.config.rateLimit.maxRequests
      (Span.ofSeconds env.config.rateLimit.window) (clientOf env.config q) (some w) s.watch)
    (begun : w.started ≤ s.clock)
    (early : s.clock < w.started + Span.ofSeconds env.config.rateLimit.window) :
    StillWaits env q s w := by
  have live : w.live (Span.ofSeconds env.config.rateLimit.window) s.clock = true :=
    Admission.Window.live_iff.2 ((Nat.sub_lt_iff_lt_add' begun).2 early)
  have current : s.limiter.current? s.clock (clientOf env.config q) = some w :=
    (follows.current (Nat.le_refl s.clock)).trans (Option.filter_some_pos live)
  have window := (Admission.Limiter.current?_eq_some.1 current).1
  have verdict : (s.limiter.allow s.clock (clientOf env.config q)).1 =
      .limited (s.limiter.length - (s.clock - w.started)) := by
    have none : ¬w.count < s.limiter.limit := follows.most ▸ Nat.not_lt_of_le full
    rw [Admission.Limiter.allow_of_some current, if_neg none]
  by_cases ready : started env q
  · obtain ⟨answered, limiter, _⟩ := respond_of_limited ready enabled verdict
    refine ⟨?_, limiter, window⟩
    rw [answered, finish_status, tooLong, ready.2]
    rfl
  · obtain ⟨long, status, same⟩ := respond_of_tooLong (s := s) limits.time ready
    refine ⟨?_, congrArg (·.limiter) same, window⟩
    rw [status, long, if_pos rfl]

/-- Once its window is over, a client that asks again is not told to wait. -/
theorem not_limited_of_ended (limits : Config.Limits env.config)
    (enabled : env.config.rateLimit.enabled = true) {w : Window}
    (follows : Follows env.config.rateLimit.maxRequests
      (Span.ofSeconds env.config.rateLimit.window) (clientOf env.config q) (some w) s.watch)
    (ended : w.started + Span.ofSeconds env.config.rateLimit.window ≤ s.clock) :
    (respond env q s).1.status ≠ 429 := by
  have dead : w.live (Span.ofSeconds env.config.rateLimit.window) s.clock = false :=
    decide_eq_false (Nat.not_lt_of_le (Nat.le_sub_of_add_le' ended))
  have current : s.limiter.current? s.clock (clientOf env.config q) = none :=
    (follows.current (Nat.le_refl s.clock)).trans (Option.filter_some_neg dead)
  by_cases ready : started env q
  · exact (respond_of_allowed ready enabled
      (congrArg Prod.fst (Admission.Limiter.allow_of_none current))).1
  · obtain ⟨_, status, _⟩ := respond_of_tooLong (s := s) limits.time ready
    rw [status]
    decide

end

/-- Where a valid configuration limits requests, a client that is not admitted is told when to come
back: `seconds` covers the time to wait, which is what is left of its window. Whatever the traffic,
until then each request of the client is answered so again, unless its body is declared too long,
and the window stays as it is; and the first request of the client after that is answered
otherwise. -/
theorem retry_after_kept (setting : Setting) (valid : setting.config.Valid)
    (enabled : setting.config.rateLimit.enabled = true) (past : List Occurrence) (o : Occasion)
    (q : Request)
    (limited : (respond (setting.env o) q (setting.traffic past)).1.status = 429) :
    ∃ w wait seconds, TurnedBack (setting.env o) q (setting.traffic past) w wait seconds ∧
      ∀ (later : List Occurrence) (o' : Occasion) (q' : Request),
        clientOf setting.config q' = clientOf setting.config q →
        let back := (setting.traffic past).clock + wait
        let refused := (respond (setting.env o) q (setting.traffic past)).2
        let s := setting.traffic (past ++ .event (.request o q) :: later)
        (s.clock < back → StillWaits (setting.env o') q' s w) ∧
        (back ≤ s.clock →
          (∀ moment ∈ setting.arrivals (clientOf setting.config q) refused later, moment < back) →
          (respond (setting.env o') q' s).1.status ≠ 429) := by
  have limits := valid.limits
  have regular := Setting.traffic_regular limits.room enabled past
  obtain ⟨w, wait, seconds, turned, begun, start⟩ :=
    turnedBack (limits : Config.Limits (setting.env o).config) enabled regular limited
  refine ⟨w, wait, seconds, turned, ?_⟩
  intro later o' q' same back refused s
  have reached : s = setting.onward refused later := setting.traffic_append_cons _ _ _
  have ended : back = w.started + Span.ofSeconds setting.config.rateLimit.window := turned.ends
  obtain ⟨onward, arrived⟩ := Setting.arrivals_le enabled later refused
  have follows (early : ∀ moment ∈ setting.arrivals (clientOf setting.config q) refused later,
      moment < back) :
      Follows setting.config.rateLimit.maxRequests
        (Span.ofSeconds setting.config.rateLimit.window) (clientOf setting.config q') (some w)
        s.watch := by
    rw [same, reached]
    exact follows_onward enabled (Nat.le_of_eq turned.full.symm) later start begun
      fun moment arrives => ended ▸ early moment arrives
  refine ⟨fun early => ?_, fun late first => ?_⟩
  · refine stillWaits limits enabled (Nat.le_of_eq turned.full.symm) (follows ?_) ?_ ?_
    · exact fun moment arrives => Nat.lt_of_le_of_lt (reached ▸ arrived moment arrives) early
    · exact Nat.le_trans begun (reached ▸ onward)
    · exact ended ▸ early
  · exact not_limited_of_ended limits enabled (follows first) (ended ▸ late)

namespace Sample

/-- A service that admits one request of each client in a minute. -/
def strict : Setting where
  config := { rateLimit := { maxRequests := 1 } }

def visit : Request where
  method := .get
  target := "/"

theorem strict_valid : strict.config.Valid := by decide +kernel

theorem visit_limited :
    (respond (strict.env start) visit (strict.traffic [.event (.request start visit)])).1.status =
      429 := by
  decide +kernel

theorem visit_clock :
    (strict.traffic [.event (.request start visit), .event (.request start visit)]).clock = 0 := by
  decide +kernel

end Sample

/-- The second visit is told to wait, and so is the third that comes at once. -/
theorem second_visit_waits :
    Sample.strict.config.Valid ∧ Sample.strict.config.rateLimit.enabled = true ∧
    (respond (Sample.strict.env Sample.start) Sample.visit
      (Sample.strict.traffic [.event (.request Sample.start Sample.visit)])).1.status = 429 ∧
    ∃ w wait seconds, TurnedBack (Sample.strict.env Sample.start) Sample.visit
        (Sample.strict.traffic [.event (.request Sample.start Sample.visit)]) w wait seconds ∧
      StillWaits (Sample.strict.env Sample.start) Sample.visit
        (Sample.strict.traffic [.event (.request Sample.start Sample.visit),
          .event (.request Sample.start Sample.visit)]) w := by
  obtain ⟨w, wait, seconds, turned, later⟩ := retry_after_kept Sample.strict Sample.strict_valid rfl
    [.event (.request Sample.start Sample.visit)] Sample.start Sample.visit Sample.visit_limited
  have soon := (later [] Sample.start Sample.visit rfl).1
  refine ⟨Sample.strict_valid, rfl, Sample.visit_limited, w, wait, seconds, turned, soon ?_⟩
  have ahead : 0 < wait := Nat.lt_of_le_of_lt (Nat.zero_le _) turned.above
  exact Nat.lt_of_lt_of_le (Sample.visit_clock ▸ ahead) (Nat.le_add_left _ _)

end Service

end Agora
