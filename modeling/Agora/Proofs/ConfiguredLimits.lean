import Agora.Proofs.Logins
import Agora.Proofs.RetryAfter

set_option autoImplicit false

namespace Agora

open Time (Span Stamp)

/-- The settings that arithmetic is done with: how long each lifetime may be and which must not be
empty, that there is room in a window, and that passwords can be hashed. -/
structure Config.Bounds (c : Config) : Prop where
  request : 1 ≤ c.timeouts.request ∧ c.timeouts.request ≤ 31536000
  storeCall : 1 ≤ c.timeouts.storeCall ∧ c.timeouts.storeCall ≤ 31536000
  room : 1 ≤ c.rateLimit.maxRequests
  window : 1 ≤ c.rateLimit.window ∧ c.rateLimit.window ≤ 31536000
  ttl : 1 ≤ c.cache.ttl ∧ c.cache.ttl ≤ 31536000
  jitter : c.cache.jitter ≤ 31536000
  invitation : 1 ≤ c.auth.invitationTtl ∧ c.auth.invitationTtl ≤ 31536000
  expiry : 1 ≤ c.auth.token.expiry ∧ c.auth.token.expiry ≤ 31536000
  leeway : c.auth.token.leeway ≤ 31536000
  cost : Credential.Password.costAllowed c.auth.passwordCost = true

theorem Config.Valid.bounds {c : Config} (valid : c.Valid) : Config.Bounds c :=
  have sound := valid_iff_sound.1 valid
  { request := sound.request
    storeCall := sound.storeCall
    room := sound.maxRequests
    window := sound.window
    ttl := sound.ttl
    jitter := sound.jitter
    invitation := sound.invitation
    expiry := sound.expiry
    leeway := sound.leeway
    cost := Credential.Password.costAllowed_iff.2 sound.cost }

/-- The time lies in the years from 2025 to 2099, whether it is shown by the calendar or by a clock
that has run since the start of 1970 at most. -/
structure Time.Era (now : Stamp) (clock : Span) : Prop where
  since : 1735689600 ≤ now.second
  before : now.second < 4102444800
  running : clock ≤ Span.ofSeconds 4102444800

/-- The calendar reaches far beyond the next hundred thousand years. -/
theorem Time.Stamp.representable_of_near {t : Stamp} (since : 0 ≤ t.second)
    (near : t.second < 2 ^ 41) : t.representable = true := by
  obtain ⟨era, year, day, month, parts, date⟩ := Date.ofDays_parts (t.second / 86400)
  have total := parts.total
  have short := parts.year_lt
  have inside := parts.day_le
  unfold daysBefore at total
  have eras : 0 ≤ era ∧ era ≤ 200 := by omega
  simp only [representable, date, Date.ofParts, firstYear, lastYear, Bool.and_eq_true,
    decide_eq_true_eq, Int.ofNat_eq_natCast]
  split <;> omega

theorem Time.Era.lt_clockEnd {now : Stamp} {clock span : Span} (era : Era now clock)
    (short : span ≤ Span.ofSeconds 63072000) : clock + span < clockEnd := by
  have running := era.running
  unfold Span.ofSeconds Span.second clockEnd at *
  unfold Span at *
  simp only [Span.ofSeconds, Span.second]
  omega

theorem Time.Era.invitation_ends {c : Config} (bounds : Config.Bounds c) {now : Stamp}
    {clock : Span} (era : Time.Era now clock) :
    (now.plus c.auth.invitationTtl).representable = true := by
  have since := era.since
  have before := era.before
  have ttl := bounds.invitation
  apply Stamp.representable_of_near
  · show 0 ≤ now.second + (c.auth.invitationTtl : Int)
    omega
  · show now.second + (c.auth.invitationTtl : Int) < 2 ^ 41
    omega

/-- A token that is issued in the era expires within the range of its count, and the tolerated skew
takes no time around the end of its range. -/
theorem Token.times_within {c : Config} (bounds : Config.Bounds c) {now : Stamp} {clock : Span}
    (era : Time.Era now clock) (id : Int) :
    ((Claims.issue c.auth.token now.second id).expires = now.second + c.auth.token.expiry ∧
      Json.FitsInt64 (now.second + c.auth.token.expiry)) ∧
    wrapWord (now.second - c.auth.token.leeway) = now.second - c.auth.token.leeway ∧
    wrapWord (now.second + c.auth.token.leeway) = now.second + c.auth.token.leeway := by
  have since := era.since
  have before := era.before
  have expiry := bounds.expiry
  have leeway := bounds.leeway
  have lifetime : Claims.wrap (c.auth.token.expiry : Int) = c.auth.token.expiry :=
    wrap_of_fits ⟨by omega, by omega⟩
  have fits : Json.FitsInt64 (now.second + c.auth.token.expiry) := ⟨by omega, by omega⟩
  refine ⟨⟨?_, fits⟩, ?_, ?_⟩
  · rw [Claims.issue, lifetime]
    exact wrap_of_fits fits
  · exact Int.emod_eq_of_lt (by omega) (by omega)
  · exact Int.emod_eq_of_lt (by omega) (by omega)

/-- Even with all its jitter, an entry lives for two years at most. -/
theorem Config.Bounds.entry_life {c : Config} (bounds : Config.Bounds c) :
    Span.ofSeconds c.cache.ttl + Span.ofSeconds c.cache.jitter ≤ Span.ofSeconds 63072000 := by
  have ttl := bounds.ttl
  have jitter := bounds.jitter
  rw [Span.ofSeconds, Span.ofSeconds, ← Nat.mul_add]
  exact Nat.mul_le_mul_left _ (by omega)

/-- A client that is limited is to wait for some time, and for no longer than a window. -/
theorem Admission.Limiter.wait_of_limited {l : Limiter} {now wait : Span} {client : String}
    (limited : (l.allow now client).1 = .limited wait) : 0 < wait ∧ wait ≤ l.length := by
  obtain ⟨_, w, current, _, left⟩ := allow_limited limited
  have live := Window.live_iff.1 (current?_eq_some.1 current).2
  exact ⟨left ▸ Nat.sub_pos_of_lt live, left ▸ Nat.sub_le _ _⟩

/-- The seconds that cover a wait are computed in the range of their count, and are the fewest. -/
theorem Config.Bounds.wait_covered {c : Config} (bounds : Config.Bounds c) {wait : Span}
    (positive : 0 < wait) (within : wait ≤ Span.ofSeconds c.rateLimit.window) :
    (wait + (Span.second - 1)) / Span.second < 2 ^ 64 ∧
      Span.ofSeconds (wait.coveringSeconds - 1) < wait ∧
      wait ≤ Span.ofSeconds wait.coveringSeconds ∧
      wait.coveringSeconds ≤ c.rateLimit.window := by
  obtain ⟨_, most, above, below⟩ := Span.coveringSeconds_spec positive within bounds.window.2
  refine ⟨?_, above, below, most⟩
  have year : wait ≤ 1000000000 * 31536000 :=
    Nat.le_trans within (Nat.mul_le_mul_left _ bounds.window.2)
  show (wait + 999999999) / 1000000000 < 18446744073709551616
  unfold Span at *
  omega

/-- A sweeper that is started has its first turn when a whole window has passed. -/
theorem Admission.Limiter.takeTurns?_startSweeper {l : Limiter} (idle : l.sweeper = none)
    (positive : 0 < l.length) (now moment : Span) :
    ((l.startSweeper now).takeTurns? moment).isSome = true ↔ now + l.length ≤ moment := by
  have runs : (l.startSweeper now).sweeper = some { started := now } := by
    rw [startSweeper, idle]
    rfl
  have length : (l.startSweeper now).length = l.length := rfl
  rw [takeTurns?, runs, length]
  simp only [Option.bind_some]
  have due : 0 < (moment - now) / l.length ↔ now + l.length ≤ moment := by
    rw [Nat.div_pos_iff]
    unfold Span at *
    omega
  rw [← due]
  split <;> simp_all

namespace Service

open Http (Request)

/-- What the service holds has the settings of a configuration. -/
structure Configured (c : Config) (s : State) : Prop where
  limit : s.limiter.limit = c.rateLimit.maxRequests
  length : s.limiter.length = Span.ofSeconds c.rateLimit.window
  ttl : s.identities.ttl = Span.ofSeconds c.cache.ttl
  jitter : s.identities.jitter = Span.ofSeconds c.cache.jitter

namespace Configured

variable {c : Config} {s after : State}

theorem of_aged (configured : Configured c s) (aged : Admission.Aged s.watch after.watch)
    (identities : after.identities = s.identities) : Configured c after := by
  refine ⟨aged.limit.trans configured.limit, aged.length.trans configured.length, ?_, ?_⟩
  · rw [identities, configured.ttl]
  · rw [identities, configured.jitter]

theorem of_cache (configured : Configured c s) (limiter : after.limiter = s.limiter)
    (ttl : after.identities.ttl = s.identities.ttl)
    (jitter : after.identities.jitter = s.identities.jitter) : Configured c after where
  limit := by rw [limiter, configured.limit]
  length := by rw [limiter, configured.length]
  ttl := ttl.trans configured.ttl
  jitter := jitter.trans configured.jitter

/-- No step changes a setting. -/
theorem step (configured : Configured c s) (env : Env) (cutoff : Option Span) (step : Step) :
    Configured c (step.perform env cutoff s).2 := by
  cases step with
  | call call =>
    refine configured.of_aged (Step.perform_aged env cutoff s rfl) ?_
    rw [Step.perform]
    rcases performCall_cases env cutoff call s with ⟨moment, run⟩ | ⟨moment, _, run⟩ | ⟨_, run⟩
    · rw [run]
      exact State.wait_identities moment s
    · rw [run]
      exact State.wait_identities moment s
    · rw [run]
      exact State.afterCall_identities env call s
  | lookUp id =>
    refine configured.of_cache rfl ?_ ?_
    · show (s.identities.lookUp s.clock id).2.ttl = s.identities.ttl
      unfold Cache.Identities.lookUp
      split <;> rfl
    · show (s.identities.lookUp s.clock id).2.jitter = s.identities.jitter
      unfold Cache.Identities.lookUp
      split <;> rfl
  | cacheStats =>
    refine configured.of_cache rfl ?_ ?_
    · show (s.identities.stats s.clock).2.ttl = s.identities.ttl
      unfold Cache.Identities.stats
      split <;> rfl
    · show (s.identities.stats s.clock).2.jitter = s.identities.jitter
      unfold Cache.Identities.stats
      split <;> rfl
  | allow client =>
    exact {
      limit := Admission.Limiter.allow_limit.trans configured.limit
      length := Admission.Limiter.allow_length.trans configured.length
      ttl := configured.ttl
      jitter := configured.jitter }
  | pause => exact configured.of_aged s.aged_rest (State.rest_identities s)
  | _ => exact configured.of_cache rfl rfl rfl

theorem run {α : Type} (configured : Configured c s) (env : Env) (cutoff : Option Span)
    (p : Plan α) : Configured c (p.run env cutoff s).2 := by
  induction p generalizing s with
  | done value => exact configured
  | halt why => exact configured
  | step first next ih =>
    have once := configured.step env cutoff first
    rw [Plan.run]
    cases performed : first.perform env cutoff s with
    | mk answer later =>
      rw [performed] at once
      cases answer with
      | some answer => exact ih answer once
      | none => exact once

theorem respond (configured : Configured c s) (env : Env) (q : Request) :
    Configured c (respond env q s).2 := by
  by_cases ready : started env q
  · rw [respond_eq, answer_of_run ready]
    have ran : Configured c (planRun env q s).2 := configured.run env _ _
    exact ran.of_cache (Ending.counted_limiter _ _ _)
      (congrArg (·.ttl) (Ending.counted_identities _ _ _))
      (congrArg (·.jitter) (Ending.counted_identities _ _ _))
  · rw [(respond_of_refused ready).2]
    exact configured

theorem next {setting : Setting} (configured : Configured c s) (e : Occurrence) :
    Configured c (e.next setting s) := by
  cases e with
  | event e =>
    cases e with
    | request o q => exact configured.respond (setting.env o) q
    | advance span =>
      exact configured.of_aged (s.aged_advance span) (State.rest_identities _)
    | _ => exact configured.of_cache rfl rfl rfl
  | turn env cutoff step => exact configured.step env cutoff step
  | sweep => exact ⟨configured.limit, configured.length, configured.ttl, configured.jitter⟩
  | startSweeper =>
    have rested : Configured c s.rest :=
      configured.of_aged s.aged_rest (State.rest_identities s)
    exact ⟨rested.limit, rested.length, rested.ttl, rested.jitter⟩
  | stopSweeper => exact ⟨configured.limit, configured.length, configured.ttl, configured.jitter⟩

end Configured

/-- Whatever happens, the settings in use are the configured ones. -/
theorem Setting.traffic_configured (setting : Setting) (past : List Occurrence) :
    Configured setting.config (setting.traffic past) := by
  have onward (later : List Occurrence) {s : State} (configured : Configured setting.config s) :
      Configured setting.config (setting.onward s later) := by
    induction later generalizing s with
    | nil => exact configured
    | cons e later ih => exact ih (configured.next e)
  exact onward past ⟨rfl, rfl, rfl, rfl⟩

/-- What is computed for a request that comes in now stays within the range of its numbers. -/
structure WithinLimits (env : Env) (s : State) : Prop where
  /-- A token expires when it should, in a count of 64 bits with a sign. -/
  expires (id : Int) : (Token.Claims.issue env.config.auth.token env.now.second id).expires =
      env.now.second + env.config.auth.token.expiry ∧
    Json.FitsInt64 (env.now.second + env.config.auth.token.expiry)
  /-- The earliest and the latest time that a token is compared with, in counts of 64 bits without
  a sign. -/
  earliest : Token.wrapWord (env.now.second - env.config.auth.token.leeway) =
    env.now.second - env.config.auth.token.leeway
  latest : Token.wrapWord (env.now.second + env.config.auth.token.leeway) =
    env.now.second + env.config.auth.token.leeway
  invitation : invitationExpiry env = .done (env.now.plus env.config.auth.invitationTtl)
  /-- With whatever jitter, an entry of the cache expires within the clock's range, and is kept. -/
  kept (draw : Nat) (user : Store.User) :
    s.clock + s.identities.lifetime draw < Time.clockEnd ∧
    (s.identities.backend.isSome = true →
      (s.identities.keep s.clock draw user).held? user.id =
        some ⟨user.encode, s.clock + s.identities.lifetime draw⟩)
  /-- The sweeper's period is not empty, and its first turn comes, within the clock's range. -/
  period : 0 < s.limiter.length ∧ s.clock + s.limiter.length < Time.clockEnd
  firstTurn (moment : Span) : s.limiter.sweeper = none →
    (((s.limiter.startSweeper s.clock).takeTurns? moment).isSome = true ↔
      s.clock + s.limiter.length ≤ moment)
  /-- The seconds that a client is to wait cover the time, in a count of 64 bits. -/
  retryAfter (moment wait : Span) (client : String) :
    (s.limiter.allow moment client).1 = .limited wait →
      (wait + (Span.second - 1)) / Span.second < 2 ^ 64 ∧
      Span.ofSeconds (wait.coveringSeconds - 1) < wait ∧
      wait ≤ Span.ofSeconds wait.coveringSeconds ∧
      wait.coveringSeconds ≤ env.config.rateLimit.window
  hash (password : String) (salt : Bytes) :
    ∃ text, Credential.Password.hash password env.config.auth.passwordCost salt = .ok text
  /-- No window, limit or deadline in use is empty. -/
  room : 1 ≤ s.limiter.limit
  window : Span.ofSeconds 1 ≤ s.limiter.length
  ttl : Span.ofSeconds 1 ≤ s.identities.ttl
  deadline : Span.ofSeconds 1 ≤ env.deadline
  request : Span.ofSeconds 1 ≤ Span.ofSeconds env.config.timeouts.request
  /-- Deadlines come, within the clock's range. -/
  reached : Time.limit? s.clock env.deadline = some env.deadline ∧
    lastMoment env s = s.clock + Span.ofSeconds env.config.timeouts.request

/-- In the era, a request that comes to a service with a valid configuration comes nowhere near the
limits of arithmetic, whatever has happened before. -/
theorem arithmetic_within_limits (setting : Setting) (valid : setting.config.Valid)
    (past : List Occurrence) (env : Env) (config : env.config = setting.config)
    (era : Time.Era env.now (setting.traffic past).clock) :
    WithinLimits env (setting.traffic past) := by
  have bounds : Config.Bounds env.config := config ▸ valid.bounds
  have configured : Configured env.config (setting.traffic past) :=
    config ▸ setting.traffic_configured past
  generalize setting.traffic past = s at era configured
  have length := configured.length
  have times := Token.times_within bounds era
  have span {n : Nat} (year : n ≤ 31536000) : Span.ofSeconds n ≤ Span.ofSeconds 63072000 :=
    Nat.mul_le_mul_left _ (Nat.le_trans year (by decide))
  have positive {n : Nat} (least : 1 ≤ n) : Span.ofSeconds 1 ≤ Span.ofSeconds n :=
    Nat.mul_le_mul_left _ least
  have period : 0 < s.limiter.length := by
    rw [length]
    exact Nat.lt_of_lt_of_le (by decide) (positive bounds.window.1)
  have entry (draw : Nat) : s.clock + s.identities.lifetime draw < Time.clockEnd := by
    have most := (s.identities.lifetime_bounds draw).2
    rw [configured.ttl, configured.jitter] at most
    exact era.lt_clockEnd (Nat.le_trans most bounds.entry_life)
  have limit {n : Nat} (year : n ≤ 31536000) :
      Time.limit? s.clock (Span.ofSeconds n) = some (Span.ofSeconds n) :=
    if_pos (era.lt_clockEnd (span year))
  exact {
    expires := fun id => (times id).1
    earliest := (times 0).2.1
    latest := (times 0).2.2
    invitation := if_pos (era.invitation_ends bounds)
    kept := fun draw user => by
      refine ⟨entry draw, fun there => ?_⟩
      rw [Cache.Identities.held?_keep, if_pos ⟨there, rfl, entry draw⟩]
    period := ⟨period, length ▸ era.lt_clockEnd (span bounds.window.2)⟩
    firstTurn := fun moment idle => Admission.Limiter.takeTurns?_startSweeper idle period _ _
    retryAfter := fun moment wait client limited => by
      obtain ⟨lasts, within⟩ := Admission.Limiter.wait_of_limited limited
      exact bounds.wait_covered lasts (length ▸ within)
    hash := fun password salt => ⟨_, if_pos bounds.cost⟩
    room := configured.limit ▸ bounds.room
    window := length ▸ positive bounds.window.1
    ttl := configured.ttl ▸ positive bounds.ttl.1
    deadline := positive bounds.storeCall.1
    request := positive bounds.request.1
    reached := by
      refine ⟨limit bounds.storeCall.2, ?_⟩
      rw [lastMoment, Time.cutoff, limit bounds.request.2]
      rfl }

namespace Sample

/-- A service all of whose lifetimes are the longest. -/
def yearlong : Setting where
  config := {
    timeouts := { request := 31536000, storeCall := 31536000 }
    rateLimit := { window := 31536000 }
    cache := { enabled := true, ttl := 31536000, jitter := 31536000 }
    auth := {
      token := { expiry := 31536000, leeway := 31536000 }
      invitationTtl := 31536000
      passwordCost := 31 } }

/-- The service runs with its sweeper from the start of 2025 to the end of 2099. -/
def longRun : List Occurrence :=
  [.startSweeper, .event (.advance (Span.ofSeconds 2366755199))]

def lastSecond : Env := { config := yearlong.config, now := ⟨4102444799, 999999999⟩ }

theorem yearlong_valid : yearlong.config.Valid := by decide +kernel

theorem longRun_era : Time.Era lastSecond.now (yearlong.traffic longRun).clock := by
  refine ⟨by decide, by decide, ?_⟩
  show (yearlong.traffic longRun).clock ≤ Span.ofSeconds 4102444800
  decide +kernel

end Sample

/-- Even at the end of the era, and with the longest lifetimes, the limits are far. -/
theorem last_second_within_limits :
    Sample.yearlong.config.Valid ∧ Sample.lastSecond.config = Sample.yearlong.config ∧
    Time.Era Sample.lastSecond.now (Sample.yearlong.traffic Sample.longRun).clock ∧
    WithinLimits Sample.lastSecond (Sample.yearlong.traffic Sample.longRun) :=
  ⟨Sample.yearlong_valid, rfl, Sample.longRun_era,
    arithmetic_within_limits Sample.yearlong Sample.yearlong_valid Sample.longRun
      Sample.lastSecond rfl Sample.longRun_era⟩

end Service

end Agora
