import Agora.Proofs.PasswordHashes
import Agora.Proofs.RetryAfter
import Agora.Proofs.SessionAccounts

set_option autoImplicit false

namespace Agora

open Http (Request Response isSuccess)
open Store (Account User)
open Time (Span Stamp)

theorem Time.Stamp.second_of_representable {t : Stamp} (within : t.representable = true) :
    -2 ^ 53 < t.second ∧ t.second < 2 ^ 53 := by
  have same := (Date.toDays_ofDays (t.second / 86400)).1
  have both := (Bool.and_eq_true _ _).mp within
  have first : -262143 ≤ (Date.ofDays (t.second / 86400)).year := of_decide_eq_true both.1
  have last : (Date.ofDays (t.second / 86400)).year ≤ 262142 := of_decide_eq_true both.2
  have short := (Reader.date_bounds (t.second / 86400)).2
  generalize Date.ofDays (t.second / 86400) = date at same first last short
  simp only [Date.toDays] at same
  split at same <;> omega

namespace Token

theorem wrap_of_fits {n : Int} (fits : Json.FitsInt64 n) : Claims.wrap n = n := by
  obtain ⟨low, high⟩ := fits
  exact Int.bmod_eq_of_le_mul_two (by omega) (by omega)

theorem Claims.check_of_holds {config : Config.Token} {now : Int} {c : Claims}
    (present : 0 ≤ c.expires ∧ 0 ≤ c.notBefore)
    (unexpired : wrapWord (now - config.leeway) ≤ c.expires)
    (mature : c.notBefore ≤ wrapWord (now + config.leeway)) (issuer : c.issuer = config.issuer)
    (audience : c.audience = config.audience) : c.check config now = .ok () := by
  simp only [check, demand, present, unexpired, mature, issuer, audience, decide_true,
    Bool.and_self, ↓reduceIte]
  rfl

/-- A token that a valid configuration issues within the calendar claims to last as long as is
configured, and verifies until then as what it was issued for. -/
theorem issued_lasts {c : Config} (valid : c.Valid) {now : Stamp}
    (within : now.representable = true) (begun : (c.auth.token.leeway : Int) ≤ now.second) (id : Int) :
    (Claims.issue c.auth.token now.second id).expires = now.second + c.auth.token.expiry ∧
    ∀ later, now.second ≤ later → later ≤ now.second + c.auth.token.expiry →
      claims c.auth.token later (issue c.auth.token now.second id) =
        .ok (Claims.issue c.auth.token now.second id) ∧
      (Json.FitsInt64 id →
        verify c.auth.token later (issue c.auth.token now.second id) = .ok id) := by
  have most : c.auth.token.expiry ≤ 31536000 := (Config.valid_iff_sound.1 valid).expiry.2
  have skew : c.auth.token.leeway ≤ 31536000 := (Config.valid_iff_sound.1 valid).leeway
  obtain ⟨low, high⟩ := now.second_of_representable within
  have wrapped : Claims.wrap (c.auth.token.expiry : Int) = c.auth.token.expiry :=
    wrap_of_fits ⟨by omega, by omega⟩
  have expires : (Claims.issue c.auth.token now.second id).expires =
      now.second + c.auth.token.expiry := by
    rw [Claims.issue, wrapped]
    exact wrap_of_fits ⟨by omega, by omega⟩
  have fits : Json.FitsInt64 now.second := ⟨by omega, by omega⟩
  refine ⟨expires, fun later since until' => ?_⟩
  have sound : (Claims.issue c.auth.token now.second id).check c.auth.token later = .ok () := by
    have early : wrapWord (later - c.auth.token.leeway) = later - c.auth.token.leeway :=
      Int.emod_eq_of_lt (by omega) (by omega)
    have late : wrapWord (later + c.auth.token.leeway) = later + c.auth.token.leeway :=
      Int.emod_eq_of_lt (by omega) (by omega)
    refine Claims.check_of_holds ?_ ?_ ?_ rfl rfl
    · rw [expires]
      exact ⟨by omega, show 0 ≤ now.second by omega⟩
    · rw [early, expires]
      omega
    · rw [late]
      change now.second ≤ _
      omega
  refine ⟨?_, fun number => ?_⟩
  · rw [issue, claims_sign, if_pos ((legible_issue _ _ _).2 fits), sound]
    rfl
  · rw [verify_issue, if_pos fits, sound]
    exact if_pos number

end Token

namespace Service

open Credential (Hasher)

/-- The account is stored and active, and is the one that a login names by its email and has the
password of. -/
structure Opens (hasher : Hasher) (s : Store) (l : Login) (a : Account) : Prop where
  stored : a ∈ s.tables.accounts.rows
  email : a.user.email = l.email
  active : a.user.isActive = true
  password : hasher.verify l.password a.passwordHash = .ok true

section

variable {env : Env} {cutoff : Option Span} {q : Request} {s : State}

/-- Once a password has been compared, it and the account decide. -/
theorem logInWith_run {l : Login} {a : Account} {same : Bool}
    (verified : env.hasher.verify l.password a.passwordHash = .ok same) :
    ((logInWith env l (.ok a)).run env cutoff s).1 =
      if same && a.user.isActive then .done a.user else .halted (.failed .unauthorized) := by
  obtain ⟨⟨id, username, email, createdAt, active, role⟩, hash⟩ := a
  rw [logInWith, verified]
  cases same with
  | false => rfl
  | true =>
    cases active with
    | false => rfl
    | true => rfl

theorem logIn_run {l : Login}
    (read : Login.ofRequest env.config.listener.maxBodySize q = .ok l) (prompt : env.delay = 0) :
    ((logIn env q).run env cutoff s).1 =
      match ((logInWith env l (s.store.perform env.now (.credentials l.email)).1).run env cutoff
        { s with store := (s.store.perform env.now (.credentials l.email)).2 }).1 with
      | .done user => .done (.data 201 (.string
          (Token.issue env.config.auth.token env.now.second user.id)))
      | .halted why => .halted why
      | .cutOff => .cutOff := by
  have asked : (logInAs env l).run env cutoff s =
      (logInWith env l (s.store.perform env.now (.credentials l.email)).1).run env cutoff
        { s with store := (s.store.perform env.now (.credentials l.email)).2 } := by
    have only : logInAs env l = .step (.call (.credentials l.email)) (logInWith env l) :=
      logInAs_eq l
    rw [only, Plan.run, Step.perform, performCall_of_prompt prompt]
  have composed : logIn env q = logInAs env l >>= fun user => .done (.data 201 (.string
      (Token.issue env.config.auth.token env.now.second user.id))) := by
    rw [logIn, read]
    rfl
  rw [composed, Plan.run_then, asked]
  generalize (logInWith env l (s.store.perform env.now (.credentials l.email)).1).run env cutoff
    { s with store := (s.store.perform env.now (.credentials l.email)).2 } = ended
  obtain ⟨ending, after⟩ := ended
  cases ending <;> rfl

/-- A login whose account is looked up at once is answered with a token, if it opens an account,
and else fails in the one way. -/
theorem logIn_cases (prompt : env.delay = 0) (up : s.store.available = true)
    (distinct : s.store.tables.Distinct)
    (reads : ∀ a ∈ s.store.tables.accounts.rows, ∀ given,
      ∃ same, env.hasher.verify given a.passwordHash = .ok same) :
    (∃ l a, Login.ofRequest env.config.listener.maxBodySize q = .ok l ∧
      Opens env.hasher s.store l a ∧
      ((logIn env q).run env cutoff s).1 = .done (.data 201 (.string
        (Token.issue env.config.auth.token env.now.second a.user.id)))) ∨
    ((∀ l, Login.ofRequest env.config.listener.maxBodySize q = .ok l →
        ∀ a, ¬Opens env.hasher s.store l a) ∧
      ((logIn env q).run env cutoff s).1 = .halted (.failed .unauthorized)) := by
  cases read : Login.ofRequest env.config.listener.maxBodySize q with
  | error complaint =>
    refine .inr ⟨nofun, ?_⟩
    rw [logIn, read]
    rfl
  | ok l =>
    rw [logIn_run read prompt]
    have looked := Store.perform_credentials up env.now l.email
    cases found : (s.store.perform env.now (.credentials l.email)).1 with
    | error e =>
      have missing : e = .notFound := by
        rw [looked] at found
        cases row : s.store.tables.accounts.rows.find? fun a => a.user.email = l.email with
        | none =>
          rw [row] at found
          exact (Except.error.inj found).symm
        | some a =>
          rw [row] at found
          cases found
      subst missing
      have nobody := (Store.credentials_missing_iff up env.now l.email).1 found
      refine .inr ⟨fun l' same a opens => ?_, rfl⟩
      cases same
      exact nobody a opens.stored opens.email
    | ok a =>
      obtain ⟨stored, email⟩ := (Store.credentials_iff up env.now distinct l.email a).1 found
      obtain ⟨same, verified⟩ := reads a stored l.password
      rw [logInWith_run verified]
      cases fits : same && a.user.isActive with
      | true =>
        obtain ⟨rfl, active⟩ := (Bool.and_eq_true _ _).mp fits
        exact .inl ⟨l, a, rfl, ⟨stored, email, active, verified⟩, rfl⟩
      | false =>
        refine .inr ⟨fun l' same' b opens => ?_, rfl⟩
        cases same'
        -- The account is the one that has the email.
        cases distinct.email b opens.stored a stored (opens.email.trans email.symm)
        cases verified.symm.trans opens.password
        rw [opens.active] at fits
        cases fits

theorem finish_login (posts : q.method = .post) (found : resource? env.config q = some .login)
    (response : Response) :
    finish env q response = response.withHeader "x-request-id" (requestId env q) := by
  have served : Resource.login.serves q.method = true := by
    rw [posts]
    rfl
  have whole : q.method ≠ .head := by
    rw [posts]
    decide
  unfold finish tellMethods
  simp only [found, served, ↓reduceIte, if_neg whole]

/-- A login that reaches its handler is answered as the handler ends. -/
theorem respond_login (posts : q.method = .post) (found : resource? env.config q = some .login)
    (ready : started env q) {admitted : State}
    (admits : (admission env q).run env (some (lastMoment env s)) s = (.done (), admitted)) :
    (respond env q s).1 =
      ((logIn env q).run env (some (lastMoment env s)) admitted).1.response.withHeader
        "x-request-id" (requestId env q) := by
  rw [respond_eq, answer_of_run ready, finish_login posts found, planRun, plan_of_resource found,
    Plan.run_then, admits, serve_login posts]

end

section

variable (setting : Setting) (history : List Event)

/-- The session puts no account into the store from outside and draws no invitation twice, and
passwords can be compared with what its registrations make of theirs. -/
structure Unaided : Prop where
  unseeded : ∀ e ∈ history, e.seeds = false
  apart : (drawnDigests setting history).Nodup
  salted : ∀ o q, .request o q ∈ history → q.method = .post →
    resource? setting.config q = some .registration →
    setting.hasher.Reads setting.config.auth.passwordCost o.draws.salt

/-- After the session a login comes to its handler, and the store is up and answers at once. -/
structure Arrives (o : Occasion) (q : Request) : Prop where
  posts : q.method = .post
  found : resource? setting.config q = some .login
  ready : started (setting.env o) q
  up : (setting.course history).store.available = true
  prompt : o.delay = 0
  admits : ∃ admitted, (admission (setting.env o) q).run (setting.env o)
    (some (lastMoment (setting.env o) (setting.course history))) (setting.course history) =
      (.done (), admitted)

/-- An invitation of the token's digest was used in the session. -/
def Confirmed (token : String) : Prop :=
  ∃ given, Credential.hashToken given = Credential.hashToken token ∧
    Redeemed setting history given

/-- A person who logs in was registered in the session with the email, has confirmed it since,
has not been taken out, and has the password. -/
def Recognized (confirmed : String → Prop) (l : Login) (id : Int) : Prop :=
  ∃ r user token hash, Registered setting history r user token hash ∧ user.id = id ∧
    r.email = l.email ∧ confirmed token ∧ ¬Expelled setting history id ∧
    setting.hasher.verify l.password hash = .ok true

/-- Whoever is told that an invitation has been used has given the very token of a registration, if
one of its digest. -/
def Unforged : Prop :=
  ∀ given r user token hash, Redeemed setting history given →
    Registered setting history r user token hash →
    Credential.hashToken given = Credential.hashToken token → given = token

end

section

variable {setting : Setting} {history : List Event}

theorem recognized_of_unforged (unforged : Unforged setting history) {l : Login} {id : Int} :
    Recognized setting history (Confirmed setting history) l id ↔
      Recognized setting history (Redeemed setting history) l id := by
  constructor
  · rintro ⟨r, user, token, hash, registered, same, email, ⟨given, digest, redeemed⟩, stays, fits⟩
    have exactly : given = token := unforged given r user token hash redeemed registered digest
    exact ⟨r, user, token, hash, registered, same, email, exactly ▸ redeemed, stays, fits⟩
  · rintro ⟨r, user, token, hash, registered, same, email, redeemed, stays, fits⟩
    exact ⟨r, user, token, hash, registered, same, email, ⟨token, rfl, redeemed⟩, stays, fits⟩

theorem row_of_enrolled (unseeded : ∀ e ∈ history, e.seeds = false) {x : Store.Enrolment}
    (among : x ∈ (setting.chronicle history).enrolments) {a : Account}
    (stored : a ∈ (setting.course history).store.tables.accounts.rows)
    (number : x.user.id = a.user.id) :
    x.user.id ∉ (setting.chronicle history).removals ∧
      a = x.account (decide (x.user.id ∈ (setting.chronicle history).activations)) := by
  have booked := setting.course_booked unseeded
  have row := booked.recorded.row x among
  have found := Table.Ledger.get?_of_mem stored
  have same : Table.number a = x.user.id := number.symm
  rw [same, row] at found
  split at found
  · cases found
  · rename_i stays
    exact ⟨stays, (Option.some.inj found).symm⟩

/-- Whoever has registered, confirmed it and not been taken out has an active account with the hash
of that time. -/
theorem account_of_registered (unaided : Unaided setting history) {r : Registration} {user : User}
    {token hash : String} (registered : Registered setting history r user token hash)
    (confirmed : Confirmed setting history token) (stays : ¬Expelled setting history user.id) :
    ∃ a ∈ (setting.course history).store.tables.accounts.rows, a.user.id = user.id ∧
      a.user.email = r.email ∧ a.user.isActive = true ∧ a.passwordHash = hash := by
  obtain ⟨given, sameDigest, redeemed⟩ := confirmed
  obtain ⟨x, among, number, hashed, digest, address⟩ := enrolled_of_registered registered
  obtain ⟨y, other, drawn, active⟩ := activated_of_redeemed unaided.unseeded redeemed
  have once : y = x := eq_of_digest unaided.apart other among (by rw [drawn, sameDigest, digest])
  rw [once] at active
  have row := (setting.course_booked unaided.unseeded).recorded.row x among
  rw [if_neg fun removed => stays (expelled_iff.2 (number ▸ removed)), decide_eq_true active]
    at row
  exact ⟨x.account true, Table.Ledger.mem_of_get? row, number, address, rfl, hashed⟩

/-- An account opens for whom the session recognizes, and for nobody else. -/
theorem opens_iff_recognized (unaided : Unaided setting history) {l : Login} {id : Int} :
    (∃ a, Opens setting.hasher (setting.course history).store l a ∧ a.user.id = id) ↔
      Recognized setting history (Confirmed setting history) l id := by
  have booked := setting.course_booked unaided.unseeded
  constructor
  · rintro ⟨a, opens, rfl⟩
    obtain ⟨x, among, number⟩ := booked.enrolled a opens.stored
    obtain ⟨stays, same⟩ := row_of_enrolled unaided.unseeded among opens.stored number
    obtain ⟨r, token, registered, digest, email⟩ := registered_of_enrolled among
    have active : x.user.id ∈ (setting.chronicle history).activations := by
      have lives := opens.active
      rw [same] at lives
      exact of_decide_eq_true lives
    obtain ⟨given, redeemed, y, other, sameNumber, sameDigest⟩ :=
      redeemed_of_activated unaided.unseeded active
    have once : y = x := booked.recorded.eq_of_number other among sameNumber
    refine ⟨r, x.user, token, x.passwordHash, registered, number, email.symm.trans ?_,
      ⟨given, ?_, redeemed⟩, fun expelled => stays ?_, ?_⟩
    · rw [← opens.email, same]
      rfl
    · rw [← sameDigest, once, digest]
    · rw [number]
      exact expelled_iff.1 expelled
    · have fits := opens.password
      rw [same] at fits
      exact fits
  · rintro ⟨r, user, token, hash, registered, rfl, email, confirmed, stays, fits⟩
    obtain ⟨a, stored, number, address, active, rfl⟩ :=
      account_of_registered unaided registered confirmed stays
    exact ⟨a, ⟨stored, address.trans email, active, fits⟩, number⟩

/-- Passwords can be compared with what is stored of them. -/
theorem row_readable (unaided : Unaided setting history)
    {a : Account} (stored : a ∈ (setting.course history).store.tables.accounts.rows)
    (given : String) : ∃ same, setting.hasher.verify given a.passwordHash = .ok same := by
  obtain ⟨x, among, number⟩ := (setting.course_booked unaided.unseeded).enrolled a stored
  obtain ⟨_, same⟩ := row_of_enrolled unaided.unseeded among stored number
  obtain ⟨r, _, ⟨before, o, q, rest, rfl, registers⟩, _⟩ := registered_of_enrolled among
  have among : Event.request o q ∈ before ++ .request o q :: rest :=
    List.mem_append_right _ List.mem_cons_self
  rw [same]
  exact unaided.salted o q among registers.posts registers.found r.password x.passwordHash
    registers.hashed given

/-- The token that an answer carries is that of a person, and lasts as long as is configured, if the
clock is set to a time of the calendar that is not before the leeway. -/
def Carries (env : Env) (response : Response) (id : Int) : Prop :=
  ∃ token, response.body = .json (.object [("data", .string token)]) ∧
    (env.now.representable = true → (env.config.auth.token.leeway : Int) ≤ env.now.second →
      ∃ c : Token.Claims, c.issuedAt = env.now.second ∧
        c.expires = c.issuedAt + env.config.auth.token.expiry ∧
        ∀ later, c.issuedAt ≤ later → later ≤ c.expires →
          Token.claims env.config.auth.token later token = .ok c ∧
          (Json.FitsInt64 id → Token.verify env.config.auth.token later token = .ok id))

theorem carries_issue {env : Env} (valid : env.config.Valid) (id : Int) (requestId : Bytes) :
    Carries env ((Response.data 201 (.string
      (Token.issue env.config.auth.token env.now.second id))).withHeader "x-request-id" requestId)
      id := by
  refine ⟨Token.issue env.config.auth.token env.now.second id, rfl, fun within begun => ?_⟩
  obtain ⟨expires, lasts⟩ := Token.issued_lasts valid within begun id
  refine ⟨Token.Claims.issue env.config.auth.token env.now.second id, rfl, expires,
    fun later since still => lasts later since ?_⟩
  rw [← expires]
  exact still

/-- A login that reaches its handler is answered with a token, if it names a person whom the session
recognizes, and else in the one way. -/
theorem login_cases (valid : setting.config.Valid) (unaided : Unaided setting history)
    {o : Occasion} {q : Request} (arrives : Arrives setting history o q) :
    (∃ l id, Login.ofRequest setting.config.listener.maxBodySize q = .ok l ∧
      Recognized setting history (Confirmed setting history) l id ∧
      (respond (setting.env o) q (setting.course history)).1.status = 201 ∧
      Carries (setting.env o) (respond (setting.env o) q (setting.course history)).1 id) ∨
    ((∀ l id, Login.ofRequest setting.config.listener.maxBodySize q = .ok l →
        ¬Recognized setting history (Confirmed setting history) l id) ∧
      (respond (setting.env o) q (setting.course history)).1 =
        Failure.unauthorized.response.withHeader "x-request-id"
          (requestId (setting.env o) q)) := by
  obtain ⟨admitted, admits⟩ := arrives.admits
  have kept : admitted.store = (setting.course history).store := admission_keeps.of_run admits
  have available : admitted.store.available = true := by rw [kept, arrives.up]
  have distinct : admitted.store.tables.Distinct := by
    rw [kept]
    exact (setting.course_booked unaided.unseeded).distinct
  have reads : ∀ a ∈ admitted.store.tables.accounts.rows, ∀ given,
      ∃ same, setting.hasher.verify given a.passwordHash = .ok same := by
    rw [kept]
    exact fun a stored => row_readable unaided stored
  rw [respond_login arrives.posts arrives.found arrives.ready admits]
  rcases @logIn_cases (setting.env o) (some (lastMoment (setting.env o) (setting.course history)))
      q admitted arrives.prompt available distinct reads with
    ⟨l, a, read, opens, ended⟩ | ⟨closed, ended⟩
  · rw [kept] at opens
    rw [ended]
    exact .inl ⟨l, a.user.id, read, (opens_iff_recognized unaided).1 ⟨a, opens, rfl⟩, rfl,
      @carries_issue (setting.env o) valid a.user.id (requestId (setting.env o) q)⟩
  · rw [kept] at closed
    rw [ended]
    refine .inr ⟨fun l id read recognized => ?_, rfl⟩
    obtain ⟨a, opens, _⟩ := (opens_iff_recognized unaided).2 recognized
    exact closed l read a opens

/-- Whether a login with the email of an account is answered with a token is whether the password is
found to be the account's. -/
theorem status_of_registered (valid : setting.config.Valid) (unaided : Unaided setting history)
    {r : Registration} {user : User} {token hash : String}
    (registered : Registered setting history r user token hash)
    (confirmed : Confirmed setting history token) (stays : ¬Expelled setting history user.id)
    {o : Occasion} {q : Request} (arrives : Arrives setting history o q)
    {given : String}
    (read : Login.ofRequest setting.config.listener.maxBodySize q = .ok ⟨r.email, given⟩)
    {same : Bool} (verified : setting.hasher.verify given hash = .ok same) :
    (respond (setting.env o) q (setting.course history)).1.status = if same then 201 else 401 := by
  obtain ⟨a, stored, number, email, active, rfl⟩ :=
    account_of_registered unaided registered confirmed stays
  rcases login_cases valid unaided arrives with
    ⟨l, id, read', recognized, status, _⟩ | ⟨nobody, refused⟩
  · cases read.symm.trans read'
    obtain ⟨b, opens, _⟩ := (opens_iff_recognized unaided).2 recognized
    -- The account that opens is the one that has the email.
    cases (setting.course_booked unaided.unseeded).distinct.email b opens.stored a stored
      (opens.email.trans email.symm)
    cases verified.symm.trans opens.password
    exact status
  · cases same with
    | true =>
      refine absurd ?_ (nobody ⟨r.email, given⟩ user.id read)
      exact ⟨r, user, token, a.passwordHash, registered, rfl, rfl, confirmed, stays, verified⟩
    | false =>
      rw [refused]
      rfl

/-- What may be registered may be sent to log in: the limits of a login are among those of a
registration. -/
theorem read_of_registration {most : Nat} {signed sent : Request} {r : Registration}
    (registers : Registration.ofRequest most signed = .ok r)
    (carries : readBody most Login.fields sent = .ok (r.email, r.password, ())) :
    Login.ofRequest most sent = .ok ⟨r.email, r.password⟩ := by
  obtain ⟨fields, _, rest⟩ := ok_of_bind registers
  obtain ⟨_, checked, same⟩ := ok_of_bind rest
  have whole : Registration.ofFields fields = r := Except.ok.inj same
  rw [whole] at checked
  obtain ⟨_, email, rest⟩ := ok_of_bind checked
  obtain ⟨_, _, rest⟩ := ok_of_bind rest
  obtain ⟨_, _, password⟩ := ok_of_bind rest
  rw [Login.ofRequest, carries]
  change (checkEmail r.email >>= fun _ => checkPassword r.password >>= fun _ =>
    (.ok ⟨r.email, r.password⟩ : Except Complaint Login)) = _
  rw [email, password]
  rfl

/-- Whoever has registered, confirmed it and not been taken out logs in with the email and the
password of the registration, where that is found to be the account's. -/
theorem own_password_accepted (valid : setting.config.Valid) (unaided : Unaided setting history)
    {r : Registration} {user : User} {token hash : String}
    (registered : Registered setting history r user token hash)
    (confirmed : Confirmed setting history token) (stays : ¬Expelled setting history user.id)
    {o : Occasion} {q : Request} (arrives : Arrives setting history o q)
    (carries : readBody setting.config.listener.maxBodySize Login.fields q =
      .ok (r.email, r.password, ()))
    (verified : setting.hasher.verify r.password hash = .ok true) :
    (respond (setting.env o) q (setting.course history)).1.status = 201 := by
  have read : Login.ofRequest setting.config.listener.maxBodySize q =
      .ok ⟨r.email, r.password⟩ := by
    obtain ⟨before, o, signed, rest, rfl, registers⟩ := registered
    exact read_of_registration registers.read carries
  exact status_of_registered valid unaided registered confirmed stays arrives read verified

/-- In a session that seeds no accounts and draws no invitation twice, a login that reaches its
handler is answered with a token exactly if the email was registered, its invitation has been used,
the account has not been taken out, and the password fits; the token is that account's for as long
as is configured. Every other login, be its body malformed or too long, its email nobody's, its
password wrong or its account not active, gets one and the same answer. -/
theorem login_for_registered (setting : Setting) (valid : setting.config.Valid)
    (history : List Event) (unaided : Unaided setting history)
    {o : Occasion} {q : Request} (arrives : Arrives setting history o q) :
    let response := (respond (setting.env o) q (setting.course history)).1
    (response.status = 201 ↔
      ∃ l id, Login.ofRequest setting.config.listener.maxBodySize q = .ok l ∧
        Recognized setting history (Confirmed setting history) l id) ∧
    (Unforged setting history → (response.status = 201 ↔
      ∃ l id, Login.ofRequest setting.config.listener.maxBodySize q = .ok l ∧
        Recognized setting history (Redeemed setting history) l id)) ∧
    (response.status = 201 →
      ∃ l id, Login.ofRequest setting.config.listener.maxBodySize q = .ok l ∧
        Recognized setting history (Confirmed setting history) l id ∧
        Carries (setting.env o) response id) ∧
    (response.status ≠ 201 → response.status = 401 ∧
      response = Failure.unauthorized.response.withHeader "x-request-id"
        (requestId (setting.env o) q)) := by
  have told := login_cases valid unaided arrives
  dsimp only
  generalize (respond (setting.env o) q (setting.course history)).1 = response at told ⊢
  have main : response.status = 201 ↔
      ∃ l id, Login.ofRequest setting.config.listener.maxBodySize q = .ok l ∧
        Recognized setting history (Confirmed setting history) l id := by
    rcases told with ⟨l, id, read, recognized, status, _⟩ | ⟨nobody, refused⟩
    · exact ⟨fun _ => ⟨l, id, read, recognized⟩, fun _ => status⟩
    · constructor
      · intro status
        rw [refused] at status
        cases status
      · rintro ⟨l, id, read, recognized⟩
        exact absurd recognized (nobody l id read)
  refine ⟨main, fun unforged => ?_, fun status => ?_, fun other => ?_⟩
  · simp only [← recognized_of_unforged unforged]
    exact main
  · rcases told with ⟨l, id, read, recognized, _, carries⟩ | ⟨_, refused⟩
    · exact ⟨l, id, read, recognized, carries⟩
    · rw [refused] at status
      cases status
  · rcases told with ⟨_, _, _, _, status, _⟩ | ⟨_, refused⟩
    · exact absurd status other
    · exact ⟨congrArg Response.status refused, refused⟩

end

theorem respond_served {env : Env} {q : Request} {s admitted after : State} {r : Resource}
    {response : Response} (ready : started env q) (found : resource? env.config q = some r)
    (admits : (admission env q).run env (some (lastMoment env s)) s = (.done (), admitted))
    (served : (serve env q r).run env (some (lastMoment env s)) admitted =
      (.done response, after)) :
    (respond env q s).1 = finish env q response ∧ (respond env q s).2.store = after.store := by
  have ran : planRun env q s = (.done response, after) := by
    rw [planRun, plan_of_resource found, Plan.run_then, admits]
    exact served
  rw [respond_eq, answer_of_run ready, ran]
  exact ⟨rfl, Ending.counted_store _ _ _⟩

/-- An invitation that is used at once is answered so. -/
theorem activate_run {env : Env} {cutoff : Option Span} {s : State} {segment token : String}
    {id : Int} (text : Http.pathText? segment = some token)
    (filled : (Text.trim token.toList).isEmpty = false) (prompt : env.delay = 0)
    (made : (s.store.perform env.now (.activate (Credential.hashToken token))).1 = .ok id) :
    ∃ after, (activate segment).run env cutoff s =
      (.done (.data 200 (.string "user activated")), after) := by
  have asked : activate segment = Plan.call (.activate (Credential.hashToken token)) >>=
      fun id => Plan.ask (.evict id) >>= fun _ =>
        .done (.data 200 (.string "user activated")) := by
    unfold activate pathText
    rw [text]
    change Plan.accept (demand (!(Text.trim token.toList).isEmpty) .missingToken) >>= _ = _
    rw [filled]
    rfl
  rw [asked, Plan.run_then, Plan.call, Plan.run, Step.perform, performCall_of_prompt prompt, made]
  exact ⟨_, rfl⟩

/-- A store that is up stays so, unless it is taken down. -/
theorem Setting.after_available (setting : Setting) {history : List Event}
    (steady : ∀ e ∈ history, ∀ up, e ≠ .setAvailable up) {s : State}
    (up : s.store.available = true) : (setting.after s history).store.available = true := by
  induction history generalizing s with
  | nil => exact up
  | cons e rest ih =>
    refine ih (fun later among => steady later (List.mem_cons_of_mem e among)) ?_
    cases e with
    | request o q =>
      exact respond_store (P := fun s => s.available = true)
        (fun s c up => by rw [Store.perform_available]; exact up) q up
    | seed o new active => exact (Store.perform_available s.store o.now _).trans up
    | putRole o name level => exact (Store.perform_available s.store o.now _).trans up
    | setAvailable next => exact absurd rfl (steady _ List.mem_cons_self next)
    | advance span =>
      rw [Event.next, State.advance, State.rest_store]
      exact up

/-- The token that a registration is answered with is the one that was drawn. -/
theorem token_of_registers {setting : Setting} {o : Occasion} {q : Request} {s : State}
    {r : Registration} {user : User} {token hash : String}
    (registers : Registers (setting.env o) q s r user token hash) :
    token = (Credential.Invitation.ofDraw o.draws.invitation).token := by
  have success := isSuccess_of_status registers.status rfl
  obtain ⟨_, x, told, _⟩ := registration_change registers.found success
  exact (registers.unique told).2.2.1

namespace Sample

def service : Setting := { config := setting.config }

def drawing : Occasion := { start with draws := { salt := List.replicate 16 0 } }

/-- A person registers with a password, which is written in the body as it is. -/
def signUp (password : String) : Request :=
  { login with
    target := "/v1/authentication/user"
    body := Bytes.ofString <|
      "\x7b\"username\":\"adalovelace\",\"email\":\"ada@example.com\"," ++
        "\"password\":\"" ++ password ++ "\"\x7d" }

def invitation : Credential.Invitation := .ofDraw 0

def confirm : Request where
  method := .put
  target := "/v1/authentication/activate/00000000-0000-4000-8000-000000000000"

def loginWith (password : String) : Request :=
  { login with
    body := Bytes.ofString <|
      "\x7b\"email\":\"ada@example.com\",\"password\":\"" ++ password ++ "\"\x7d" }

def enrolment (password : String) : List Event :=
  [.request drawing (signUp password), .request start confirm]

def signedUp (password : String) : State := service.course [.request drawing (signUp password)]

def person : User := ⟨1, "adalovelace", "ada@example.com", ⟨0, 0⟩, false, "user"⟩

def registration (password : String) : Registration := ⟨"adalovelace", "ada@example.com", password⟩

theorem drawing_salt : drawing.draws.salt.length = 16 := rfl

theorem invitation_token : invitation.token = "00000000-0000-4000-8000-000000000000" := by
  decide +kernel

theorem signUp_resource (password : String) :
    resource? service.config (signUp password) = some .registration := by
  have pieces : (signUp password).segments = ["", "v1", "authentication", "user"] := by
    rw [Request.segments, Request.path, Request.resource, signUp]
    dsimp only
    decide +kernel
  rw [resource?, pieces]
  rfl

theorem confirm_resource :
    resource? service.config confirm = some (.activation invitation.token) := by
  have pieces : confirm.segments =
      ["", "v1", "authentication", "activate", "00000000-0000-4000-8000-000000000000"] := by
    rw [Request.segments, Request.path, Request.resource, confirm]
    dsimp only
    decide +kernel
  rw [resource?, pieces, invitation_token]
  rfl

theorem confirm_text : Http.pathText? invitation.token = some invitation.token := by
  rw [invitation_token]
  decide +kernel

theorem loginWith_resource (password : String) :
    resource? service.config (loginWith password) = some .login := login_resource

theorem loginWith_started (password : String) :
    started (service.env start) (loginWith password) := login_started

theorem signUp_started (password : String) :
    started (service.env drawing) (signUp password) := login_started

theorem confirm_started : started (service.env start) confirm := by
  have short : confirm.declaredLength = none := by
    rw [Request.declaredLength, confirm]
    dsimp only
    decide +kernel
  exact ⟨login_started.1, by rw [short]; rfl⟩

theorem mem_enrolment {password : String} {e : Event} (among : e ∈ enrolment password) :
    e = .request drawing (signUp password) ∨ e = .request start confirm := by
  rcases List.mem_cons.1 among with same | among
  · exact .inl same
  · exact .inr (List.mem_singleton.1 among)

theorem not_expelled (password : String) (id : Int) :
    ¬Expelled service (enrolment password) id := by
  rintro ⟨before, o, q, rest, segment, moment, deletes, _⟩
  have among : .request o q ∈ enrolment password := by
    rw [moment]
    exact List.mem_append_right _ List.mem_cons_self
  rcases mem_enrolment among with same | same
  · cases same
    cases deletes
  · cases same
    cases deletes

section

variable {password : String}
  (read : Registration.ofRequest service.config.listener.maxBodySize (signUp password) =
    .ok (registration password))

include read

theorem signUp_served :
    ∃ after accounts, (serve (service.env drawing) (signUp password) .registration).run
        (service.env drawing) (some (lastMoment (service.env drawing) (service.course [])))
        (service.course []) =
      (.done (.data 201 (.object (person.members ++ [("token", .string invitation.token)]))),
        after) ∧
      after.store = (service.course []).store.withAccounts accounts
        ((service.course []).store.tables.invitations.set invitation.digest
          ⟨1, start.now.plus service.config.auth.invitationTtl⟩) ∧
      accounts.contains 1 = true := by
  have served : serve (service.env drawing) (signUp password) .registration =
    register (service.env drawing) (signUp password) := rfl
  have given : Registration.ofRequest (service.env drawing).config.listener.maxBodySize
    (signUp password) = .ok (registration password) := read
  rw [served, register, given]
  exact ⟨_, _, rfl, rfl, rfl⟩

theorem registered :
    ∃ hash, Credential.Password.hash password service.config.auth.passwordCost
        drawing.draws.salt = .ok hash ∧
      Registered service (enrolment password) (registration password) person invitation.token
        hash := by
  obtain ⟨after, _, served, _⟩ := signUp_served read
  have answered :=
    (respond_served (signUp_started password) (signUp_resource password) rfl served).1
  have whole : (signUp password).method ≠ .head := nofun
  obtain ⟨hash, made⟩ : ∃ hash, Credential.Password.hash password
      service.config.auth.passwordCost drawing.draws.salt = .ok hash := ⟨_, if_pos (by decide)⟩
  refine ⟨hash, made, [], drawing, signUp password, [.request start confirm], rfl, ?_⟩
  refine ⟨rfl, signUp_resource password, read, made, ?_, ?_⟩
  · rw [answered, finish_status]
    rfl
  · rw [answered, finish_body, if_neg whole]
    rfl

theorem signedUp_store : ∃ accounts, (signedUp password).store =
      (service.course []).store.withAccounts accounts
        ((service.course []).store.tables.invitations.set invitation.digest
          ⟨1, start.now.plus service.config.auth.invitationTtl⟩) ∧
    accounts.contains 1 = true := by
  obtain ⟨after, accounts, served, stored, stands⟩ := signUp_served read
  have stepped : signedUp password =
    (respond (service.env drawing) (signUp password) (service.course [])).2 := rfl
  refine ⟨accounts, ?_, stands⟩
  rw [stepped, ← stored]
  exact (respond_served (signUp_started password) (signUp_resource password) rfl served).2

theorem signedUp_activate :
    ((signedUp password).store.perform start.now
      (.activate (Credential.hashToken invitation.token))).1 = .ok 1 := by
  obtain ⟨accounts, stored, stands⟩ := signedUp_store read
  have up : (signedUp password).store.available = true := by
    rw [stored]
    rfl
  have found : (signedUp password).store.tables.invitations.get? invitation.digest =
      some ⟨1, start.now.plus service.config.auth.invitationTtl⟩ := by
    rw [stored, Store.withAccounts, Table.Directory.get?_set, if_pos rfl]
  have unexpired : start.now.before (start.now.plus service.config.auth.invitationTtl) = true := by
    decide
  rcases Store.perform_activate up start.now invitation.digest with
    ⟨i, found', _, _, done⟩ | ⟨refused, _⟩
  · cases found.symm.trans found'
    exact congrArg Prod.fst done
  · refine absurd (And.intro unexpired ?_) (refused _ found)
    rw [stored]
    exact stands

theorem redeemed : Redeemed service (enrolment password) invitation.token := by
  have filled : (Text.trim invitation.token.toList).isEmpty = false := by
    rw [invitation_token]
    decide +kernel
  have serves : serve (service.env start) confirm (.activation invitation.token) =
    activate invitation.token := rfl
  obtain ⟨after, served⟩ := @activate_run (service.env start)
    (some (lastMoment (service.env start) (signedUp password))) (signedUp password)
    invitation.token invitation.token 1 confirm_text filled rfl (signedUp_activate read)
  rw [← serves] at served
  have answered := (respond_served confirm_started confirm_resource rfl served).1
  have status : (respond (service.env start) confirm (signedUp password)).1.status = 200 := by
    rw [answered, finish_status]
    rfl
  rw [signedUp] at status
  exact ⟨[.request drawing (signUp password)], start, confirm, [], rfl, rfl,
    ⟨invitation.token, confirm_resource, confirm_text⟩, status⟩

/-- A person who has registered and used the invitation may log in with what fits the password. -/
theorem recognized {given : String}
    (fits : ∀ hash, Credential.Password.hash password service.config.auth.passwordCost
      drawing.draws.salt = .ok hash → Credential.Password.verify given hash = .ok true) :
    Recognized service (enrolment password) (Confirmed service (enrolment password))
      ⟨"ada@example.com", given⟩ 1 := by
  obtain ⟨hash, made, told⟩ := registered read
  exact ⟨registration password, person, invitation.token, hash, told, rfl, rfl,
    ⟨invitation.token, rfl, redeemed read⟩, not_expelled password 1, fits hash made⟩

end

theorem enrolment_apart (password : String) :
    (drawnDigests service (enrolment password)).Nodup := by
  have first : digest? service (.request drawing (signUp password)) = some invitation.digest :=
    if_pos ⟨rfl, signUp_resource password⟩
  have second : digest? service (.request start confirm) = none := by
    rw [digest?, if_neg]
    rintro ⟨posts, _⟩
    cases posts
  rw [drawnDigests, enrolment, List.filterMap_cons_some first, List.filterMap_cons_none second]
  exact List.nodup_singleton _

theorem enrolment_octets (password : String) (o : Occasion) (q : Request)
    (among : .request o q ∈ enrolment password) (posts : q.method = .post) :
    o.draws.salt.length = 16 := by
  rcases mem_enrolment among with same | same
  · injection same with occasion
    rw [occasion]
    rfl
  · cases same
    cases posts

theorem enrolment_unaided (password : String) : Unaided service (enrolment password) where
  unseeded e among := by
    rcases mem_enrolment among with rfl | rfl
    · rfl
    · rfl
  apart := enrolment_apart password
  salted o q among posts _ := Credential.Password.hasher_reads service.config.auth.passwordCost
    (enrolment_octets password o q among posts)

theorem enrolment_unforged (password : String) : Unforged service (enrolment password) := by
  rintro given r user token hash ⟨before, o, q, rest, moment, redeems⟩
    ⟨before', o', q', rest', moment', registers⟩ _
  have used : given = invitation.token := by
    have among : .request o q ∈ enrolment password := by
      rw [moment]
      exact List.mem_append_right _ List.mem_cons_self
    obtain ⟨segment, found, text⟩ := redeems.found
    rcases mem_enrolment among with same | same
    · cases same
      cases redeems.puts
    · cases same
      cases confirm_resource.symm.trans found
      cases confirm_text.symm.trans text
      rfl
  have made : token = invitation.token := by
    have among : .request o' q' ∈ enrolment password := by
      rw [moment']
      exact List.mem_append_right _ List.mem_cons_self
    rcases mem_enrolment among with same | same
    · cases same
      rw [token_of_registers registers]
      rfl
    · cases same
      cases registers.posts
  rw [used, made]

theorem enrolment_up (password : String) :
    (service.course (enrolment password)).store.available = true := by
  rw [Setting.course]
  refine @Setting.after_available service (enrolment password) (fun e among up => ?_)
    (State.ofConfig service.config) rfl
  rcases mem_enrolment among with rfl | rfl
  · exact nofun
  · exact nofun

theorem loginWith_arrives (password given : String) :
    Arrives service (enrolment password) start (loginWith given) :=
  ⟨rfl, loginWith_resource given, loginWith_started given, enrolment_up password, rfl, _, rfl⟩

set_option maxRecDepth 100000 in
theorem signUp_read : Registration.ofRequest service.config.listener.maxBodySize (signUp password) =
    .ok (registration password) :=
  ok_of_toOption (by decide +kernel)

theorem service_valid : service.config.Valid := by decide +kernel

end Sample

/-- Whoever has registered, and used the invitation, logs in. -/
theorem registered_person_logs_in :
    Unforged Sample.service (Sample.enrolment Sample.password) ∧
    (respond (Sample.service.env Sample.start) (Sample.loginWith Sample.password)
      (Sample.service.course (Sample.enrolment Sample.password))).1.status = 201 ∧
    ∃ l id, Login.ofRequest Sample.service.config.listener.maxBodySize
        (Sample.loginWith Sample.password) = .ok l ∧
      Recognized Sample.service (Sample.enrolment Sample.password)
        (Confirmed Sample.service (Sample.enrolment Sample.password)) l id ∧
      Carries (Sample.service.env Sample.start)
        (respond (Sample.service.env Sample.start) (Sample.loginWith Sample.password)
          (Sample.service.course (Sample.enrolment Sample.password))).1 id := by
  obtain ⟨answered, _, carried, _⟩ := login_for_registered Sample.service Sample.service_valid
    (Sample.enrolment Sample.password) (Sample.enrolment_unaided _)
    (Sample.loginWith_arrives Sample.password Sample.password)
  have recognized := Sample.recognized Sample.signUp_read fun hash made => by
    rw [Credential.Password.verify_hash Sample.drawing_salt made, beq_self_eq_true]
  have status := answered.2 ⟨_, 1, Sample.login_read, recognized⟩
  exact ⟨Sample.enrolment_unforged _, status, carried status⟩

end Service

end Agora
