import Agora.Proofs.IssuedTokens
import Agora.Proofs.PostGates
import Agora.Proofs.RequestAtomicity
import Agora.Proofs.Sessions

/-!
Only accounts that exist and are active act. The gate for members asks neither whether an account is
active nor, where the cache knows the user, the store; yet tokens are given only to active accounts,
an active account stays active, a number is never given out again, and the cache is coherent. So in
a session whose tokens all come from logins, whoever is authenticated is stored and active.
-/

set_option autoImplicit false

namespace Agora.Service

open Http (Request Response isSuccess)
open Store (Account Live User Vacant)
open Time (Span)

section

variable {env : Env} {cutoff : Option Span} {q : Request} {s after : State}

/-- A request that succeeds has run its plan to the end. -/
theorem done_of_success (success : isSuccess (respond env q s).1.status = true) :
    ∃ response after, planRun env q s = (.done response, after) ∧
      (respond env q s).1 = finish env q response ∧ (respond env q s).2.store = after.store := by
  by_cases ready : started env q
  · obtain ⟨status, store⟩ := respond_of_started (s := s) ready
    rw [status] at success
    cases ran : planRun env q s with
    | mk ending after =>
      rw [ran] at success store
      cases ending with
      | done response =>
        refine ⟨response, after, rfl, ?_, store⟩
        rw [respond_eq, answer_of_run ready, ran]
        rfl
      | halted why =>
        rw [Ending.response, why.not_success] at success
        cases success
      | cutOff => cases success
  · obtain ⟨status, _⟩ := respond_of_refused (s := s) ready
    rcases status with late | large
    · rw [late] at success
      cases success
    · rw [large] at success
      cases success

theorem logInAs_done {l : Login} {user : User}
    (ended : (logInAs env l).run env cutoff s = (.done user, after)) :
    ∃ a, s.store.tables.accounts.get? a.user.id = some a ∧ a.user.isActive = true ∧
      a.user = user := by
  rw [logInAs_eq] at ended
  obtain ⟨answer, found, asked, rest⟩ := Plan.run_then_done ended
  cases answer with
  | error e => cases rest
  | ok account =>
    obtain ⟨_, performed⟩ := performCall_ok (Plan.run_ask_call_done asked)
    obtain ⟨right, hashed, _, rest⟩ := Plan.run_then_done rest
    split at rest
    · cases rest
    · split at rest
      · cases rest
      · rename_i active
        cases rest
        have stored := Store.get?_of_perform_credentials performed
        exact ⟨account, stored, by simpa using active, rfl⟩

theorem serve_login (posts : q.method = .post) : serve env q .login = logIn env q := by
  have served : Resource.login.serves q.method = true := by
    rw [posts]
    rfl
  simp only [serve, enter, handle, served, ↓reduceIte]
  rfl

/-- A login that succeeds gives a token that is issued to an active account. -/
theorem logIn_done {response : Response}
    (ended : (logIn env q).run env cutoff s = (.done response, after)) :
    ∃ a, s.store.tables.accounts.get? a.user.id = some a ∧ a.user.isActive = true ∧
      response = .data 201 (.string
        (Token.issue env.config.auth.token env.now.second a.user.id)) := by
  unfold logIn at ended
  split at ended
  · cases ended
  · obtain ⟨user, known, asked, rest⟩ := Plan.run_then_done ended
    obtain ⟨a, stored, active, rfl⟩ := logInAs_done asked
    cases rest
    exact ⟨a, stored, active, rfl⟩

theorem serve_account {segment : String} (deletes : q.method = .delete) :
    serve env q (.account segment) = operator env q >>= fun _ => deleteAccount segment := by
  have served : (Resource.account segment).serves q.method = true := by
    rw [deletes]
    rfl
  simp only [serve, enter, handle, served, ↓reduceIte]

theorem deleteAccount_done {segment : String} {response : Response}
    (ended : (deleteAccount segment).run env cutoff s = (.done response, after)) :
    ∃ id, names segment id ∧ s.store.perform env.now (.deleteUser id) = (.ok (), after.store) ∧
      response = .ofStatus 204 := by
  obtain ⟨id, named, parsed, rest⟩ := Plan.run_then_done ended
  obtain ⟨_, deleted, called, rest⟩ := Plan.run_then_done rest
  obtain ⟨_, performed, _⟩ := Plan.run_call_done called
  have kept : named.store = s.store := (pathId_keeps segment).of_run parsed
  cases rest
  rw [kept] at performed
  exact ⟨id, pathId_done parsed, performed, rfl⟩

end

section

variable (setting : Setting)

/-- A login of the session was answered with a token. -/
def Granted (history : List Event) (token : String) : Prop :=
  ∃ before o q rest, history = before ++ .request o q :: rest ∧ q.method = .post ∧
    resource? setting.config q = some .login ∧
    (respond (setting.env o) q (setting.course before)).1.status = 201 ∧
    (respond (setting.env o) q (setting.course before)).1.body =
      .json (.object [("data", .string token)])

/-- An operator has deleted the account of a number in the session, and was told so. -/
def Expelled (history : List Event) (id : Int) : Prop :=
  ∃ before o q rest segment, history = before ++ .request o q :: rest ∧ q.method = .delete ∧
    resource? setting.config q = some (.account segment) ∧ names segment id ∧
    (respond (setting.env o) q (setting.course before)).1.status = 204

/-- Every bearer token of the session that verifies was the answer to a login before. -/
def Honest (history : List Event) : Prop :=
  ∀ before o q rest token id, history = before ++ .request o q :: rest →
    Credential.ofHeaders "Bearer" q.headers = .ok token →
    Token.verify setting.config.auth.token o.now.second (String.ofList token) = .ok id →
    Granted setting before (String.ofList token)

variable {setting} {history : List Event}

/-- What a request has made so stays so, if every operation of the store keeps it. -/
theorem holds_of_request {P : Store → Prop}
    (step : ∀ (now : Time.Stamp) s c, now.Proper → P s → P (Store.perform now s c).2)
    (switch : ∀ (s : Store) up, P s → P { s with available := up }) {before rest : List Event}
    {o : Occasion} {q : Request}
    (made : P (respond (setting.env o) q (setting.course before)).2.store) :
    P (setting.course (before ++ .request o q :: rest)).store := by
  rw [Setting.course_append_cons]
  exact Setting.after_store step switch rest made

/-- A token that was given out names a number whose account, if it is still there, is active. -/
theorem live_of_granted {token : String} (granted : Granted setting history token) :
    ∃ issued id, token = Token.issue setting.config.auth.token issued id ∧
      Live id (setting.course history).store := by
  obtain ⟨before, o, q, rest, rfl, posts, found, status, body⟩ := granted
  have success := isSuccess_of_status status rfl
  obtain ⟨response, after, ran, answered, store⟩ := done_of_success success
  have route : resource? (setting.env o).config q = some .login := found
  rw [planRun, plan_of_resource route, serve_login posts] at ran
  obtain ⟨_, admitted, admits, served⟩ := Plan.run_then_done ran
  obtain ⟨a, stored, active, rfl⟩ := logIn_done served
  have kept : admitted.store = (setting.course before).store := admission_keeps.of_run admits
  have still : after.store = admitted.store := logIn_keeps.of_run served
  have whole : q.method ≠ .head := by
    rw [posts]
    decide
  rw [answered, finish_body, if_neg whole] at body
  injection body with document
  injection document with members
  injection members with member
  injection member with _ data
  injection data with same
  refine ⟨o.now.second, a.user.id, same.symm, ?_⟩
  refine holds_of_request (P := Live a.user.id) (fun now s c _ live => live.perform c)
    (fun s up live => ⟨live.given, live.active⟩) ?_
  rw [store, still]
  refine ⟨Table.Ledger.lt_next_of_get? stored, fun b found => ?_⟩
  rw [stored] at found
  cases found
  exact active

/-- A number whose account was deleted names none any more. -/
theorem vacant_of_expelled {id : Int} (expelled : Expelled setting history id) :
    Vacant id (setting.course history).store := by
  obtain ⟨before, o, q, rest, segment, rfl, deletes, found, named, status⟩ := expelled
  have success := isSuccess_of_status status rfl
  obtain ⟨response, after, ran, _, store⟩ := done_of_success success
  have route : resource? (setting.env o).config q = some (.account segment) := found
  rw [planRun, plan_of_resource route, serve_account deletes] at ran
  obtain ⟨_, admitted, _, served⟩ := Plan.run_then_done ran
  obtain ⟨_, entered, _, deleted⟩ := Plan.run_then_done served
  obtain ⟨other, alsoNamed, performed, _⟩ := deleteAccount_done deleted
  have same : id = other := names_unique alsoNamed named
  refine holds_of_request (P := Vacant id) (fun now s c _ vacant => vacant.perform c)
    (fun s up vacant => ⟨vacant.given, vacant.missing⟩) ?_
  rw [store, same]
  exact Store.vacant_of_perform_deleteUser performed

/-- The member who passes the gate is the user of the token's subject, as it is stored. -/
theorem member_done {env : Env} {cutoff : Option Span} {q : Request} {s after : State} {user : User}
    (proper : env.now.Proper) (sound : Sound s)
    (passed : (member env q).run env cutoff s = (.done user, after)) :
    Credential.bearer env.config.auth.token env.now.second q.headers = .ok user.id ∧
      after.store = s.store ∧
      ∃ a, s.store.tables.accounts.get? user.id = some a ∧ a.user = user := by
  have kept : after.store = s.store := member_keeps.of_run passed
  obtain ⟨caller, known, asked, rest⟩ := Plan.run_then_done passed
  cases caller with
  | error refusal => cases rest
  | ok caller =>
    cases rest
    cases token : Credential.bearer env.config.auth.token env.now.second q.headers with
    | error refusal =>
      rw [authenticate, token] at asked
      cases asked
    | ok id =>
      rw [authenticate, token] at asked
      obtain ⟨found, between, resolved, rest⟩ := Plan.run_then_done asked
      cases found with
      | error e => cases rest
      | ok found =>
        cases rest
        obtain ⟨a, stored, same⟩ :=
          (resolve_sound proper sound id).2 user (congrArg Prod.fst resolved)
        have number : user.id = id := same ▸ Table.Ledger.number_of_get? stored
        rw [number]
        exact ⟨rfl, kept, a, stored, same⟩

/-- Whoever is stored passes the gate with a token that names him, if the store answers at once. -/
theorem member_calm {env : Env} {q : Request} {s : State} {id : Int} {a : Account}
    (prompt : env.delay = 0) (up : s.store.available = true) (sound : Sound s)
    (known : Credential.bearer env.config.auth.token env.now.second q.headers = .ok id)
    (stored : s.store.tables.accounts.get? id = some a) (cutoff : Option Span) :
    ∃ after, (member env q).run env cutoff s = (.done a.user, after) ∧ after.store = s.store := by
  obtain ⟨after, found, same, _⟩ := resolve_calm prompt up sound cutoff id
  rw [stored] at found
  refine ⟨after, ?_, same⟩
  rw [member_of_bearer known, memberOf, Plan.run_then, found]
  rfl

theorem bearer_ok {config : Config.Token} {now id : Int} {headers : Http.Headers}
    (known : Credential.bearer config now headers = .ok id) :
    ∃ token, Credential.ofHeaders "Bearer" headers = .ok token ∧
      Token.verify config now (String.ofList token) = .ok id := by
  unfold Credential.bearer at known
  cases given : Credential.ofHeaders "Bearer" headers with
  | error refusal =>
    rw [given] at known
    cases known
  | ok token =>
    rw [given] at known
    change (Token.verify config now (String.ofList token)).mapError Credential.Refusal.token =
      .ok id at known
    refine ⟨token, rfl, ?_⟩
    cases verified : Token.verify config now (String.ofList token) with
    | error fault =>
      rw [verified] at known
      cases known
    | ok found =>
      rw [verified] at known
      cases known
      rfl

/-- In a session whose bearer tokens all come from its logins, each request that passes the gate for
members is that of the user whose number is the token's subject; that user is stored at the moment,
and active; and it is none whose account an operator has deleted in the session before. -/
theorem only_live_accounts_act (setting : Setting) (history : List Event)
    (honest : Honest setting history) {before rest : List Event} {o : Occasion} {q : Request}
    (moment : history = before ++ .request o q :: rest) {admitted passed : State} {user : User}
    (admits : (admission (setting.env o) q).run (setting.env o)
      (some (lastMoment (setting.env o) (setting.course before))) (setting.course before) =
        (.done (), admitted))
    (passes : (member (setting.env o) q).run (setting.env o)
      (some (lastMoment (setting.env o) (setting.course before))) admitted =
        (.done user, passed)) :
    Credential.bearer setting.config.auth.token o.now.second q.headers = .ok user.id ∧
      (∃ a, passed.store.tables.accounts.get? user.id = some a ∧ a.user = user) ∧
      user.isActive = true ∧ ¬Expelled setting before user.id := by
  have kept : admitted.store = (setting.course before).store := admission_keeps.of_run admits
  have sound : Sound admitted :=
    admission_tidy.sound_of_run o.proper (setting.course_sound before) admits
  obtain ⟨known, same, a, stored, rfl⟩ := member_done o.proper sound passes
  obtain ⟨token, carried, verified⟩ := bearer_ok known
  obtain ⟨issued, id, made, live⟩ :=
    live_of_granted (honest before o q rest token a.user.id moment carried verified)
  rw [made] at verified
  have number : a.user.id = id := Token.subject_of_verify verified
  have active : a.user.isActive = true := by
    refine live.active a ?_
    rw [← kept, ← number]
    exact stored
  refine ⟨known, ⟨a, by rw [same]; exact stored, rfl⟩, active, fun expelled => ?_⟩
  have missing := (vacant_of_expelled expelled).missing
  rw [← kept, stored] at missing
  cases missing

end

namespace Sample

def password : String := "abcdefghijklmnopqrstuvwxyz"

def passwordHash : String := "$2a$06$.rCVZVOThsIa97pEDOxvGuRRgzG64bvtJ0938xuqzv18d3ZpQhstC"

/-- A service whose hasher knows of the one password only. -/
def setting : Setting where
  config := { config with rateLimit := { enabled := false } }
  hasher := ⟨Credential.Password.hash, fun given hash =>
    .ok (given = password && hash = passwordHash)⟩

def seed : Event := .seed start ⟨"ada", "ada@example.com", passwordHash, "user"⟩ true

def login : Request where
  method := .post
  target := "/v1/authentication/login"
  headers := [.ofText "content-type" "application/json"]
  body := Bytes.ofString <|
    "\x7b\"email\":\"ada@example.com\",\"password\":\"abcdefghijklmnopqrstuvwxyz\"\x7d"

def session : List Event := [seed, .request start login, .request start (request .get)]

theorem login_resource : resource? setting.config login = some .login := by
  have pieces : login.segments = ["", "v1", "authentication", "login"] := by
    rw [Request.segments, Request.path, Request.resource, login]
    dsimp only
    decide +kernel
  rw [resource?, pieces]
  rfl

theorem takes_up {q : Request} (undeclared : q.declaredLength = none) :
    started (setting.env start) q := by
  refine ⟨?_, ?_⟩
  · change Span.ofSeconds 4 ≠ 0
    decide
  · rw [undeclared]
    rfl

theorem login_started : started (setting.env start) login := by
  apply takes_up
  rw [Request.declaredLength, login]
  dsimp only
  decide +kernel

set_option maxRecDepth 100000 in
theorem login_read :
    Login.ofRequest setting.config.listener.maxBodySize login =
      .ok ⟨"ada@example.com", password⟩ :=
  ok_of_toOption (by decide +kernel)

theorem login_answered :
    ∃ after, planRun (setting.env start) login (setting.course [seed]) =
      (.done (.data 201 (.string (Token.issue config.auth.token 0 1))), after) := by
  rw [planRun, plan_of_resource login_resource, serve_login rfl, logIn]
  have read : Login.ofRequest (setting.env start).config.listener.maxBodySize login =
    .ok ⟨"ada@example.com", password⟩ := login_read
  rw [read]
  exact ⟨_, rfl⟩

/-- The token that the first member carries is the one that is issued on the login. -/
theorem token_carried {token : List Char}
    (given : Credential.ofHeaders "Bearer" (request .get).headers = .ok token) :
    String.ofList token = Token.issue config.auth.token 0 1 := by
  have same : Credential.ofHeaders "Bearer" headers = .ok token := given
  rw [carried] at same
  rw [← Except.ok.inj same, String.ofList_toList]

theorem granted :
    Granted setting [seed, .request start login] (Token.issue config.auth.token 0 1) := by
  obtain ⟨after, ran⟩ := login_answered
  have status : (respond (setting.env start) login (setting.course [seed])).1.status = 201 := by
    rw [(respond_of_started login_started).1, ran]
    rfl
  refine ⟨[seed], start, login, [], rfl, rfl, login_resource, status, ?_⟩
  have success := isSuccess_of_status status rfl
  obtain ⟨response, _, ended, answered, _⟩ := done_of_success success
  rw [ran] at ended
  cases ended
  have whole : login.method ≠ .head := nofun
  rw [answered, finish_body, if_neg whole]
  rfl

theorem session_honest : Honest setting session := by
  intro before o q rest token id moment given _
  match before with
  | [] => cases moment
  | [_] =>
    cases moment
    cases given
  | [_, _] =>
    cases moment
    rw [token_carried given]
    exact granted
  | _ :: _ :: _ :: earlier =>
    injection moment with _ moment
    injection moment with _ moment
    injection moment with _ moment
    cases earlier <;> cases moment

def reached : State := setting.course [seed, .request start login]

theorem reached_store : reached.store = (setting.course [seed]).store := by
  obtain ⟨after, ran⟩ := login_answered
  have stepped : reached = (respond (setting.env start) login (setting.course [seed])).2 := rfl
  rw [stepped, (respond_of_started login_started).2, ran]
  rw [planRun, plan_of_resource login_resource, serve_login rfl] at ran
  obtain ⟨_, admitted, admits, served⟩ := Plan.run_then_done ran
  exact (logIn_keeps.of_run served).trans (admission_keeps.of_run admits)

theorem ada_passes :
    ∃ passed, (member (setting.env start) (request .get)).run (setting.env start)
      (some (lastMoment (setting.env start) reached)) reached = (.done ada, passed) := by
  have known : Credential.bearer (setting.env start).config.auth.token
      (setting.env start).now.second (request .get).headers = .ok 1 := bearer
  have up : reached.store.available = true := by
    rw [reached_store]
    rfl
  have stored : reached.store.tables.accounts.get? 1 = some ⟨ada, passwordHash⟩ := by
    rw [reached_store]
    rfl
  obtain ⟨passed, passes, _⟩ :=
    member_calm (s := reached) rfl up (setting.course_sound _) known stored
      (some (lastMoment (setting.env start) reached))
  exact ⟨passed, passes⟩

end Sample

/-- The first member logs in, and the token that is the answer passes the gate. -/
theorem ada_acts :
    Honest Sample.setting Sample.session ∧
    Sample.session = [Sample.seed, .request Sample.start Sample.login] ++
      .request Sample.start (Sample.request .get) :: [] ∧
    ∃ admitted passed,
      (admission (Sample.setting.env Sample.start) (Sample.request .get)).run
        (Sample.setting.env Sample.start)
        (some (lastMoment (Sample.setting.env Sample.start) Sample.reached)) Sample.reached =
          (.done (), admitted) ∧
      (member (Sample.setting.env Sample.start) (Sample.request .get)).run
        (Sample.setting.env Sample.start)
        (some (lastMoment (Sample.setting.env Sample.start) Sample.reached)) admitted =
          (.done Sample.ada, passed) ∧
      Credential.bearer Sample.setting.config.auth.token 0 (Sample.request .get).headers =
        .ok Sample.ada.id ∧
      (∃ a, passed.store.tables.accounts.get? Sample.ada.id = some a ∧ a.user = Sample.ada) ∧
      Sample.ada.isActive = true ∧
      ¬Expelled Sample.setting [Sample.seed, .request Sample.start Sample.login]
        Sample.ada.id := by
  obtain ⟨passed, passes⟩ := Sample.ada_passes
  have moment : Sample.session = [Sample.seed, .request Sample.start Sample.login] ++
    .request Sample.start (Sample.request .get) :: [] := rfl
  have admits : (admission (Sample.setting.env Sample.start) (Sample.request .get)).run
      (Sample.setting.env Sample.start)
      (some (lastMoment (Sample.setting.env Sample.start) Sample.reached)) Sample.reached =
        (.done (), Sample.reached) := rfl
  exact ⟨Sample.session_honest, moment, Sample.reached, passed, admits, passes,
    only_live_accounts_act Sample.setting Sample.session Sample.session_honest moment admits
      passes⟩

end Agora.Service
