import Agora.Proofs.PostGates

/-!
How long the body of a new post may be. The limit of the configuration stands where a length is
declared and where the body is read. But what reads the body has a limit of its own, which no
setting lifts, and it reads no further than the declared length. So a setting above that limit
promises more than is read, and bodies within the setting are refused for their size.
-/

set_option autoImplicit false

namespace Agora.Service

open Http (Request Response)
open Store (User)
open Time (Span)

/-- The body is longer than any document may be, or than is declared for it. -/
def Overrun (q : Request) : Prop :=
  longestDocument < q.body.length ∨ ∃ n, q.declaredLength = some n ∧ n < q.body.length

section

variable {most : Nat} {q : Request} {complaint : Complaint}

/-- A body is too long to be read if it is longer than the configured limit, or overruns another. -/
theorem bodyLimit_lt : bodyLimit most q < q.body.length ↔
    most < q.body.length ∨ Overrun q := by
  rw [bodyLimit, Overrun]
  cases q.declaredLength with
  | none =>
    simp only [Option.getD_none, reduceCtorEq, false_and, exists_false, or_false]
    omega
  | some n =>
    simp only [Option.getD_some, Option.some.injEq, exists_eq_left']
    omega

theorem checkLength_error {field text : String} (refused : checkLength field text 1 most =
    .error complaint) : complaint = .required field ∨ complaint = .tooLong field most := by
  unfold checkLength at refused
  split at refused
  · exact .inl (Except.error.inj refused).symm
  · split at refused
    · exact .inr (Except.error.inj refused).symm
    · cases refused

namespace Draft

theorem ofRequest_of_long (json : q.headers.saysJson = true)
    (long : bodyLimit most q < q.body.length) :
    Draft.ofRequest most q = .error (.body .tooLong) := by
  rw [ofRequest, readBody, json, if_neg (by decide), if_pos long]
  rfl

/-- Whatever else is wrong with a new post, it is not said to be too long to be read. -/
theorem message_of_fits (json : q.headers.saysJson = true)
    (fits : q.body.length ≤ bodyLimit most q) (refused : Draft.ofRequest most q = .error complaint) :
    complaint.message ≠ BodyFault.tooLong.message := by
  rw [ofRequest, readBody, json, if_neg (by decide), if_neg (Nat.not_lt_of_le fits)] at refused
  cases read : Json.read (.record .ignored fields) q.body with
  | error fault =>
    rw [read] at refused
    cases refused
    cases fault <;> decide
  | ok value =>
    rw [read] at refused
    change (do
      checkTitle (ofFields value).title
      checkContent (ofFields value).content
      return ofFields value : Except Complaint Draft) = _ at refused
    cases titled : checkTitle (ofFields value).title with
    | error c =>
      rw [titled] at refused
      cases refused
      rcases checkLength_error titled with rfl | rfl <;> decide
    | ok _ =>
      rw [titled] at refused
      cases written : checkContent (ofFields value).content with
      | error c =>
        rw [written] at refused
        cases refused
        rcases checkLength_error written with rfl | rfl <;> decide
      | ok _ =>
        rw [written] at refused
        cases refused

end Draft

end

def RefusedUnread (answer : Response) : Prop :=
  answer.status = 413 ∧ answer.body = .text "length limit exceeded"

def RefusedInReading (answer : Response) : Prop :=
  answer.status = 400 ∧ answer.body = .json (.object
    [("error", .string "Failed to buffer the request body: length limit exceeded")])

def RefusedForSize (answer : Response) : Prop := RefusedUnread answer ∨ RefusedInReading answer

/-- The body is longer than the configuration allows, or is declared to be. -/
def Oversized (c : Config) (q : Request) : Prop :=
  tooLong c q = true ∨ c.listener.maxBodySize < q.body.length

/-- Admit the client, and find out who calls. -/
def reception (env : Env) (q : Request) : Plan User := do
  admission env q
  member env q

/-- A new post is submitted in JSON by a member who is admitted. -/
structure Submission (env : Env) (q : Request) (s : State) : Prop where
  method : q.method = .post
  posts : resource? env.config q = some .posts
  json : q.headers.saysJson = true
  /-- A request may take some time, as every valid configuration grants it. -/
  time : 0 < env.config.timeouts.request
  passes : ∃ caller received,
    (reception env q).run env (some (lastMoment env s)) s = (.done caller, received)

section

variable {env : Env} {q : Request} {s : State}

theorem not_refused_of_status {answer : Response} {n : Nat} (status : answer.status = n)
    (unread : n ≠ 413) (inReading : n ≠ 400) :
    ¬ RefusedUnread answer ∧ ¬ RefusedInReading answer := by
  subst status
  exact ⟨fun refused => unread refused.1, fun refused => inReading refused.1⟩

/-- A failure refuses a body for its size only by its words. -/
theorem Failure.refusedInReading {f : Failure} (refused : RefusedInReading f.response) :
    ∃ complaint, f = .badRequest complaint ∧
      complaint.message = BodyFault.tooLong.message := by
  obtain ⟨status, body⟩ := refused
  rw [response_status] at status
  cases f with
  | badRequest complaint =>
    refine ⟨complaint, rfl, ?_⟩
    simpa [response, Response.ofJson, shown, message, BodyFault.message] using body
  | _ => cases status

theorem Failure.not_refusedUnread (f : Failure) : ¬ RefusedUnread f.response := by
  rintro ⟨status, _⟩
  rw [response_status] at status
  cases f <;> cases status

theorem plan_of_posts (method : q.method = .post) (posts : resource? env.config q = some .posts) :
    plan env q = reception env q >>= createPost env q := by
  have serves : Resource.posts.serves q.method = true := by
    rw [method]
    rfl
  rw [plan_of_resource posts, reception, bind_assoc]
  simp only [serve, enter, handle, serves, ↓reduceIte]

theorem Failure.ofStore_not_refusedInReading (e : Store.Error) :
    ¬ RefusedInReading (Failure.ofStore e).response := by
  intro refused
  obtain ⟨complaint, same, words⟩ := refusedInReading refused
  cases e with
  | duplicateEmail | duplicateUsername | invalidToken =>
    cases same
    revert words
    decide
  | _ => cases same

theorem createPost_refused (json : q.headers.saysJson = true) (caller : User)
    (cutoff : Option Span) (t : State) :
    let answer := ((createPost env q caller).run env cutoff t).1.response
    ¬ RefusedUnread answer ∧ (RefusedInReading answer ↔
      bodyLimit env.config.listener.maxBodySize q < q.body.length) := by
  dsimp only
  rw [createPost]
  by_cases long : bodyLimit env.config.listener.maxBodySize q < q.body.length
  · rw [Draft.ofRequest_of_long json long]
    exact ⟨Failure.not_refusedUnread (.badRequest _), iff_of_true ⟨rfl, rfl⟩ long⟩
  · cases read : Draft.ofRequest env.config.listener.maxBodySize q with
    | error complaint =>
      refine ⟨Failure.not_refusedUnread (.badRequest complaint), iff_of_false ?_ long⟩
      intro refused
      obtain ⟨_, same, words⟩ := Failure.refusedInReading refused
      cases same
      exact Draft.message_of_fits json (Nat.le_of_not_lt long) read words
    | ok d =>
      rw [Plan.accept_then, Plan.run_call_then]
      -- What the call comes to: no answer, an error of the store, or the post.
      rcases performCall env cutoff (.createPost caller.id d.title d.content d.tags) t with
        ⟨_ | (e | post), after⟩
      · exact (not_refused_of_status (n := 408) rfl (by decide) (by decide)).imp_right
          (iff_of_false · long)
      · exact ⟨Failure.not_refusedUnread _,
          iff_of_false (Failure.ofStore_not_refusedInReading e) long⟩
      · exact (not_refused_of_status (n := 201) rfl (by decide) (by decide)).imp_right
          (iff_of_false · long)

/-- Finishing off an answer that has a body to show leaves it refused or not refused as it was. -/
theorem refused_finish (method : q.method = .post) (answer : Response) :
    (RefusedUnread (finish env q answer) ↔ RefusedUnread answer) ∧
      (RefusedInReading (finish env q answer) ↔ RefusedInReading answer) := by
  have body : (finish env q answer).body = answer.body := by
    rw [finish_body, method, if_neg (by decide)]
  rw [RefusedUnread, RefusedInReading, finish_status, body]
  exact ⟨.rfl, .rfl⟩

namespace Submission

/-- For what length of the body a submission is refused, and where. -/
theorem refused (submission : Submission env q s) :
    (RefusedUnread (respond env q s).1 ↔ tooLong env.config q = true) ∧
      (RefusedInReading (respond env q s).1 ↔ ¬ tooLong env.config q = true ∧
        bodyLimit env.config.listener.maxBodySize q < q.body.length) := by
  obtain ⟨method, posts, json, time, caller, received, passes⟩ := submission
  have lasting : Span.ofSeconds env.config.timeouts.request ≠ 0 :=
    Nat.mul_ne_zero (by decide) (Nat.ne_of_gt time)
  rw [respond_eq, (refused_finish method _).1, (refused_finish method _).2]
  cases declared : tooLong env.config q with
  | true =>
    have answered : answer env q s = (tooLarge, s) := (if_neg lasting).trans (if_pos declared)
    have unread : RefusedUnread tooLarge := ⟨rfl, rfl⟩
    rw [answered]
    exact ⟨iff_of_true unread rfl, iff_of_false nofun fun both => both.1 rfl⟩
  | false =>
    have ran : planRun env q s =
        (createPost env q caller).run env (some (lastMoment env s)) received := by
      rw [planRun, plan_of_posts method posts, Plan.run_then, passes]
    rw [answer_of_run ⟨lasting, declared⟩, ran]
    obtain ⟨unread, inReading⟩ :=
      createPost_refused json caller (some (lastMoment env s)) received
    exact ⟨iff_of_false unread Bool.false_ne_true,
      inReading.trans (and_iff_right Bool.false_ne_true).symm⟩

end Submission

end

/-- Which submissions are refused for the size of their body. -/
structure SizeRule (env : Env) (q : Request) (answer : Response) : Prop where
  /-- Unread: those that declare more than the configured limit. -/
  unread : RefusedUnread answer ↔ tooLong env.config q = true
  /-- In reading: those that do not, but are longer than that or overrun another limit. -/
  inReading : RefusedInReading answer ↔ ¬ tooLong env.config q = true ∧
    (env.config.listener.maxBodySize < q.body.length ∨ Overrun q)
  /-- The configured limit decides, unless a body keeps it and overruns another. -/
  configured : (RefusedForSize answer ↔ Oversized env.config q) ↔
    ¬ (¬ Oversized env.config q ∧ Overrun q)
  /-- If no wrong length is declared, the limit is the smaller of the configured one and that for
  any document. -/
  honest : (∀ n, q.declaredLength = some n → n = q.body.length) →
    (RefusedForSize answer ↔
      min longestDocument env.config.listener.maxBodySize < q.body.length)

/-- A new post is refused for its size if it exceeds the configured limit or overruns another. So
the configured limit is the limit for all bodies only if it is not above that for any document. -/
theorem submissions_refused_for_size {env : Env} {q : Request} {s : State}
    (submission : Submission env q s) : SizeRule env q (respond env q s).1 := by
  obtain ⟨unread, inReading⟩ := submission.refused
  rw [bodyLimit_lt] at inReading
  have either : RefusedForSize (respond env q s).1 ↔ Oversized env.config q ∨ Overrun q := by
    rw [RefusedForSize, unread, inReading, Oversized, or_assoc]
    by_cases declared : tooLong env.config q = true
    · exact iff_of_true (.inl declared) (.inl declared)
    · rw [or_iff_right declared, or_iff_right declared, and_iff_right declared]
  refine ⟨unread, inReading, ?_, fun honest => ?_⟩
  · rw [either]
    by_cases oversized : Oversized env.config q <;> simp [oversized]
  · rw [either]
    constructor
    · rintro ((declared | exceeds) | long | ⟨n, declared, short⟩)
      · obtain ⟨n, declared, exceeds⟩ := (Option.any_eq_true _ _).1 declared
        rw [honest n declared] at exceeds
        exact Nat.lt_of_le_of_lt (Nat.min_le_right _ _) (of_decide_eq_true exceeds)
      · exact Nat.lt_of_le_of_lt (Nat.min_le_right _ _) exceeds
      · exact Nat.lt_of_le_of_lt (Nat.min_le_left _ _) long
      · exact absurd (honest n declared) (Nat.ne_of_lt short)
    · intro exceeds
      rcases Nat.lt_or_ge longestDocument q.body.length with long | short
      · exact .inr (.inl long)
      · exact .inl (.inr (by omega))

namespace Sample

/-- Bodies may be as long as four times what is allowed when nothing is set. -/
def roomy : Env where
  config := { config with listener := { maxBodySize := 4194304 } }
  now := ⟨0, 0⟩
  delay := 0

def submit (body : Bytes) : Request where
  method := .post
  target := "/v1/posts"
  headers := bodyHeaders
  body

def brief : Bytes := Bytes.ofString "\x7b\"title\":\"t\",\"content\":\"c\"\x7d"

/-- A short post with blanks behind it, up to a length above that for any document. -/
def padded : Bytes := brief ++ List.replicate 2097152 32

theorem submits (body : Bytes) : Submission roomy (submit body) (state 1) where
  method := rfl
  posts := by
    have pieces : (submit body).segments = ["", "v1", "posts"] := by
      rw [Request.segments, Request.path, Request.resource, submit]
      dsimp only
      decide +kernel
    rw [resource?, pieces]
    rfl
  json := by
    have same : (submit body).headers = bodyHeaders := rfl
    rw [same]
    decide +kernel
  time := by decide
  passes := by
    have known : Credential.bearer roomy.config.auth.token roomy.now.second
        (submit []).headers = .ok 1 := bearer_body
    have same : reception roomy (submit body) = reception roomy (submit []) := rfl
    rw [same, reception, member_of_bearer known]
    have passed : ((admission roomy (submit []) >>= fun _ => memberOf 1).run roomy
        (some (lastMoment roomy (state 1))) (state 1)).1 = .done ada := by
      decide +kernel
    exact ⟨ada, _, Prod.ext passed rfl⟩

theorem brief_length : brief.length = 27 := by decide +kernel

theorem padded_length : padded.length = 2097179 := by
  rw [padded, List.length_append, brief_length, List.length_replicate]

theorem submit_undeclared (body : Bytes) : (submit body).declaredLength = none := by
  rw [Request.declaredLength, submit]
  dsimp only
  decide +kernel

end Sample

/-- A short post is not refused for its size. -/
theorem brief_post_not_refused :
    Submission Sample.roomy (Sample.submit Sample.brief) (Sample.state 1) ∧
      SizeRule Sample.roomy (Sample.submit Sample.brief)
        (respond Sample.roomy (Sample.submit Sample.brief) (Sample.state 1)).1 ∧
      ¬ RefusedForSize (respond Sample.roomy (Sample.submit Sample.brief) (Sample.state 1)).1 := by
  have rule := submissions_refused_for_size (Sample.submits Sample.brief)
  have undeclared := Sample.submit_undeclared Sample.brief
  refine ⟨Sample.submits Sample.brief, rule, fun refused => ?_⟩
  have long := (rule.honest fun n declared => nomatch undeclared.symm.trans declared).1 refused
  change min 2097152 4194304 < Sample.brief.length at long
  rw [Sample.brief_length] at long
  exact absurd long (by decide)

/-- Where 4 MiB are allowed, a post of little more than 2 MiB is refused for its size. -/
theorem padded_post_refused :
    Submission Sample.roomy (Sample.submit Sample.padded) (Sample.state 1) ∧
      ¬ Oversized Sample.roomy.config (Sample.submit Sample.padded) ∧
      RefusedInReading
        (respond Sample.roomy (Sample.submit Sample.padded) (Sample.state 1)).1 := by
  have submission := Sample.submits Sample.padded
  have undeclared := Sample.submit_undeclared Sample.padded
  have length : (Sample.submit Sample.padded).body.length = 2097179 := Sample.padded_length
  have limit : Sample.roomy.config.listener.maxBodySize = 4194304 := rfl
  have none : ¬ tooLong Sample.roomy.config (Sample.submit Sample.padded) = true := by
    rw [tooLong, undeclared]
    exact Bool.false_ne_true
  refine ⟨submission, ?_, submission.refused.2.2 ⟨none, bodyLimit_lt.2 (.inr (.inl ?_))⟩⟩
  · rintro (declared | long)
    · exact none declared
    · rw [length, limit] at long
      exact absurd long (by decide)
  · rw [length]
    decide

end Agora.Service
