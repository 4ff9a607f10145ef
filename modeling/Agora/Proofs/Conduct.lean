import Agora.Proofs.PlanSteps
import Agora.Proofs.PublishedLimits
import Agora.Proofs.RequestRun

/-!
What a request may do, resource by resource. The gates look, and count whom they refuse; behind them
a resource takes a few steps of its own, and writes only what it has found to keep within the
published limits. It ends with success, or for a reason that says nothing about credentials that the
resource does not ask for. One look at the plans serves all that is claimed of every request.
-/

set_option autoImplicit false

namespace Agora.Service

open Http (Method Request Response isSuccess)
open Store (Post User)
open Time (Span)

def Succeeds (r : Response) : Prop := isSuccess r.status = true

/-- The answer of a plan that comes to its end: of success, or that the resource does not serve the
method. -/
def Concluded (r : Response) : Prop := Succeeds r ∨ r.status = 405

/-- Whose credentials a resource asks for, be it in a header or in the body. -/
def Resource.asks : Resource → Access
  | .login => .member
  | r => r.access

/-- The reason is one for which an admitted request may end where these credentials are asked for. -/
def Halt.Fits (gate : Access) : Halt → Prop
  | .failed .unauthorized => gate = .member
  | .failed .operatorUnauthorized => gate = .operator
  | .failed (.rateLimited _) => False
  | _ => True

theorem Halt.Fits.admitted {gate : Access} {why : Halt} (fits : why.Fits gate) :
    why.unadmitted = false := by
  cases why with
  | invalidPath parameter => rfl
  | failed failure => cases failure <;> first | rfl | cases fits

theorem Halt.fits_ofStore (gate : Access) (e : Store.Error) :
    (Halt.failed (.ofStore e)).Fits gate := by
  cases e <;> trivial

/-- The step asks the store for what a gate needs, or counts. -/
def Step.Asks : Step → Prop
  | .call (.user _) | .call (.post _) | .call (.levelOf _) | .count _ => True
  | _ => False

/-- The step is one that gates take. -/
def Step.Gates : Step → Prop
  | .lookUp _ | .keep _ => True
  | step => step.Asks

namespace Resource

/-- The operations of the store that a resource makes for a method, behind its gates. -/
def Makes (m : Method) : Resource → Store.Call → Prop
  | .registration, .createAndInvite .. => True
  | .activation _, .activate _ => True
  | .login, .credentials _ => m = .post
  | .posts, .createPost .. => True
  | .comments, .createComment .. => True
  | .feed, .feed .. => True
  | .post _, .commentsOn _ => True
  | .post _, .updatePost _ => m = .patch
  | .post _, .deleteCommentsOn _ | .post _, .deletePost _ => m = .delete
  | .following _, .follow .. => True
  | .unfollowing _, .unfollow .. => True
  | .account _, .deleteUser _ => True
  | _, _ => False

/-- The steps that a resource takes for a method, behind its gates. -/
def Acts (m : Method) : Resource → Step → Prop
  | r, .call c => r.Makes m c ∧ c.Published
  | .registration, .pause | .login, .pause => True
  | .activation _, .evict _ | .account _, .evict _ => True
  | .post _, .count _ => True
  | .limiter, .limiterStats => True
  | .identities, .flush | .identities, .cacheStats => True
  | _, _ => False

/-- All steps that a resource takes for a method. -/
def Permits (m : Method) (r : Resource) (step : Step) : Prop := step.Gates ∨ r.Acts m step

end Resource

namespace Plan

variable {α β : Type} {kind wider : Step → Prop} {gate : Access} {good better : α → Prop}
  {fine : β → Prop}

/-- Whatever it finds, the plan takes steps of a kind only, ends early only for reasons that fit the
gate, and comes to a good value if it comes to any. -/
inductive Conforms (kind : Step → Prop) (gate : Access) {α : Type} :
    Plan α → (α → Prop) → Prop where
  | done {value : α} {good : α → Prop} (comes : good value) : Conforms kind gate (.done value) good
  | halt {why : Halt} {good : α → Prop} (fits : why.Fits gate) :
      Conforms kind gate (.halt why) good
  | step {first : Step} {next : first.Answer → Plan α} {good : α → Prop}
      (allowed : kind first) (rest : ∀ answer, Conforms kind gate (next answer) good) :
      Conforms kind gate (.step first next) good

namespace Conforms

theorem mono {p : Plan α} (conforms : p.Conforms kind gate better)
    (among : ∀ step, kind step → wider step) (enough : ∀ value, better value → good value) :
    p.Conforms wider gate good := by
  induction conforms with
  | done comes => exact .done (enough _ comes)
  | halt fits => exact .halt fits
  | step allowed _ ih => exact .step (among _ allowed) fun answer => ih answer enough

/-- What follows may rely on the value that the first plan has come to. -/
theorem bind {p : Plan α} {f : α → Plan β} (first : p.Conforms kind gate good)
    (rest : ∀ value, good value → (f value).Conforms kind gate fine) :
    (p >>= f).Conforms kind gate fine := by
  induction first with
  | done comes => exact rest _ comes
  | halt fits => exact .halt fits
  | step allowed _ ih => exact .step allowed fun answer => ih answer rest

theorem ask {only : Step} (allowed : kind only) :
    (Plan.ask only).Conforms kind gate fun _ => True := .step allowed fun _ => .done trivial

theorem failed (e : Store.Error) : (Plan.fail (.ofStore e) : Plan α).Conforms kind gate good :=
  .halt (Halt.fits_ofStore gate e)

theorem call {c : Store.Call} (allowed : kind (.call c)) :
    (Plan.call c).Conforms kind gate fun _ => True := by
  apply Conforms.step allowed
  intro answer
  cases answer with
  | ok value => exact .done trivial
  | error e => exact failed e

theorem accept (outcome : Except Complaint α) :
    (Plan.accept outcome).Conforms kind gate fun value => outcome = .ok value := by
  cases outcome with
  | ok value => exact .done rfl
  | error complaint => exact .halt trivial

theorem takes {quiet : Step → Bool} {p : Plan α} (conforms : p.Conforms kind gate good)
    (among : ∀ step, kind step → quiet step = true) : p.Takes quiet good := by
  induction conforms with
  | done comes => exact .done comes
  | halt fits => exact .halt fits.admitted
  | step allowed _ ih => exact .step (among _ allowed) ih

/-- What every step of the kind keeps, the plan keeps; and it ends as it should. -/
theorem run {env : Env} {cutoff : Option Span} {P : State → Prop} {p : Plan α}
    (conforms : p.Conforms kind gate good)
    (step : ∀ first s, kind first → P s → P (first.perform env cutoff s).2) {s : State}
    (start : P s) :
    P (p.run env cutoff s).2 ∧
      match (p.run env cutoff s).1 with
      | .done value => good value
      | .halted why => why.Fits gate
      | .cutOff => True := by
  induction conforms generalizing s with
  | done comes => exact ⟨start, comes⟩
  | halt fits => exact ⟨start, fits⟩
  | @step first next _ allowed _ ih =>
    have once := step first s allowed start
    rw [Plan.run]
    cases performed : first.perform env cutoff s with
    | mk answer later =>
      rw [performed] at once
      cases answer with
      | some answer => exact ih answer once
      | none => exact ⟨once, trivial⟩

section

variable {env : Env} {cutoff : Option Span} {s after : State} {p : Plan α}

/-- A value that a plan comes to is a good one. -/
theorem of_done {value : α} (conforms : p.Conforms kind gate good)
    (ended : p.run env cutoff s = (.done value, after)) : good value := by
  have fine := (@run _ _ _ _ env cutoff (fun _ => True) p conforms (fun _ _ _ _ => trivial) s
    trivial).2
  rwa [ended] at fine

theorem of_halted {why : Halt} (conforms : p.Conforms kind gate good)
    (ended : p.run env cutoff s = (.halted why, after)) : why.Fits gate := by
  have fine := (@run _ _ _ _ env cutoff (fun _ => True) p conforms (fun _ _ _ _ => trivial) s
    trivial).2
  rwa [ended] at fine

end

end Conforms

end Plan

theorem Step.gates_of_asks {step : Step} (asks : step.Asks) : step.Gates := by
  cases step <;> first | exact asks | trivial

theorem Plan.Conforms.gates {α : Type} {gate : Access} {good : α → Prop} {p : Plan α}
    (conforms : p.Conforms Step.Asks gate good) : p.Conforms Step.Gates gate good :=
  conforms.mono (fun _ => Step.gates_of_asks) fun _ fine => fine

section

variable {env : Env} {q : Request} (gate : Access) {kind : Step → Prop}

theorem resolve_conforms (id : Int) :
    (resolve id).Conforms Step.Gates gate fun _ => True := by
  refine .bind (.ask trivial) fun known _ => ?_
  cases known with
  | some user => exact .done trivial
  | none =>
    refine .bind (.ask trivial) fun found _ => ?_
    cases found with
    | ok user => exact .bind (.ask trivial) fun _ _ => .done trivial
    | error e => exact .done trivial

theorem authenticate_conforms (headers : Http.Headers) :
    (authenticate env headers).Conforms Step.Gates gate fun _ => True := by
  unfold authenticate
  split
  · exact .bind (resolve_conforms gate _) fun _ _ => .done trivial
  · exact .done trivial

variable {gate} in
theorem refuse_conforms {α : Type} {good : α → Prop} (refusal : Credential.Refusal)
    {failure : Failure} (fits : (Halt.failed failure).Fits gate) :
    (refuse refusal failure : Plan α).Conforms Step.Asks gate good :=
  .step trivial fun _ => .halt fits

theorem member_conforms : (member env q).Conforms Step.Gates .member fun _ => True := by
  refine .bind (authenticate_conforms .member q.headers) fun caller _ => ?_
  cases caller with
  | ok user => exact .done trivial
  | error refusal =>
    have refused : (refuse refusal .unauthorized : Plan User).Conforms Step.Asks .member
        fun _ => True := refuse_conforms refusal rfl
    exact refused.gates

theorem operator_conforms : (operator env q).Conforms Step.Asks .operator fun _ => True := by
  unfold operator
  split
  · exact .done trivial
  · exact refuse_conforms _ rfl

theorem pathText_conforms (parameter segment : String) :
    (pathText parameter segment).Conforms kind gate fun _ => True := by
  unfold pathText
  split
  · exact .done trivial
  · exact .halt trivial

theorem pathId_conforms (segment : String) :
    (pathId segment).Conforms kind gate fun _ => True :=
  .bind (pathText_conforms gate _ _) fun _ _ => (Plan.Conforms.accept _).mono
    (fun _ allowed => allowed) fun _ _ => trivial

theorem loadPost_conforms (segment : String) :
    (loadPost segment).Conforms Step.Asks gate fun _ => True :=
  .bind (pathId_conforms gate segment) fun _ _ => .call trivial

theorem loadUser_conforms (segment : String) :
    (loadUser segment).Conforms Step.Asks gate fun _ => True :=
  .bind (pathId_conforms gate segment) fun _ _ => .call trivial

theorem mayUse_conforms (user : User) (owner : Int) (required : String) :
    (mayUse user owner required).Conforms Step.Asks gate fun _ => True := by
  unfold mayUse
  split
  · exact .done trivial
  · refine .bind (.ask trivial) fun least _ => ?_
    cases least with
    | error e => exact .done trivial
    | ok least =>
      refine .bind (.ask trivial) fun held _ => ?_
      cases held with
      | error e => exact .done trivial
      | ok held => exact .done trivial

theorem authorize_conforms (m : Method) (user : User) (post : Post) :
    (authorize env m user post).Conforms Step.Asks gate fun _ => True := by
  refine .bind (mayUse_conforms gate _ _ _) fun verdict _ => ?_
  match verdict with
  | .ok true => exact .done trivial
  | .ok false => exact .bind (.ask trivial) fun _ _ => .halt trivial
  | .error e => exact .failed e

theorem enter_conforms (r : Resource) :
    (enter env q r).Conforms Step.Gates r.asks fun _ => True := by
  have both (segment : String) :
      (memberAndUser env q segment).Conforms Step.Gates .member fun _ => True :=
    .bind member_conforms fun _ _ => .bind (loadUser_conforms _ segment).gates fun _ _ =>
      .done trivial
  cases r with
  | health => exact .done trivial
  | registration => exact .done trivial
  | activation token => exact .done trivial
  | login => exact .done trivial
  | posts => exact member_conforms
  | comments => exact member_conforms
  | feed => exact member_conforms
  | post segment =>
    exact .bind member_conforms fun _ _ => .bind (loadPost_conforms _ segment).gates fun _ _ =>
      .bind (authorize_conforms _ _ _ _).gates fun _ _ => .done trivial
  | person segment => exact both segment
  | following segment => exact both segment
  | unfollowing segment => exact both segment
  | status => exact operator_conforms.gates
  | limiter => exact operator_conforms.gates
  | identities => exact operator_conforms.gates
  | account segment => exact operator_conforms.gates

theorem hashed_conforms {α : Type} (pauses : kind .pause)
    (outcome : Except Credential.HashFault α) :
    (hashed outcome).Conforms kind gate fun _ => True := by
  refine .bind (.ask pauses) fun _ _ => ?_
  cases outcome with
  | ok value => exact .done trivial
  | error fault => exact .halt trivial

theorem invitationExpiry_conforms :
    (invitationExpiry env).Conforms kind gate fun _ => True := by
  unfold invitationExpiry
  dsimp only
  split
  · exact .done trivial
  · exact .halt trivial

variable (m : Method)

theorem register_conforms :
    (register env q).Conforms (Resource.registration.Acts m) gate Succeeds := by
  refine .bind (.accept _) fun r read => ?_
  refine .bind (hashed_conforms gate trivial _) fun hash _ => ?_
  refine .bind (invitationExpiry_conforms gate) fun expires _ => ?_
  exact .bind (.call ⟨trivial, Registration.registrable read⟩) fun _ _ => .done rfl

theorem activate_conforms (segment : String) :
    (activate segment).Conforms ((Resource.activation segment).Acts m) gate Succeeds :=
  .bind (pathText_conforms gate _ _) fun _ _ => .bind (.accept _) fun _ _ =>
    .bind (.call ⟨trivial, trivial⟩) fun _ _ => .bind (.ask trivial) fun _ _ => .done rfl

/-- Of all that is wrong with a login only its credentials are told. -/
theorem logInWith_conforms (l : Login) (found : Except Store.Error Store.Account) :
    (logInWith env l found).Conforms (Resource.login.Acts .post) .member fun _ => True := by
  cases found with
  | error e => cases e <;> first | exact .halt rfl | exact .halt trivial
  | ok account =>
    refine .bind (hashed_conforms .member trivial _) fun right _ => ?_
    split
    · exact .halt rfl
    · split
      · exact .halt rfl
      · exact .done trivial

theorem logIn_conforms :
    (logIn env q).Conforms (Resource.login.Acts .post) .member Succeeds := by
  unfold logIn
  split
  · exact .halt rfl
  · rename_i l _
    rw [logInAs_eq, bind_assoc]
    exact .bind (.ask ⟨rfl, trivial⟩) fun found _ =>
      .bind (logInWith_conforms l found) fun _ _ => .done rfl

/-- A change that the store refuses is counted, and the request ends. -/
theorem editPost_conforms (segment : String) (post : Post) :
    (editPost env q post).Conforms ((Resource.post segment).Acts .patch) gate Succeeds := by
  refine .bind (.accept _) fun revision read => ?_
  rw [applyUpdate, bind_assoc]
  refine .bind (.ask ⟨rfl, Revision.measures read⟩) fun outcome _ => ?_
  cases outcome with
  | ok post => exact .done rfl
  | error e =>
    cases e with
    | notFound => exact .step trivial fun _ => .halt trivial
    | _ => exact .halt trivial

theorem deletePost_conforms (segment : String) (post : Post) :
    (deletePost post).Conforms ((Resource.post segment).Acts .delete) gate Succeeds :=
  .bind (.call ⟨rfl, trivial⟩) fun _ _ => .bind (.call ⟨rfl, trivial⟩) fun _ _ => .done rfl

theorem showPost_conforms (segment : String) (post : Post) :
    (showPost post).Conforms ((Resource.post segment).Acts m) gate Succeeds :=
  .bind (.call ⟨trivial, trivial⟩) fun _ _ => .done rfl

theorem createPost_conforms (caller : User) :
    (createPost env q caller).Conforms (Resource.posts.Acts m) gate Succeeds :=
  .bind (.accept _) fun _ read => .bind (.call ⟨trivial, Draft.measures read⟩) fun _ _ => .done rfl

theorem createComment_conforms (caller : User) :
    (createComment env q caller).Conforms (Resource.comments.Acts m) gate Succeeds :=
  .bind (.accept _) fun _ read => .bind (.call ⟨trivial, Reply.measures read⟩) fun _ _ => .done rfl

theorem deleteAccount_conforms (segment : String) :
    (deleteAccount segment).Conforms ((Resource.account segment).Acts m) gate Succeeds :=
  .bind (pathId_conforms gate segment) fun _ _ => .bind (.call ⟨trivial, trivial⟩) fun _ _ =>
    .bind (.ask trivial) fun _ _ => .done rfl

theorem handle_conforms (r : Resource) (context : r.Context) (served : r.serves q.method = true) :
    (handle env q r context).Conforms (r.Acts q.method) r.asks Succeeds := by
  cases r with
  | health => exact .done rfl
  | registration => exact register_conforms _ _
  | activation segment => exact activate_conforms _ _ segment
  | login =>
    have posts : q.method = .post := List.mem_singleton.1 (List.contains_iff_mem.1 served)
    rw [posts]
    exact logIn_conforms
  | posts => exact createPost_conforms _ _ context
  | comments => exact createComment_conforms _ _ context
  | feed =>
    exact .bind (.accept _) fun _ _ => .bind (.call ⟨trivial, trivial⟩) fun _ _ => .done rfl
  | post segment =>
    rw [handle_post]
    split
    · rename_i patches
      rw [patches]
      exact editPost_conforms _ segment _
    · rename_i deletes
      rw [deletes]
      exact deletePost_conforms _ segment _
    · exact showPost_conforms _ _ segment _
  | person segment => exact .done rfl
  | following segment =>
    exact .bind (.accept _) fun _ _ => .bind (.call ⟨trivial, trivial⟩) fun _ _ => .done rfl
  | unfollowing segment => exact .bind (.call ⟨trivial, trivial⟩) fun _ _ => .done rfl
  | status => exact .done rfl
  | limiter => exact .bind (.ask trivial) fun _ _ => .done rfl
  | identities =>
    rw [handle_identities]
    split
    · exact .bind (.ask trivial) fun _ _ => .done rfl
    · exact .bind (.ask trivial) fun _ _ => .done rfl
  | account segment => exact deleteAccount_conforms _ _ segment

/-- A resource keeps to the steps of its own and of its gates. -/
theorem serve_conforms (r : Resource) :
    (serve env q r).Conforms (r.Permits q.method) r.asks Concluded := by
  have entered : (enter env q r).Conforms (r.Permits q.method) r.asks fun _ => True :=
    (enter_conforms r).mono (fun _ => .inl) fun _ _ => trivial
  refine .bind entered fun context _ => ?_
  split
  · rename_i served
    exact (handle_conforms r context served).mono (fun _ => .inr) fun _ => .inl
  · exact .done (.inr rfl)

end

end Agora.Service
