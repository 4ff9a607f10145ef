import Agora.Proofs.RequestSteps

/-!
Requests that fail change nothing. Every handler makes at most one write, and does nothing after it
that can fail; deleting a post, which takes two, is the one exception. So whatever ends a request
early, be it a gate, a failure or the time it may take, the store is as it was.
-/

set_option autoImplicit false

namespace Agora.Service

open Http (Method Request Response isSuccess)
open Plan (Keeps Commits Settles)

def deletesPost (c : Config) (q : Request) : Prop :=
  q.method = .delete ∧ ∃ segment, resource? c q = some (.post segment)

section

variable {env : Env} {cutoff : Option Time.Span} {q : Request}

theorem logIn_keeps : Keeps env cutoff (logIn env q) := logIn_takes.looks.keeps

theorem showPost_keeps (post : Store.Post) : Keeps env cutoff (showPost post) :=
  (showPost_takes post).looks.keeps

theorem showFeed_keeps (caller : Store.User) : Keeps env cutoff (showFeed q caller) :=
  (showFeed_takes caller).looks.keeps

theorem register_commits : Commits env cutoff Succeeds (register env q) :=
  .bind (.accept _) fun _ => .bind (hashed_takes _).looks.keeps fun _ =>
    .bind invitationExpiry_takes.looks.keeps fun _ => .call fun _ => .done rfl

theorem activate_commits (segment : String) : Commits env cutoff Succeeds (activate segment) :=
  .bind (pathText_keeps _ _) fun _ => .bind (.accept _) fun _ =>
    .call fun _ => .evict (.done rfl)

theorem createPost_commits (caller : Store.User) :
    Commits env cutoff Succeeds (createPost env q caller) :=
  .bind (.accept _) fun _ => .call fun _ => .done rfl

theorem createComment_commits (caller : Store.User) :
    Commits env cutoff Succeeds (createComment env q caller) :=
  .bind (.accept _) fun _ => .call fun _ => .done rfl

/-- A change that the store refuses is answered as a conflict, which is counted; that is all. -/
theorem editPost_commits (post : Store.Post) :
    Commits env cutoff Succeeds (editPost env q post) := by
  refine .bind (.accept _) fun revision => ?_
  rw [applyUpdate, bind_assoc]
  refine .ask (fun a => .done rfl) fun e => ?_
  cases e with
  | notFound => exact .step rfl fun _ => .halt _
  | _ => exact .halt _

theorem follow_commits (caller person : Store.User) :
    Commits env cutoff Succeeds (follow caller person) :=
  .bind (.accept _) fun _ => .call fun _ => .done rfl

theorem unfollow_commits (caller person : Store.User) :
    Commits env cutoff Succeeds (unfollow caller person) := .call fun _ => .done rfl

theorem deleteAccount_commits (segment : String) :
    Commits env cutoff Succeeds (deleteAccount segment) :=
  .bind (pathId_keeps segment) fun _ => .call fun _ => .evict (.done rfl)

/-- Every handler but the one that deletes a post leaves the store as it was unless it succeeds. -/
theorem handle_commits (r : Resource) (context : r.Context)
    (other : ∀ segment, r = .post segment → q.method ≠ .delete) :
    Commits env cutoff Succeeds (handle env q r context) := by
  cases r with
  | health => exact .of_keeps (.done _)
  | registration => exact register_commits
  | activation segment => exact activate_commits segment
  | login => exact .of_keeps logIn_keeps
  | posts => exact createPost_commits context
  | comments => exact createComment_commits context
  | feed => exact .of_keeps (showFeed_keeps context)
  | post segment =>
    have kept := other segment rfl
    rw [handle_post]
    split
    · exact editPost_commits _
    · rename_i deletes
      exact absurd deletes kept
    · exact .of_keeps (showPost_keeps _)
  | person segment => exact .of_keeps (.done _)
  | following segment => exact follow_commits context.1 context.2
  | unfollowing segment => exact unfollow_commits context.1 context.2
  | status => exact .of_keeps (.done _)
  | limiter => exact .of_keeps (.bind (.ask rfl) fun _ => .done _)
  | identities =>
    rw [handle_identities]
    split
    · exact .of_keeps (.bind (.ask rfl) fun _ => .done _)
    · exact .of_keeps (.bind (.ask rfl) fun _ => .done _)
  | account segment => exact deleteAccount_commits segment

/-- Whoever only asks to see something writes nothing. -/
theorem handle_keeps (r : Resource) (context : r.Context) (served : r.serves q.method = true)
    (looks : q.method = .get ∨ q.method = .head) :
    Keeps env cutoff (handle env q r context) := by
  cases r with
  | health => exact .done _
  | feed => exact showFeed_keeps context
  | post segment =>
    rcases looks with get | head
    · rw [handle_post, get]
      exact showPost_keeps _
    · rw [handle_post, head]
      exact showPost_keeps _
  | person segment => exact .done _
  | status => exact .done _
  | limiter => exact .bind (.ask rfl) fun _ => .done _
  | identities =>
    rcases looks with get | head
    · rw [handle_identities, get]
      exact .bind (.ask rfl) fun _ => .done _
    · rw [handle_identities, head]
      exact .bind (.ask rfl) fun _ => .done _
  | _ =>
    rcases looks with get | head
    · rw [get] at served
      exact absurd served Bool.false_ne_true
    · rw [head] at served
      exact absurd served Bool.false_ne_true

theorem serve_commits (r : Resource) (other : ∀ segment, r = .post segment → q.method ≠ .delete) :
    Commits env cutoff Succeeds (serve env q r) := by
  refine .bind (enter_keeps r) fun context => ?_
  split
  · exact handle_commits r context other
  · exact .of_keeps (.done _)

theorem serve_keeps (r : Resource) (looks : q.method = .get ∨ q.method = .head) :
    Keeps env cutoff (serve env q r) := by
  refine .bind (enter_keeps r) fun context => ?_
  split
  · rename_i served
    exact handle_keeps r context served looks
  · exact .done _

theorem plan_commits (other : ¬ deletesPost env.config q) :
    Commits env cutoff Succeeds (plan env q) := by
  cases found : resource? env.config q with
  | none =>
    rw [plan_of_nothing found]
    exact .bind admission_keeps fun _ => .of_keeps (.done _)
  | some r =>
    rw [plan_of_resource found]
    refine .bind admission_keeps fun _ => serve_commits r fun segment same deletes => ?_
    exact other ⟨deletes, segment, found.trans (congrArg some same)⟩

theorem plan_keeps (looks : q.method = .get ∨ q.method = .head) :
    Keeps env cutoff (plan env q) := by
  cases found : resource? env.config q with
  | none =>
    rw [plan_of_nothing found]
    exact .bind admission_keeps fun _ => .done _
  | some r =>
    rw [plan_of_resource found]
    exact .bind admission_keeps fun _ => serve_keeps r looks

end

/-- A request that does not delete a post and is not answered with success has changed nothing in
the store, whatever the store holds, whether it answers and how long it takes, and wherever the
request is stopped. One that only asks to see something changes nothing in any case. -/
theorem failed_request_keeps_store (env : Env) (q : Request) (s : State) :
    (¬ deletesPost env.config q → isSuccess (respond env q s).1.status = false →
      (respond env q s).2.store = s.store) ∧
    (q.method = .get ∨ q.method = .head → (respond env q s).2.store = s.store) := by
  by_cases ready : started env q
  · obtain ⟨status, store⟩ := respond_of_started (s := s) ready
    rw [status, store]
    refine ⟨fun other failed => ?_, fun looks => plan_keeps looks s⟩
    rcases plan_commits other s with same | ⟨response, ended, fine⟩
    · exact same
    · have ends : (planRun env q s).1 = .done response := ended
      rw [ends, Ending.response, fine] at failed
      cases failed
  · have same := (respond_of_refused (s := s) ready).2
    rw [same]
    exact ⟨fun _ _ => rfl, fun _ => rfl⟩

end Agora.Service
