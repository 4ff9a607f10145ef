import Agora.Proofs.Enrolments
import Agora.Proofs.References

set_option autoImplicit false

namespace Agora

namespace Store

def SameRegistry (s after : Store) : Prop :=
  after.tables.accounts = s.tables.accounts ∧ after.tables.invitations = s.tables.invitations

theorem perform_registry {s : Store} {now : Time.Stamp} {c : Call}
    (other : c.concernsAccounts = false) : SameRegistry s (s.perform now c).2 := by
  rcases perform_cases s now c with ⟨a, t, _, success, done⟩ | ⟨e, failed⟩
  · rw [done]
    exact Tables.apply_registry other success
  · rw [failed]
    exact ⟨rfl, rfl⟩

end Store

namespace Service

open Credential (Invitation)
open Http (Method Request Response isSuccess)
open Json (Value)
open Store (SameRegistry User)
open Time (Span)

def Resource.registers : Resource → Bool
  | .registration | .activation _ | .account _ => true
  | _ => false

/-- The operation that a registration makes with the hash of its password. -/
def registering (env : Env) (r : Registration) (hash : String) : Store.Call :=
  .createAndInvite ⟨r.username, r.email, hash, newcomerRole⟩
    (Invitation.ofDraw env.draws.invitation).digest (env.now.plus env.config.auth.invitationTtl)

/-- The operation on accounts that a request comes to if nothing stops it before. -/
def accountCall? (env : Env) (q : Request) : Option Store.Call :=
  match resource? env.config q, q.method with
  | some .registration, .post => do
    let r ← (Registration.ofRequest env.config.listener.maxBodySize q).toOption
    let hash ← (env.hasher.hash r.password env.config.auth.passwordCost env.draws.salt).toOption
    return registering env r hash
  | some (.activation segment), .put =>
    (Http.pathText? segment).map fun token => .activate (Credential.hashToken token)
  | some (.account segment), .delete =>
    ((Http.pathText? segment).bind fun raw => (parseId raw).toOption).map .deleteUser
  | _, _ => none

section

variable {env : Env} {cutoff : Option Span} {q : Request} {s after : State}

theorem Resource.bystands {r : Resource} {m : Method} {c : Store.Call}
    (other : r.registers = false) (makes : r.Makes m c) : c.concernsAccounts = false := by
  cases r with
  | registration => cases other
  | activation segment => cases other
  | account segment => cases other
  | _ => cases c <;> first | rfl | cases makes

/-- A request for none of the three resources leaves accounts and invitations alone. -/
theorem respond_bystands
    (other : ∀ r, resource? env.config q = some r → r.registers = false) :
    SameRegistry s.store (respond env q s).2.store := by
  apply respond_of_makes
  · intro r found c makes _ store same
    have here : SameRegistry store (store.perform env.now c).2 :=
      Store.perform_registry (Resource.bystands (other r found) makes)
    exact ⟨here.1.trans same.1, here.2.trans same.2⟩
  · exact ⟨rfl, rfl⟩

/-- A request that succeeds has been admitted, has passed the gates of its resource, and has been
served behind them. -/
theorem passed_of_success {r : Resource} (found : resource? env.config q = some r)
    (success : isSuccess (respond env q s).1.status = true) :
    ∃ admitted context entered response after,
      (admission env q).run env (some (lastMoment env s)) s = (.done (), admitted) ∧
      (enter env q r).run env (some (lastMoment env s)) admitted = (.done context, entered) ∧
      r.serves q.method = true ∧
      (handle env q r context).run env (some (lastMoment env s)) entered = (.done response, after) ∧
      (respond env q s).1 = finish env q response ∧ (respond env q s).2.store = after.store := by
  obtain ⟨response, after, ran, answered, store⟩ := done_of_success success
  rw [planRun, plan_of_resource found] at ran
  obtain ⟨_, admitted, admits, served⟩ := Plan.run_then_done ran
  obtain ⟨context, entered, enters, handled⟩ := Plan.run_then_done served
  split at handled
  · rename_i serves
    exact ⟨admitted, context, entered, response, after, admits, enters, serves, handled, answered,
      store⟩
  · cases handled
    rw [answered, finish_status] at success
    cases success

/-- Where a request succeeds, its resource serves the method, behind the gates. -/
theorem handled_of_success (success : isSuccess (respond env q s).1.status = true) :
    ∃ r context entered response after, resource? env.config q = some r ∧
      r.serves q.method = true ∧ entered.store = s.store ∧
      (handle env q r context).run env (some (lastMoment env s)) entered = (.done response, after) ∧
      (respond env q s).1 = finish env q response ∧ (respond env q s).2.store = after.store := by
  cases found : resource? env.config q with
  | none =>
    obtain ⟨response, after, ran, answered, store⟩ := done_of_success success
    rw [planRun, plan_of_nothing found] at ran
    obtain ⟨_, admitted, _, ended⟩ := Plan.run_then_done ran
    cases ended
    rw [answered, finish_status] at success
    cases success
  | some r =>
    obtain ⟨admitted, context, entered, response, after, admits, enters, serves, handled, answered,
      store⟩ := passed_of_success found success
    have kept : entered.store = s.store :=
      ((enter_keeps r).of_run enters).trans (admission_keeps.of_run admits)
    exact ⟨r, context, entered, response, after, rfl, serves, kept, handled, answered, store⟩

theorem hashed_done {α : Type} {outcome : Except Credential.HashFault α} {value : α}
    (ended : (hashed outcome).run env cutoff s = (.done value, after)) :
    outcome = .ok value ∧ after.store = s.store := by
  have kept : after.store = s.store := (hashed_takes outcome).looks.keeps.of_run ended
  cases outcome with
  | ok found =>
    cases ended
    exact ⟨rfl, kept⟩
  | error fault => cases ended

theorem invitationExpiry_done {expires : Time.Stamp}
    (ended : (invitationExpiry env).run env cutoff s = (.done expires, after)) :
    expires = env.now.plus env.config.auth.invitationTtl ∧ after = s := by
  unfold invitationExpiry at ended
  dsimp only at ended
  split at ended
  · cases ended
    exact ⟨rfl, rfl⟩
  · cases ended

theorem accept_done {α : Type} {outcome : Except Complaint α} {value : α}
    (ended : (Plan.accept outcome).run env cutoff s = (.done value, after)) :
    outcome = .ok value ∧ after = s := by
  cases outcome with
  | ok found =>
    cases ended
    exact ⟨rfl, rfl⟩
  | error complaint => cases ended

theorem pathText_done {parameter segment text : String}
    (ended : (pathText parameter segment).run env cutoff s = (.done text, after)) :
    Http.pathText? segment = some text ∧ after = s := by
  unfold pathText at ended
  split at ended
  · rename_i found
    cases ended
    exact ⟨found, rfl⟩
  · cases ended

/-- What a registration that comes to its end has done. -/
theorem register_done {response : Response}
    (ended : (register env q).run env cutoff s = (.done response, after)) :
    ∃ r hash user, Registration.ofRequest env.config.listener.maxBodySize q = .ok r ∧
      env.hasher.hash r.password env.config.auth.passwordCost env.draws.salt = .ok hash ∧
      s.store.perform env.now (registering env r hash) = (.ok user, after.store) ∧
      response = .data 201 (.object (user.members ++
        [("token", .string (Invitation.ofDraw env.draws.invitation).token)])) := by
  obtain ⟨r, read, accepted, rest⟩ := Plan.run_then_done ended
  obtain ⟨hash, hashing, paused, rest⟩ := Plan.run_then_done rest
  obtain ⟨expires, dated, reckoned, rest⟩ := Plan.run_then_done rest
  obtain ⟨user, called, made, rest⟩ := Plan.run_then_done rest
  cases rest
  obtain ⟨given, rfl⟩ := accept_done accepted
  obtain ⟨digested, kept⟩ := hashed_done paused
  obtain ⟨rfl, rfl⟩ := invitationExpiry_done reckoned
  obtain ⟨_, performed, _⟩ := Plan.run_call_done made
  rw [kept] at performed
  exact ⟨r, hash, user, given, digested, performed, rfl⟩

/-- What the use of an invitation that comes to its end has done. -/
theorem activate_done {segment : String} {response : Response}
    (ended : (activate segment).run env cutoff s = (.done response, after)) :
    ∃ token id, Http.pathText? segment = some token ∧
      s.store.perform env.now (.activate (Credential.hashToken token)) = (.ok id, after.store) ∧
      response = .data 200 (.string "user activated") := by
  obtain ⟨token, read, pieces, rest⟩ := Plan.run_then_done ended
  obtain ⟨_, demanded, accepted, rest⟩ := Plan.run_then_done rest
  obtain ⟨id, called, made, rest⟩ := Plan.run_then_done rest
  cases rest
  obtain ⟨given, rfl⟩ := pathText_done pieces
  obtain ⟨_, rfl⟩ := accept_done accepted
  obtain ⟨_, performed, _⟩ := Plan.run_call_done made
  exact ⟨token, id, given, performed, rfl⟩

/-- A registration that succeeds: what it has read, what it has made of it, and its answer. -/
theorem registration_of_success (found : resource? env.config q = some .registration)
    (success : isSuccess (respond env q s).1.status = true) :
    ∃ r hash user, q.method = .post ∧
      Registration.ofRequest env.config.listener.maxBodySize q = .ok r ∧
      env.hasher.hash r.password env.config.auth.passwordCost env.draws.salt = .ok hash ∧
      accountCall? env q = some (registering env r hash) ∧
      s.store.perform env.now (registering env r hash) = (.ok user, (respond env q s).2.store) ∧
      (respond env q s).1 = finish env q (.data 201 (.object (user.members ++
        [("token", .string (Invitation.ofDraw env.draws.invitation).token)]))) := by
  obtain ⟨_, context, entered, response, after, found', serves, kept, handled, answered, store⟩ :=
    handled_of_success success
  cases found.symm.trans found'
  have posts : q.method = .post := List.mem_singleton.1 (List.contains_iff_mem.1 serves)
  obtain ⟨r, hash, user, read, hashed, performed, rfl⟩ := register_done handled
  rw [kept, ← store] at performed
  refine ⟨r, hash, user, posts, read, hashed, ?_, performed, answered⟩
  simp only [accountCall?, found, posts, read, Except.toOption, Option.bind_eq_bind,
    Option.bind_some, hashed, Option.pure_def]

theorem activation_of_success {segment : String}
    (found : resource? env.config q = some (.activation segment))
    (success : isSuccess (respond env q s).1.status = true) :
    ∃ token id, q.method = .put ∧ Http.pathText? segment = some token ∧
      accountCall? env q = some (.activate (Credential.hashToken token)) ∧
      s.store.perform env.now (.activate (Credential.hashToken token)) =
        (.ok id, (respond env q s).2.store) ∧
      (respond env q s).1 = finish env q (.data 200 (.string "user activated")) := by
  obtain ⟨_, context, entered, response, after, found', serves, kept, handled, answered, store⟩ :=
    handled_of_success success
  cases found.symm.trans found'
  have puts : q.method = .put := List.mem_singleton.1 (List.contains_iff_mem.1 serves)
  obtain ⟨token, id, text, performed, rfl⟩ := activate_done handled
  rw [kept, ← store] at performed
  refine ⟨token, id, puts, text, ?_, performed, answered⟩
  simp only [accountCall?, found, puts, text, Option.map_some]

theorem account_of_success {segment : String}
    (found : resource? env.config q = some (.account segment))
    (success : isSuccess (respond env q s).1.status = true) :
    ∃ id, q.method = .delete ∧ names segment id ∧ accountCall? env q = some (.deleteUser id) ∧
      s.store.perform env.now (.deleteUser id) = (.ok (), (respond env q s).2.store) ∧
      (respond env q s).1 = finish env q (.ofStatus 204) := by
  obtain ⟨_, context, entered, response, after, found', serves, kept, handled, answered, store⟩ :=
    handled_of_success success
  cases found.symm.trans found'
  have deletes : q.method = .delete := List.mem_singleton.1 (List.contains_iff_mem.1 serves)
  obtain ⟨id, ⟨raw, text, parsed⟩, performed, rfl⟩ := deleteAccount_done handled
  rw [kept, ← store] at performed
  refine ⟨id, deletes, ⟨raw, text, parsed⟩, ?_, performed, answered⟩
  simp only [accountCall?, found, deletes, text, parsed, Option.bind_some, Except.toOption,
    Option.map_some]

/-- A request for one of the three resources that succeeds has made its operation. -/
theorem call_of_success {r : Resource} (found : resource? env.config q = some r)
    (concerns : r.registers = true) (success : isSuccess (respond env q s).1.status = true) :
    ∃ c a, accountCall? env q = some c ∧
      s.store.perform env.now c = (.ok a, (respond env q s).2.store) := by
  cases r with
  | registration =>
    obtain ⟨r, hash, user, _, _, _, comes, performed, _⟩ := registration_of_success found success
    exact ⟨_, user, comes, performed⟩
  | activation segment =>
    obtain ⟨token, id, _, _, comes, performed, _⟩ := activation_of_success found success
    exact ⟨_, id, comes, performed⟩
  | account segment =>
    obtain ⟨id, _, _, comes, performed, _⟩ := account_of_success found success
    exact ⟨.deleteUser id, (), comes, performed⟩
  | _ => cases concerns

theorem accountCall?_of_bystander
    (other : ∀ r, resource? env.config q = some r → r.registers = false) :
    accountCall? env q = none := by
  unfold accountCall?
  split
  · rename_i found _
    cases other _ found
  · rename_i found _
    cases other _ found
  · rename_i found _
    cases other _ found
  · rfl

/-- A request that fails has changed nothing, unless it is for a post. -/
theorem store_of_failed (other : ∀ segment, resource? env.config q ≠ some (.post segment))
    (failed : isSuccess (respond env q s).1.status = false) :
    (respond env q s).2.store = s.store := by
  by_cases ready : started env q
  · obtain ⟨status, store⟩ := respond_of_started (s := s) ready
    rw [status] at failed
    rw [store]
    have spares : ¬deletesPost env.config q := fun deletes => deletes.2.elim other
    rcases plan_commits spares s with same | ⟨response, ended, fine⟩
    · exact same
    · have ends : (planRun env q s).1 = .done response := ended
      rw [ends, Ending.response, fine] at failed
      cases failed
  · rw [(respond_of_refused ready).2]

/-- A request that succeeds has made its operation on accounts, if it is one that has such an
operation; in all other cases accounts and invitations are as they were. -/
theorem respond_registry (env : Env) (q : Request) (s : State) :
    (∃ c a, accountCall? env q = some c ∧ isSuccess (respond env q s).1.status = true ∧
      s.store.perform env.now c = (.ok a, (respond env q s).2.store)) ∨
    ((isSuccess (respond env q s).1.status = true → accountCall? env q = none) ∧
      SameRegistry s.store (respond env q s).2.store) := by
  by_cases other : ∀ r, resource? env.config q = some r → r.registers = false
  · exact .inr ⟨fun _ => accountCall?_of_bystander other, respond_bystands other⟩
  · simp only [not_forall, Bool.not_eq_false] at other
    obtain ⟨r, found, concerns⟩ := other
    cases success : isSuccess (respond env q s).1.status with
    | true =>
      obtain ⟨c, a, comes, performed⟩ := call_of_success found concerns success
      exact .inl ⟨c, a, comes, rfl, performed⟩
    | false =>
      refine .inr ⟨nofun, ?_⟩
      have same : (respond env q s).2.store = s.store := by
        refine store_of_failed (fun segment other => ?_) success
        cases found.symm.trans other
        cases concerns
      rw [same]
      exact ⟨rfl, rfl⟩

end

end Service

end Agora
