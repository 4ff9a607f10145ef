import Agora.Proofs.RequestSteps
import Agora.Proofs.UserCache

/-!
How requests use the cache of identities. A user is kept right after the store has given it, and
whoever changes an account or takes it out drops its entry before anything else is done; no other
step of a request touches the cache, but for what operators do to it as a whole. So every request,
however it ends, leaves the cache coherent.
-/

set_option autoImplicit false

namespace Agora.Service

open Http (Request Response)
open Store (User)
open Time (Span)

/-- The step concerns neither the cache nor an account that there is already. -/
def Step.plain : Step → Bool
  | .call (.activate _) | .call (.deleteUser _) => false
  | .lookUp _ | .keep _ | .evict _ | .flush | .cacheStats => false
  | _ => true

theorem Step.plain_of_quiet {step : Step} (quiet : step.quiet = true) : step.plain = true := by
  cases step with
  | call c => cases c <;> first | rfl | cases quiet
  | _ => first | rfl | cases quiet

namespace Plan

/-- Drop an entry, if there is one to be dropped, before anything else. -/
def settle {α : Type} : Option Int → Plan α → Plan α
  | some id, rest => .step (.evict id) fun _ => rest
  | none, rest => rest

/-- What follows a call of the store: an error of the store is a failure. -/
def unlessFailed {α β : Type} (rest : β → Plan α) : Except Store.Error β → Plan α
  | .ok value => rest value
  | .error e => .fail (.ofStore e)

/-- The plan keeps and drops entries where it must. -/
inductive Tidy {α : Type} : Plan α → Prop where
  | done (value : α) : Tidy (.done value)
  | halt (why : Halt) : Tidy (.halt why)
  | plain {first : Step} {next : first.Answer → Plan α} (fine : first.plain = true)
      (rest : ∀ answer, Tidy (next answer)) : Tidy (.step first next)
  | resolve (id : Int) {next : Except Store.Error User → Plan α}
      (rest : ∀ found, Tidy (next found)) : Tidy (Service.resolve id >>= next)
  | settled (c : Store.Call) {rest : Except Store.Error c.Answer → Plan α}
      (tidy : ∀ answer, Tidy (rest answer)) :
      Tidy (.step (.call c) fun answer => settle (c.touched answer) (rest answer))

namespace Tidy

variable {α β : Type}

theorem settle_then (entry : Option Int) (p : Plan α) (f : α → Plan β) :
    settle entry p >>= f = settle entry (p >>= f) := by
  cases entry with
  | none => rfl
  | some id => rfl

theorem bind {p : Plan α} {f : α → Plan β} (first : Tidy p) (rest : ∀ value, Tidy (f value)) :
    Tidy (p >>= f) := by
  induction first with
  | done value => exact rest value
  | halt why => exact .halt why
  | plain fine _ ih => exact .plain fine ih
  | resolve id _ ih =>
    rw [LawfulMonad.bind_assoc]
    exact .resolve id ih
  | @settled c next _ ih =>
    have same : (Plan.step (.call c) fun answer => settle (c.touched answer) (next answer)) >>= f =
        .step (.call c) fun answer => settle (c.touched answer) (next answer >>= f) :=
      congrArg (Plan.step (.call c)) (funext fun answer => settle_then _ _ f)
    rw [same]
    exact .settled c ih

theorem ask {only : Step} (fine : only.plain = true) : Tidy (Plan.ask only) := .plain fine .done

theorem call {c : Store.Call} (fine : (Step.call c).plain = true) : Tidy (Plan.call c) := by
  refine .plain fine fun answer => ?_
  cases answer with
  | ok value => exact .done value
  | error e => exact .halt _

theorem accept (outcome : Except Complaint α) : Tidy (Plan.accept outcome) := by
  cases outcome with
  | ok value => exact .done value
  | error complaint => exact .halt _

/-- A change of an account after which its entry is dropped. -/
theorem call_evict {c : Store.Call} (account : c.Answer → Int)
    (touched : ∀ a, c.touched (.ok a) = some (account a)) {rest : c.Answer → Plan α}
    (tidy : ∀ a, Tidy (rest a)) :
    Tidy (Plan.call c >>= fun a => Plan.ask (.evict (account a)) >>= fun _ => rest a) := by
  have untouched (e : Store.Error) : c.touched (.error e) = none := by cases c <;> rfl
  have same : (Plan.call c >>= fun a => Plan.ask (.evict (account a)) >>= fun _ => rest a) =
      .step (.call c) fun answer => settle (c.touched answer) (unlessFailed rest answer) := by
    refine congrArg (Plan.step (.call c)) (funext fun answer => ?_)
    cases answer with
    | ok a =>
      rw [touched]
      rfl
    | error e =>
      rw [untouched]
      rfl
  rw [same]
  refine .settled c fun answer => ?_
  cases answer with
  | ok a => exact tidy a
  | error e => exact .halt _

end Tidy

/-- Whoever leaves the cache alone and writes nothing has nothing to keep or to drop. -/
theorem Takes.tidy {α : Type} {good : α → Prop} {p : Plan α} (takes : p.Takes Step.quiet good) :
    Tidy p := by
  induction takes with
  | done _ => exact .done _
  | halt _ => exact .halt _
  | step allowed _ ih => exact .plain (Step.plain_of_quiet allowed) ih

end Plan

section

open Plan (Tidy)

variable {env : Env} {q : Request}

theorem admission_tidy : Tidy (admission env q) := by
  unfold admission
  split
  · refine .bind (.ask rfl) fun verdict => ?_
    cases verdict with
    | allowed => exact .done ()
    | limited retryAfter => exact .bind (.ask rfl) fun _ => .halt _
  · exact .done ()

theorem authenticate_tidy (headers : Http.Headers) : Tidy (authenticate env headers) := by
  unfold authenticate
  split
  · exact .resolve _ fun _ => .done _
  · exact .done _

theorem member_tidy : Tidy (member env q) := by
  refine .bind (authenticate_tidy q.headers) fun caller => ?_
  cases caller with
  | ok user => exact .done user
  | error refusal => exact .bind (.ask rfl) fun _ => .halt _

theorem enter_tidy (r : Resource) : Tidy (enter env q r) := by
  have both (segment : String) : Tidy (memberAndUser env q segment) :=
    .bind member_tidy fun _ => .bind (loadUser_takes segment).tidy fun _ => .done _
  cases r with
  | health => exact .done ()
  | registration => exact .done ()
  | activation token => exact .done ()
  | login => exact .done ()
  | posts => exact member_tidy
  | comments => exact member_tidy
  | feed => exact member_tidy
  | post segment =>
    exact .bind member_tidy fun _ => .bind (loadPost_takes segment).tidy fun _ =>
      .bind (authorize_takes _ _ _).tidy fun _ => .done _
  | person segment => exact both segment
  | following segment => exact both segment
  | unfollowing segment => exact both segment
  | status => exact operator_takes.tidy
  | limiter => exact operator_takes.tidy
  | identities => exact operator_takes.tidy
  | account segment => exact operator_takes.tidy

theorem register_tidy : Tidy (register env q) :=
  .bind (.accept _) fun _ => .bind (hashed_takes _).tidy fun _ =>
    .bind invitationExpiry_takes.tidy fun _ => .bind (.call rfl) fun _ => .done _

theorem activate_tidy (segment : String) : Tidy (activate segment) :=
  .bind (pathText_takes _ _).tidy fun _ => .bind (.accept _) fun _ =>
    .call_evict (c := .activate _) (fun id => id) (fun _ => rfl) fun _ => .done _

theorem deleteAccount_tidy (segment : String) : Tidy (deleteAccount segment) :=
  .bind (pathId_takes segment).tidy fun id =>
    .call_evict (c := .deleteUser id) (fun _ => id) (fun _ => rfl) fun _ => .done _

theorem editPost_tidy (post : Store.Post) : Tidy (editPost env q post) := by
  refine .bind (.accept _) fun revision =>
    .bind (.bind (.ask rfl) fun outcome => ?_) fun edited => ?_
  · cases outcome with
    | ok post => exact .done _
    | error e =>
      cases e with
      | notFound => exact .bind (.ask rfl) fun _ => .done _
      | _ => exact .done _
  · cases edited with
    | ok post => exact .done _
    | error e => exact .halt _

/-- Every handler but those for the cache itself is tidy. -/
theorem handle_tidy (r : Resource) (other : r ≠ .identities) (context : r.Context) :
    Tidy (handle env q r context) := by
  cases r with
  | health => exact .done _
  | registration => exact register_tidy
  | activation segment => exact activate_tidy segment
  | login => exact logIn_takes.tidy
  | posts => exact .bind (.accept _) fun _ => .bind (.call rfl) fun _ => .done _
  | comments => exact .bind (.accept _) fun _ => .bind (.call rfl) fun _ => .done _
  | feed => exact .bind (.accept _) fun _ => .bind (.call rfl) fun _ => .done _
  | post segment =>
    rw [handle_post]
    split
    · exact editPost_tidy _
    · exact .bind (.call rfl) fun _ => .bind (.call rfl) fun _ => .done _
    · exact .bind (.call rfl) fun _ => .done _
  | person segment => exact .done _
  | following segment => exact .bind (.accept _) fun _ => .bind (.call rfl) fun _ => .done _
  | unfollowing segment => exact .bind (.call rfl) fun _ => .done _
  | status => exact .done _
  | limiter => exact .bind (.ask rfl) fun _ => .done _
  | identities => exact absurd rfl other
  | account segment => exact deleteAccount_tidy segment

theorem plan_tidy (other : resource? env.config q ≠ some .identities) : Tidy (plan env q) := by
  cases found : resource? env.config q with
  | none =>
    rw [plan_of_nothing found]
    exact .bind admission_tidy fun _ => .done _
  | some r =>
    rw [plan_of_resource found]
    refine .bind admission_tidy fun _ => .bind (enter_tidy r) fun context => ?_
    split
    · refine handle_tidy r ?_ context
      rintro rfl
      exact other found
    · exact .done _

end

section

variable {env : Env} {cutoff : Option Span} {s : State}

theorem touched_error (c : Store.Call) (e : Store.Error) : c.touched (.error e) = none := by
  cases c <;> rfl

theorem touched_of_plain {c : Store.Call} (fine : (Step.call c).plain = true)
    (answer : Except Store.Error c.Answer) : c.touched answer = none := by
  cases c <;> first | rfl | cases fine

/-- A call leaves the cache coherent but for the account that it has touched, if it is made. -/
theorem performCall_sound (env : Env) (cutoff : Option Span) (proper : env.now.Proper)
    (sound : Sound s) (c : Store.Call) :
    match performCall env cutoff c s with
    | (some answer, after) => SoundBut (c.touched answer) after
    | (none, after) => Sound after := by
  rcases performCall_cases env cutoff c s with ⟨moment, run⟩ | ⟨moment, _, run⟩ | ⟨_, run⟩
  · rw [run]
    exact sound.congr (State.wait_store moment s) (State.wait_identities moment s)
  · rw [run]
    dsimp only
    rw [touched_error]
    exact sound.congr (State.wait_store moment s) (State.wait_identities moment s)
  · rw [run]
    exact sound.perform proper c rfl (State.afterCall_identities env c s)

theorem Step.perform_sound (proper : env.now.Proper) (sound : Sound s) {step : Step}
    (fine : step.plain = true) : Sound (step.perform env cutoff s).2 := by
  cases step with
  | call c =>
    have called := performCall_sound env cutoff proper sound c
    rw [Step.perform]
    split at called
    · rename_i answer after run
      rw [run]
      rwa [touched_of_plain fine] at called
    · rename_i after run
      rwa [run]
  | limiterStats => exact sound.congr rfl rfl
  | allow client => exact sound.congr rfl rfl
  | count series => exact sound.congr rfl rfl
  | pause => exact sound.congr (State.rest_store s) (State.rest_identities s)
  | _ => cases fine

def State.looked (id : Int) (s : State) : State :=
  let ((outcome, _), identities) := s.identities.lookUp s.clock id
  { s with identities }.count (.lookup outcome)

def State.kept (env : Env) (u : User) (s : State) : State :=
  { s with identities := s.identities.keep s.clock env.draws.jitter u }

theorem run_resolve (env : Env) (cutoff : Option Span) (id : Int) (s : State) :
    (resolve id).run env cutoff s =
      match (s.identities.lookUp s.clock id).1.2 with
      | some u => (.done (.ok u), s.looked id)
      | none =>
        match performCall env cutoff (.user id) (s.looked id) with
        | (some (.ok u), after) => (.done (.ok u), after.kept env u)
        | (some (.error e), after) => (.done (.error e), after)
        | (none, after) => (.cutOff, after) := by
  have looks : (Step.lookUp id).perform env cutoff s =
      (some (s.identities.lookUp s.clock id).1.2, s.looked id) := rfl
  unfold resolve Plan.ask
  simp only [bind, Plan.bind, Plan.run]
  rw [looks]
  cases (s.identities.lookUp s.clock id).1.2 with
  | some u => rfl
  | none =>
    simp only [Plan.run, Step.perform]
    cases performCall env cutoff (.user id) (s.looked id) with
    | mk answer after =>
      cases answer with
      | none => rfl
      | some answer =>
        cases answer with
        | ok u => rfl
        | error e => rfl

theorem looked_sound (sound : Sound s) (id : Int) : Sound (s.looked id) := by
  refine sound.drop rfl fun other e found => ?_
  change (s.identities.lookUp s.clock id).2.held? other = some e at found
  rw [Cache.Identities.held?_lookUp] at found
  split at found
  · cases found
  · exact found

/-- A user that the cache gives is a stored one as it is now. -/
theorem stored_of_lookUp (sound : Sound s) {id : Int} {u : User}
    (hit : (s.identities.lookUp s.clock id).1.2 = some u) :
    ∃ a, s.store.tables.accounts.get? id = some a ∧ a.user = u := by
  rw [Cache.Identities.lookUp_eq] at hit
  obtain ⟨e, held, read⟩ := Option.bind_eq_some_iff.1 hit
  split at read
  · obtain ⟨a, stored, payload⟩ := sound.coherent id e nofun held
    rw [payload] at read
    exact ⟨a, stored, (User.eq_of_decode? (sound.dated id a stored) read).symm⟩
  · cases read

/-- A user that is found, be it in the cache or in the store, is a stored one as it is now. -/
theorem resolve_sound (proper : env.now.Proper) (sound : Sound s) (id : Int) :
    Sound ((resolve id).run env cutoff s).2 ∧
      ∀ u, ((resolve id).run env cutoff s).1 = .done (.ok u) →
        ∃ a, s.store.tables.accounts.get? id = some a ∧ a.user = u := by
  have looked := looked_sound sound id
  rw [run_resolve]
  cases hit : (s.identities.lookUp s.clock id).1.2 with
  | some u =>
    refine ⟨looked, fun v same => ?_⟩
    cases same
    exact stored_of_lookUp sound hit
  | none =>
    have called := performCall_sound env cutoff proper looked (.user id)
    dsimp only
    cases made : performCall env cutoff (.user id) (s.looked id) with
    | mk answer after =>
      rw [made] at called
      cases answer with
      | none => exact ⟨called, fun v same => by cases same⟩
      | some answer =>
        cases answer with
        | error e => exact ⟨called, fun v same => by cases same⟩
        | ok u =>
          obtain ⟨_, performed⟩ := performCall_ok made
          obtain ⟨a, stored, rfl, number⟩ := Store.get?_of_perform_user performed
          have same : after.store = (s.looked id).store := by
            have store : ((s.looked id).store.perform env.now (.user id)).2 =
                (s.looked id).store := Store.perform_of_reads rfl
            rwa [performed] at store
          refine ⟨SoundBut.keep called ?_, fun v equal => ?_⟩
          · rw [same, number]
            exact stored
          · cases equal
            exact ⟨a, stored, rfl⟩

/-- While the store answers at once, a user is found as it is stored, whatever the cache holds. -/
theorem resolve_calm (prompt : env.delay = 0) (up : s.store.available = true) (sound : Sound s)
    (cutoff : Option Span) (id : Int) :
    ∃ after, (resolve id).run env cutoff s =
        (.done (((s.store.tables.accounts.get? id).map (·.user)).elim (.error .notFound) .ok),
          after) ∧
      after.store = s.store ∧ after.limiter = s.limiter ∧ after.clock = s.clock := by
  rw [run_resolve]
  cases hit : (s.identities.lookUp s.clock id).1.2 with
  | some u =>
    obtain ⟨a, stored, same⟩ := stored_of_lookUp sound hit
    rw [stored, Option.map_some, same]
    exact ⟨_, rfl, rfl, rfl, rfl⟩
  | none =>
    rw [performCall_of_prompt prompt]
    have answered : (s.looked id).store.perform env.now (.user id) =
        (((s.store.tables.accounts.get? id).map (·.user)).elim (.error .notFound) .ok, s.store) :=
      Store.perform_user up env.now id
    rw [answered]
    cases s.store.tables.accounts.get? id with
    | none => exact ⟨_, rfl, rfl, rfl, rfl⟩
    | some a => exact ⟨_, rfl, rfl, rfl, rfl⟩

theorem settle_sound {α : Type} {entry : Option Int} {p : Plan α}
    (rest : ∀ s, Sound s → Sound (p.run env cutoff s).2) (sound : SoundBut entry s) :
    Sound ((Plan.settle entry p).run env cutoff s).2 := by
  cases entry with
  | none => exact rest s sound
  | some id => exact rest _ sound.evict

/-- A tidy plan, however it ends, leaves the cache coherent. -/
theorem Plan.Tidy.sound {α : Type} {p : Plan α} (tidy : Tidy p) (proper : env.now.Proper)
    (sound : Sound s) : Sound (p.run env cutoff s).2 := by
  induction tidy generalizing s with
  | done value => exact sound
  | halt why => exact sound
  | @plain first next fine _ ih =>
    have once : Sound (first.perform env cutoff s).2 := Step.perform_sound proper sound fine
    rw [run]
    split
    · rename_i answer later result
      rw [result] at once
      exact ih answer once
    · rename_i later result
      rwa [result] at once
  | @resolve id next _ ih =>
    have found : Sound ((Service.resolve id).run env cutoff s).2 :=
      (resolve_sound proper sound id).1
    rw [run_then]
    split
    · rename_i answer later result
      rw [result] at found
      exact ih answer found
    · rename_i why later result
      rwa [result] at found
    · rename_i later result
      rwa [result] at found
  | settled c _ ih =>
    have called := performCall_sound env cutoff proper sound c
    rw [run, Step.perform]
    split
    · rename_i answer later result
      rw [result] at called
      exact settle_sound (fun s sound => ih answer sound) called
    · rename_i later result
      rwa [result] at called

theorem Plan.Tidy.sound_of_run {α : Type} {p : Plan α} {after : State} {ending : Ending α}
    (tidy : p.Tidy) (proper : env.now.Proper) (sound : Sound s)
    (ran : p.run env cutoff s = (ending, after)) : Sound after := by
  have settled : Sound (p.run env cutoff s).2 := tidy.sound proper sound
  rwa [ran] at settled

theorem handle_identities_sound (q : Request) (sound : Sound s) :
    Sound ((handle env q .identities ()).run env cutoff s).2 := by
  rw [handle_identities]
  split
  · refine sound.drop rfl fun id e found => ?_
    change s.identities.flush.2.held? id = some e at found
    rw [Cache.Identities.held?_flush] at found
    cases found
  · refine sound.drop rfl fun id e found => ?_
    change (s.identities.stats s.clock).2.held? id = some e at found
    rw [Cache.Identities.held?_stats] at found
    exact (Option.filter_eq_some_iff.1 found).1

theorem sound_then {α β : Type} {p : Plan α} {f : α → Plan β} (tidy : p.Tidy)
    (proper : env.now.Proper)
    (rest : ∀ value s, Sound s → Sound ((f value).run env cutoff s).2) (sound : Sound s) :
    Sound ((p >>= f).run env cutoff s).2 := by
  rw [Plan.run_then]
  split
  · rename_i value later result
    exact rest value later (tidy.sound_of_run proper sound result)
  · rename_i why later result
    exact tidy.sound_of_run proper sound result
  · rename_i later result
    exact tidy.sound_of_run proper sound result

theorem planRun_sound (proper : env.now.Proper) (q : Request) (sound : Sound s) :
    Sound (planRun env q s).2 := by
  by_cases whole : resource? env.config q = some .identities
  · rw [planRun, plan_of_resource whole]
    refine sound_then admission_tidy proper (fun _ admitted sound => ?_) sound
    refine sound_then (enter_tidy .identities) proper (fun _ entered sound => ?_) sound
    split
    · exact handle_identities_sound q sound
    · exact sound
  · exact (plan_tidy whole).sound proper sound

/-- Every request, however it ends, leaves the cache coherent. -/
theorem respond_sound (proper : env.now.Proper) (q : Request) (sound : Sound s) :
    Sound (respond env q s).2 := by
  by_cases ready : started env q
  · rw [respond_eq, answer_of_run ready]
    exact (planRun_sound proper q sound).congr (Ending.counted_store _ _ _)
      (Ending.counted_identities _ _ _)
  · rw [(respond_of_refused ready).2]
    exact sound

end

end Agora.Service
