import Agora.Proofs.PostHistory

set_option autoImplicit false

namespace Agora

open Time (Stamp)

namespace Store

/-- The two operations on who follows whom. -/
inductive Tie where
  | follow
  | unfollow

namespace Tie

def call (v a : Int) : Tie → Call
  | .follow => .follow v a
  | .unfollow => .unfollow v a

def edit (pair : Int × Int) (pairs : List (Int × Int)) : Tie → List (Int × Int)
  | .follow => pairs.insert pair
  | .unfollow => pairs.filter (· ≠ pair)

/-- The operation that undoes the other. -/
def opposite : Tie → Tie
  | .follow => .unfollow
  | .unfollow => .follow

variable {tie : Tie} {pair other : Int × Int} {pairs : List (Int × Int)}

theorem mem_edit_self : pair ∈ tie.edit pair pairs ↔ tie = .follow := by
  cases tie <;> simp [edit]

theorem mem_edit_of_ne (apart : other ≠ pair) : other ∈ tie.edit pair pairs ↔ other ∈ pairs := by
  cases tie <;> simp [edit, apart]

/-- To make an edit again changes nothing. -/
theorem edit_of_made (made : pair ∈ pairs ↔ tie = .follow) : tie.edit pair pairs = pairs := by
  cases tie with
  | follow => exact List.insert_of_mem (made.2 rfl)
  | unfollow =>
    apply List.filter_eq_self.2
    rintro other inside
    have apart : other ≠ pair := by
      rintro rfl
      cases made.1 inside
    exact decide_eq_true apart

/-- The pairs after an operation, be it made or not. -/
def attempt (made : Bool) (pair : Int × Int) (pairs : List (Int × Int)) (tie : Tie) :
    List (Int × Int) :=
  if made then tie.edit pair pairs else pairs

end Tie

def withFollows (s : Store) (follows : List (Int × Int)) : Store :=
  { s with tables := { s.tables with follows } }

/-- Two stores hold the same, in whatever order they list who follows whom. -/
structure Alike (s t : Store) : Prop where
  rest : t = s.withFollows t.tables.follows
  follows (pair : Int × Int) : pair ∈ t.tables.follows ↔ pair ∈ s.tables.follows

section

variable {s : Store} {now now' : Stamp} {tie tie' : Tie} {v a w b : Int}

/-- What an operation on a pair answers does not hang on the pairs. -/
theorem perform_tie (s : Store) (now : Stamp) (tie : Tie) (v a : Int) :
    ∃ answer, ∀ pairs, (s.withFollows pairs).perform now (tie.call v a) =
      (answer, s.withFollows (tie.attempt answer.isOk (v, a) pairs)) := by
  cases up : s.available with
  | false => exact ⟨_, fun _ => perform_of_offline up⟩
  | true =>
    cases tie with
    | follow =>
      cases stored : s.tables.accounts.contains a with
      | true =>
        refine ⟨.ok (), fun pairs => perform_of_ok up ?_⟩
        exact if_pos stored
      | false =>
        refine ⟨.error .notFound, fun pairs => perform_of_error up ?_⟩
        exact if_neg (Bool.eq_false_iff.1 stored)
    | unfollow => exact ⟨.ok (), fun pairs => perform_of_ok up rfl⟩

theorem follows_of_tie (tie : Tie) {t : Store} {r : (tie.call v a).Answer}
    (performed : s.perform now (tie.call v a) = (.ok r, t)) :
    t = s.withFollows (tie.edit (v, a) s.tables.follows) := by
  obtain ⟨answer, done⟩ := perform_tie s now tie v a
  have made := performed.symm.trans (done s.tables.follows)
  obtain ⟨rfl, rfl⟩ := Prod.mk.inj made
  rfl

theorem mem_follows_of_deleteUser {t : Store} {id : Int} (pair : Int × Int)
    (performed : s.perform now (.deleteUser id) = (.ok (), t)) :
    pair ∈ t.tables.follows ↔ pair ∈ s.tables.follows ∧ pair.1 ≠ id ∧ pair.2 ≠ id := by
  rcases perform_cases s now (.deleteUser id) with ⟨_, after, _, success, done⟩ | ⟨_, failed⟩
  · cases performed.symm.trans done
    simp only [Tables.apply, Tables.deleteUser] at success
    split at success
    · cases success
      simp
    · cases success
  · cases performed.symm.trans failed

end

end Store

namespace Service

open Http (Request Response isSuccess)
open Store (Alike Tie User)

/-- The resource of an operation on who follows whom. -/
def Resource.ofTie (segment : String) : Tie → Resource
  | .follow => .following segment
  | .unfollow => .unfollowing segment

theorem Resource.ofTie_ne_post (segment other : String) (tie : Tie) :
    some (ofTie segment tie) ≠ some (.post other) := by
  cases tie <;> nofun

/-- The request asks for an operation on a pair of users. -/
structure Seeks (tie : Tie) (v a : Int) (env : Env) (q : Request) : Prop where
  puts : q.method = .put
  found : ∃ segment, resource? env.config q = some (.ofTie segment tie) ∧ names segment a
  caller : Credential.bearer env.config.auth.token env.now.second q.headers = .ok v

/-- The request asks for an operation on a pair of users, and is answered that it is done. -/
structure Ties (tie : Tie) (v a : Int) (env : Env) (q : Request) (s : State) : Prop
    extends Seeks tie v a env q where
  status : (respond env q s).1.status = 204

section

variable {env : Env} {cutoff : Option Time.Span} {q : Request} {s after : State} {tie : Tie}
  {v a : Int} {segment : String}

theorem loadUser_done {person : User}
    (ended : (loadUser segment).run env cutoff s = (.done person, after)) :
    names segment person.id := by
  obtain ⟨id, between, parsed, called⟩ := Plan.run_then_done ended
  obtain ⟨_, found, _⟩ := Plan.run_call_done called
  obtain ⟨_, _, _, number⟩ := Store.get?_of_perform_user found
  exact number ▸ pathId_done parsed

theorem memberAndUser_done {caller person : User} (proper : env.now.Proper) (sound : Sound s)
    (ended : (memberAndUser env q segment).run env cutoff s = (.done (caller, person), after)) :
    Credential.bearer env.config.auth.token env.now.second q.headers = .ok caller.id ∧
      names segment person.id ∧ after.store = s.store := by
  obtain ⟨user, passed, passes, rest⟩ := Plan.run_then_done ended
  obtain ⟨found, loaded, loads, rest⟩ := Plan.run_then_done rest
  cases rest
  obtain ⟨known, same, _⟩ := member_done proper sound passes
  exact ⟨known, loadUser_done loads, ((loadUser_keeps segment).of_run loads).trans same⟩

theorem follow_done {caller person : User} {response : Response}
    (ended : (follow caller person).run env cutoff s = (.done response, after)) :
    s.store.perform env.now (.follow caller.id person.id) = (.ok (), after.store) ∧
      response = .ofStatus 204 := by
  obtain ⟨_, demanded, accepted, rest⟩ := Plan.run_then_done ended
  obtain ⟨_, called, made, rest⟩ := Plan.run_then_done rest
  cases rest
  obtain ⟨_, rfl⟩ := accept_done accepted
  exact ⟨(Plan.run_call_done made).2.1, rfl⟩

theorem unfollow_done {caller person : User} {response : Response}
    (ended : (unfollow caller person).run env cutoff s = (.done response, after)) :
    s.store.perform env.now (.unfollow caller.id person.id) = (.ok (), after.store) ∧
      response = .ofStatus 204 := by
  obtain ⟨_, called, made, rest⟩ := Plan.run_then_done ended
  cases rest
  exact ⟨(Plan.run_call_done made).2.1, rfl⟩

/-- A request that succeeds has made its operation for its caller and the user it names. -/
theorem ties_of_success (proper : env.now.Proper) (sound : Sound s)
    (found : resource? env.config q = some (.ofTie segment tie))
    (success : isSuccess (respond env q s).1.status = true) :
    ∃ v a, Ties tie v a env q s ∧
      (respond env q s).2.store = s.store.withFollows (tie.edit (v, a) s.store.tables.follows) := by
  obtain ⟨admitted, context, entered, response, after, admits, enters, serves, handled, answered,
    store⟩ := passed_of_success found success
  have kept : admitted.store = s.store := admission_keeps.of_run admits
  have coherent : Sound admitted := admission_tidy.sound_of_run proper sound admits
  have puts : q.method = .put := by
    cases tie <;> exact List.mem_singleton.1 (List.contains_iff_mem.1 serves)
  -- Whichever of the two it is, the caller and the user whom the path names are the pair.
  have tied (caller person : User) {r : (tie.call caller.id person.id).Answer}
      (passed : (memberAndUser env q segment).run env (some (lastMoment env s)) admitted =
        (.done (caller, person), entered))
      (made : entered.store.perform env.now (tie.call caller.id person.id) = (.ok r, after.store))
      (told : response = .ofStatus 204) :
      ∃ v a, Ties tie v a env q s ∧ (respond env q s).2.store =
        s.store.withFollows (tie.edit (v, a) s.store.tables.follows) := by
    obtain ⟨known, named, same⟩ := memberAndUser_done proper coherent passed
    rw [same, kept, ← store] at made
    refine ⟨caller.id, person.id, ⟨⟨puts, ⟨segment, found, named⟩, known⟩, ?_⟩, ?_⟩
    · rw [answered, finish_status, told]
      rfl
    · exact Store.follows_of_tie tie made
  cases tie with
  | follow =>
    obtain ⟨made, told⟩ := follow_done handled
    exact tied context.1 context.2 enters made told
  | unfollow =>
    obtain ⟨made, told⟩ := unfollow_done handled
    exact tied context.1 context.2 enters made told

theorem Seeks.unique {tie' : Tie} {w b : Int} (one : Seeks tie v a env q)
    (other : Seeks tie' w b env q) : tie = tie' ∧ v = w ∧ a = b := by
  obtain ⟨segment, found, named⟩ := one.found
  obtain ⟨segment', found', named'⟩ := other.found
  have caller := one.caller.symm.trans other.caller
  cases caller
  have resource := found.symm.trans found'
  cases tie <;> cases tie' <;> cases resource <;> exact ⟨rfl, rfl, names_unique named' named⟩

/-- What a request for an operation on a pair leaves, as it succeeds or not. -/
theorem Seeks.store (seeks : Seeks tie v a env q) (proper : env.now.Proper) (sound : Sound s) :
    (respond env q s).2.store = s.store.withFollows
      (tie.attempt (isSuccess (respond env q s).1.status) (v, a) s.store.tables.follows) := by
  obtain ⟨segment, found, named⟩ := seeks.found
  cases success : isSuccess (respond env q s).1.status with
  | true =>
    obtain ⟨w, b, ties, made⟩ := ties_of_success proper sound found success
    obtain ⟨_, rfl, rfl⟩ := seeks.unique ties.toSeeks
    exact made
  | false =>
    refine store_of_failed (fun _ other => ?_) success
    exact Resource.ofTie_ne_post _ _ _ (found.symm.trans other)

/-- A request to follow or to unfollow sets the pair that it names, if it is answered so. -/
theorem tying_follows (proper : env.now.Proper) (sound : Sound s)
    (found : resource? env.config q = some (.ofTie segment tie)) :
    (v, a) ∈ (respond env q s).2.store.tables.follows ↔ Ties .follow v a env q s ∨
      (v, a) ∈ s.store.tables.follows ∧ ¬Ties .unfollow v a env q s := by
  cases success : isSuccess (respond env q s).1.status with
  | true =>
    obtain ⟨w, b, ties, made⟩ := ties_of_success proper sound found success
    rw [made]
    by_cases here : (v, a) = (w, b)
    · cases here
      have edited : (v, a) ∈ tie.edit (v, a) s.store.tables.follows ↔ tie = .follow :=
        Tie.mem_edit_self
      refine edited.trans ?_
      cases tie with
      | follow => exact iff_of_true rfl (.inl ties)
      | unfollow =>
        refine iff_of_false nofun ?_
        rintro (follows | ⟨_, stays⟩)
        · cases (follows.unique ties.toSeeks).1
        · exact stays ties
    · have apart (tie' : Tie) : ¬Ties tie' v a env q s := by
        intro other
        obtain ⟨_, rfl, rfl⟩ := other.unique ties.toSeeks
        exact here rfl
      rw [or_iff_right (apart .follow), and_iff_left (apart .unfollow)]
      exact Tie.mem_edit_of_ne here
  | false =>
    have unanswered (tie' : Tie) : ¬Ties tie' v a env q s := by
      intro ties
      have good := isSuccess_of_status ties.status rfl
      rw [success] at good
      cases good
    have same : (respond env q s).2.store = s.store := by
      refine store_of_failed (fun _ other => ?_) success
      exact Resource.ofTie_ne_post _ _ _ (found.symm.trans other)
    rw [same, or_iff_right (unanswered .follow), and_iff_left (unanswered .unfollow)]

/-- A request to delete an account takes out the pairs of its user, if it is answered so. -/
theorem removal_follows (found : resource? env.config q = some (.account segment)) :
    (v, a) ∈ (respond env q s).2.store.tables.follows ↔
      (v, a) ∈ s.store.tables.follows ∧ ¬(Expels env q s v ∨ Expels env q s a) := by
  cases success : isSuccess (respond env q s).1.status with
  | true =>
    obtain ⟨id, deletes, named, _, performed, answered⟩ := account_of_success found success
    have status : (respond env q s).1.status = 204 := by
      rw [answered, finish_status]
      rfl
    have expels (other : Int) : Expels env q s other ↔ other = id := by
      constructor
      · intro expels
        obtain ⟨segment', found', named'⟩ := expels.found
        cases found.symm.trans found'
        exact names_unique named named'
      · rintro rfl
        exact ⟨deletes, ⟨segment, found, named⟩, status⟩
    rw [Store.mem_follows_of_deleteUser _ performed, expels, expels, not_or]
  | false =>
    have unanswered (id : Int) : ¬Expels env q s id := by
      intro expels
      have good := isSuccess_of_status expels.status rfl
      rw [success] at good
      cases good
    have same : (respond env q s).2.store = s.store :=
      store_of_failed (fun _ other => nomatch found.symm.trans other) success
    rw [same, and_iff_left (not_or.2 ⟨unanswered v, unanswered a⟩)]

/-- All other requests leave the pairs as they are. -/
theorem respond_follows (untied : ∀ tie segment, resource? env.config q ≠ some (.ofTie segment tie))
    (spares : ∀ segment, resource? env.config q ≠ some (.account segment)) :
    (respond env q s).2.store.tables.follows = s.store.tables.follows := by
  refine respond_of_makes (P := fun store => store.tables.follows = s.store.tables.follows) ?_ rfl
  intro r found c makes _ store same
  refine ((Store.perform_framed store env.now c).follows ?_).trans same
  cases r with
  | following segment => exact absurd found (untied .follow segment)
  | unfollowing segment => exact absurd found (untied .unfollow segment)
  | account segment => exact absurd found (spares segment)
  | _ => cases c <;> first | rfl | cases makes

theorem request_follows (proper : env.now.Proper) (sound : Sound s) :
    (v, a) ∈ (respond env q s).2.store.tables.follows ↔ Ties .follow v a env q s ∨
      (v, a) ∈ s.store.tables.follows ∧
        ¬(Ties .unfollow v a env q s ∨ Expels env q s v ∨ Expels env q s a) := by
  by_cases tied : ∃ tie segment, resource? env.config q = some (.ofTie segment tie)
  · obtain ⟨tie, segment, found⟩ := tied
    have spared (id : Int) : ¬Expels env q s id := by
      intro expels
      obtain ⟨_, other, _⟩ := expels.found
      have resource := found.symm.trans other
      cases tie <;> cases resource
    rw [or_iff_left (not_or.2 ⟨spared v, spared a⟩)]
    exact tying_follows proper sound found
  · have untied (tie' : Tie) : ¬Ties tie' v a env q s := by
      intro ties
      obtain ⟨segment, found, _⟩ := ties.found
      exact tied ⟨tie', segment, found⟩
    rw [or_iff_right (untied .follow), or_iff_right (untied .unfollow)]
    by_cases removes : ∃ segment, resource? env.config q = some (.account segment)
    · obtain ⟨segment, found⟩ := removes
      exact removal_follows found
    · have spared (id : Int) : ¬Expels env q s id := by
        intro expels
        obtain ⟨segment, found, _⟩ := expels.found
        exact removes ⟨segment, found⟩
      rw [and_iff_left (not_or.2 ⟨spared v, spared a⟩)]
      rw [respond_follows]
      · exact fun tie segment found => tied ⟨tie, segment, found⟩
      · exact fun segment found => removes ⟨segment, found⟩

end

section

variable (setting : Setting) (history : List Event) (v a : Int)

/-- A pair is there if and only if a request of the session has had the one follow the other, and
none has ended that since, nor deleted one of the two accounts. -/
theorem course_follows :
    (v, a) ∈ (setting.course history).store.tables.follows ↔
      Prevails setting (Ties .follow v a) (fun env q s =>
        Ties .unfollow v a env q s ∨ Expels env q s v ∨ Expels env q s a) history := by
  refine course_iff_prevails (fun t => (v, a) ∈ t.follows) nofun ?_ ?_ history
  · intro t after _ follows
    rw [follows]
  · intro o q s sound
    have proper : (setting.env o).now.Proper := o.proper
    exact request_follows proper sound

variable {v a}

theorem follows_of_stored
    (follower : (setting.course history).store.tables.accounts.contains v = true)
    (followee : (setting.course history).store.tables.accounts.contains a = true) :
    (v, a) ∈ (setting.course history).store.tables.follows ↔
      Prevails setting (Ties .follow v a) (Ties .unfollow v a) history := by
  rw [course_follows]
  constructor
  · exact fun standing => standing.mono fun _ _ _ => .inl
  · intro standing
    refine standing.unless fun before o q rest moment => ?_
    have live (id : Int)
        (stored : (setting.course history).store.tables.accounts.contains id = true) :
        ¬Expels (setting.env o) q (setting.course before) id := by
      intro expels
      obtain ⟨segment, found, named⟩ := expels.found
      have vacant : Store.Vacant id (setting.course history).store := vacant_of_expelled
        ⟨before, o, q, rest, segment, moment, expels.deletes, found, named, expels.status⟩
      rw [Table.Ledger.contains, vacant.missing] at stored
      cases stored
    exact not_or.2 ⟨live v follower, live a followee⟩

/-- Where the last operation on a pair that was done is the one that a request asks for again, the
request changes nothing. -/
theorem Seeks.again {tie : Tie} {o : Occasion} {q : Request}
    (seeks : Seeks tie v a (setting.env o) q)
    (standing : Prevails setting (Ties tie v a) (Ties tie.opposite v a) history) :
    (respond (setting.env o) q (setting.course history)).2.store =
      (setting.course history).store := by
  have sound : Sound (setting.course history) := setting.course_sound history
  cases success : isSuccess (respond (setting.env o) q (setting.course history)).1.status with
  | false =>
    rw [seeks.store o.proper sound, success]
    rfl
  | true =>
    have next : (respond (setting.env o) q (setting.course history)).2.store =
        (setting.course history).store.withFollows
          (tie.edit (v, a) (setting.course history).store.tables.follows) := by
      rw [seeks.store o.proper sound, success]
      rfl
    have made : (v, a) ∈ (setting.course history).store.tables.follows ↔ tie = .follow := by
      cases tie with
      | follow =>
        -- Both accounts are stored, for otherwise the new pair would name one that is not.
        have intact := course_intact setting (history ++ [.request o q])
        rw [setting.course_append_cons] at intact
        change (respond (setting.env o) q (setting.course history)).2.store.tables.Intact at intact
        rw [next] at intact
        obtain ⟨_, follower, followee⟩ := intact.follows (v, a) (Tie.mem_edit_self.2 rfl)
        exact iff_of_true ((follows_of_stored setting history follower followee).2 standing) rfl
      | unfollow =>
        refine iff_of_false (fun follows => ?_) nofun
        have fore := ((course_follows setting history v a).1 follows).mono fun _ _ _ => .inl
        refine fore.exclusive ?_ standing
        intro env q s follows unfollows
        cases (follows.unique unfollows.toSeeks).1
    rw [next, Tie.edit_of_made made]
    rfl

end

end Service

end Agora
