import Agora.Proofs.Admittance
import Agora.Proofs.SteadyPlans
import Mathlib.Algebra.GroupWithZero.Nat

/-!
What a request adds to the counters. Every request that runs to its end is counted once by its
method and its status; if it has ended for a cause it is counted once more, by the cause; and a
caller whose token names a user is counted once for the look-up. Nothing else is counted.
-/

set_option autoImplicit false

namespace Agora

open Metrics (Series)

/-- A sum over all entries is one over the entries but that of a key, and what that one adds. -/
theorem Table.Directory.sum_erase {κ ν : Type} [DecidableEq κ] (d : Table.Directory κ ν) (key : κ)
    (weigh : κ × ν → Nat) :
    (d.entries.map weigh).sum =
      ((d.erase key).entries.map weigh).sum + (d.get? key).elim 0 fun v => weigh (key, v) := by
  obtain ⟨entries, distinct⟩ := d
  simp only [erase, filter, get?]
  induction entries with
  | nil => rfl
  | cons e rest ih =>
    obtain ⟨k, v⟩ := e
    obtain ⟨apart, distinct⟩ := List.pairwise_cons.1 distinct
    have ih := ih distinct
    by_cases same : k = key
    · subst same
      have kept : rest.filter (fun e => decide (e.1 ≠ k)) = rest := by
        apply List.filter_eq_self.2
        intro other inside
        exact decide_eq_true (apart other inside).symm
      simp only [List.map_cons, List.sum_cons, List.filter_cons, List.find?_cons, ne_eq,
        not_true_eq_false, decide_false, Bool.false_eq_true, if_false, decide_true,
        Option.map_some, Option.elim_some]
      rw [kept]
      exact Nat.add_comm _ _
    · simp only [List.map_cons, List.sum_cons, ih, List.filter_cons, List.find?_cons, same,
        decide_false, ne_eq, not_false_eq_true, decide_true, if_true]
      omega

namespace Metrics

/-- The sum of the counters of some kind. -/
def total (counts : Series → Bool) (m : Metrics) : Nat :=
  (m.counters.entries.map fun e => if counts e.1 then e.2 else 0).sum

variable (counts : Series → Bool) (m : Metrics)

theorem total_single (series : Series) : m.total (· = series) = m.value series := by
  have others : ((m.counters.erase series).entries.map fun e =>
      if decide (e.1 = series) = true then e.2 else 0).sum = 0 := by
    apply List.sum_eq_zero_iff_forall_eq_nat.2
    simp only [Table.Directory.erase, Table.Directory.filter]
    intro n counted
    obtain ⟨e, kept, rfl⟩ := List.mem_map.1 counted
    have apart : ¬e.1 = series := by simpa using (List.mem_filter.1 kept).2
    simp [apart]
  rw [total, Table.Directory.sum_erase _ series, others, value]
  cases m.counters.get? series with
  | none => rfl
  | some n => simp

theorem total_count (series : Series) :
    (m.count series).total counts = m.total counts + if counts series then 1 else 0 := by
  rw [total, total, Table.Directory.sum_erase m.counters series, count, Table.Directory.set,
    List.map_append, List.sum_append, value]
  cases m.counters.get? series with
  | none => by_cases counted : counts series = true <;> simp [counted]
  | some n =>
    by_cases counted : counts series = true
    · simp [counted]
      omega
    · simp [counted]

def Series.ofRequests (among : String → Nat → Bool) : Series → Bool
  | .request method status => among method status
  | _ => false

def Series.isLookup : Series → Bool
  | .lookup _ => true
  | _ => false

end Metrics

namespace Service

open Http (Request Response)
open Plan (Fronted Steady)
open Time (Span)

namespace State

variable (moment : Span) (s : State)

theorem catchUp_total (counts : Series → Bool) :
    (s.catchUp moment).metrics.total counts = s.metrics.total counts := by
  unfold catchUp
  split <;> rfl

theorem wait_total (counts : Series → Bool) :
    (s.wait moment).metrics.total counts = s.metrics.total counts := by
  unfold wait
  split
  · rfl
  · dsimp only
    split
    · rw [catchUp_total]
      exact catchUp_total s.clock s counts
    · exact catchUp_total s.clock s counts

end State

namespace Step

def counted (s : State) : Step → List Series
  | .lookUp id => [.lookup (s.identities.lookUp s.clock id).1.1]
  | .count series => [series]
  | _ => []

theorem perform_total (env : Env) (cutoff : Option Span) (s : State) (step : Step)
    (counts : Series → Bool) :
    (step.perform env cutoff s).2.metrics.total counts =
      s.metrics.total counts + (step.counted s).countP counts := by
  have once (series : Series) : (s.count series).metrics.total counts =
      s.metrics.total counts + [series].countP counts := by
    rw [State.count, Metrics.total_count, List.countP_singleton]
  cases step with
  | call c =>
    rw [perform]
    rcases performCall_cases env cutoff c s with ⟨moment, run⟩ | ⟨moment, _, run⟩ | ⟨_, run⟩
    · rw [run]
      exact s.wait_total moment counts
    · rw [run]
      exact s.wait_total moment counts
    · rw [run]
      exact s.wait_total (s.clock + env.delay) counts
  | lookUp id => exact once _
  | count series => exact once series
  | pause => exact s.catchUp_total s.clock counts
  | _ => rfl

end Step

namespace Plan

variable {α β : Type} {env : Env} {cutoff : Option Span} {login : Bool}

/-- All that a run counts, in order. -/
def tally (env : Env) (cutoff : Option Span) : Plan α → State → List Series
  | .done _, _ => []
  | .halt _, _ => []
  | .step first next, s =>
    first.counted s ++ match first.perform env cutoff s with
      | (some answer, s) => (next answer).tally env cutoff s
      | (none, _) => []

theorem run_total (p : Plan α) (s : State) (counts : Series → Bool) :
    (p.run env cutoff s).2.metrics.total counts =
      s.metrics.total counts + (p.tally env cutoff s).countP counts := by
  induction p generalizing s with
  | done value => rfl
  | halt why => rfl
  | step first next ih =>
    have once := first.perform_total env cutoff s counts
    rw [run, tally, List.countP_append, ← Nat.add_assoc, ← once]
    cases first.perform env cutoff s with
    | mk answer later =>
      cases answer with
      | some answer => exact ih answer later
      | none => rfl

theorem tally_then (p : Plan α) (f : α → Plan β) (s : State) :
    (p >>= f).tally env cutoff s = p.tally env cutoff s ++
      match p.run env cutoff s with
      | (.done value, after) => (f value).tally env cutoff after
      | _ => [] := by
  induction p generalizing s with
  | done value => rfl
  | halt why => rfl
  | step first next ih =>
    have composed :
        (Plan.step first next >>= f) = .step first fun answer => next answer >>= f := rfl
    rw [composed, tally, tally, run, List.append_assoc]
    congr 1
    cases first.perform env cutoff s with
    | mk answer later =>
      cases answer with
      | some answer => exact ih answer later
      | none => rfl

end Plan

def Ending.due? {α : Type} (login : Bool) : Ending α → Option Cause
  | .halted why => why.due? login
  | _ => none

/-- The tally holds a cause that is to be counted, if there is one, and nothing else. -/
def Accounts (due : Option Cause) (tally : List Series) : Prop :=
  tally.map Series.cause? = due.toList.map some

/-- What is counted in a steady plan is the cause for which it ends. -/
theorem Plan.Steady.accounts {α : Type} {login : Bool} {p : Plan α} (steady : p.Steady login)
    (env : Env) (cutoff : Option Span) (s : State) :
    Accounts ((p.run env cutoff s).1.due? login) (p.tally env cutoff s) := by
  induction steady generalizing s with
  | done value => rfl
  | @halt why free =>
    show ([] : List (Option Cause)) = (why.due? login).toList.map some
    rw [free]
    rfl
  | @count series next cause why counts due halts =>
    simp only [Plan.run, Plan.tally, Step.perform, Step.counted, halts]
    show [series.cause?] = (why.due? login).toList.map some
    rw [counts, due]
    rfl
  | @call c next response _ _ ih =>
    rw [Plan.run, Plan.tally]
    cases Step.perform env cutoff s (.call c) with
    | mk answer later =>
      cases answer with
      | some answer => exact ih answer later
      | none => rfl
  | @aside only next allowed _ ih =>
    have silent : only.counted s = [] := by
      cases only <;> first | rfl | cases allowed
    rw [Plan.run, Plan.tally, silent]
    cases Step.perform env cutoff s only with
    | mk answer later =>
      cases answer with
      | some answer => exact ih answer later
      | none => rfl

theorem Plan.Fronted.accounts {α : Type} {kind : Step → Bool} {login : Bool} {p : Plan α}
    (fronted : p.Fronted kind login) (silent : ∀ step s, kind step = true → step.counted s = [])
    (env : Env) (cutoff : Option Span) (s : State) :
    Accounts ((p.run env cutoff s).1.due? login) (p.tally env cutoff s) := by
  induction fronted generalizing s with
  | steady steady => exact steady.accounts env cutoff s
  | @step first next allowed _ ih =>
    rw [Plan.run, Plan.tally, silent first s allowed]
    cases Step.perform env cutoff s first with
    | mk answer later =>
      cases answer with
      | some answer => exact ih answer later
      | none => rfl

theorem Step.counted_of_view (step : Step) (s : State) (views : step.view = true) :
    step.counted s = [] := by
  cases step <;> first | rfl | cases views

namespace Accounts

variable {due : Option Cause} {tally : List Series}

theorem eq_nil (accounts : Accounts none tally) : tally = [] := List.map_eq_nil_iff.1 accounts

theorem countP_eq_zero (accounts : Accounts due tally) {counts : Series → Bool}
    (other : ∀ series, counts series = true → series.cause? = none) :
    tally.countP counts = 0 := by
  apply List.countP_eq_zero.2
  intro series inside counted
  have cause : series.cause? ∈ due.toList.map some := by
    rw [← accounts]
    exact List.mem_map_of_mem inside
  rw [other series counted] at cause
  simp at cause

/-- A cause is counted if the run has ended for it. -/
theorem countP_cause (accounts : Accounts due tally) (cause : Cause) :
    tally.countP (·.cause? = some cause) = if due = some cause then 1 else 0 := by
  have mapped : tally.countP (·.cause? = some cause) =
      (tally.map Series.cause?).countP (· = some cause) := by
    rw [List.countP_map]
    rfl
  rw [mapped, accounts]
  cases due with
  | none => rfl
  | some other => simp [List.countP_singleton]

end Accounts

def isAdmitted (env : Env) (q : Request) (s : State) : Bool :=
  match ((admission env q).run env (some (lastMoment env s)) s).1 with
  | .done _ => true
  | _ => false

/-- The request is an admitted one for members, and its token names a user. -/
def looksUp (env : Env) (q : Request) (s : State) : Bool :=
  started env q && isAdmitted env q s &&
    (resource? env.config q).any (·.access = .member) &&
    (Credential.bearer env.config.auth.token env.now.second q.headers).toOption.isSome

/-- All that a request counts, in order. -/
def requestTally (env : Env) (q : Request) (s : State) : List Series :=
  if started env q then
    (plan env q).tally env (some (lastMoment env s)) s ++
      match (planRun env q s).1 with
      | .cutOff => []
      | ending => [.request q.method.name ending.response.status]
  else []

section

variable {env : Env} {q : Request} {s : State}

theorem respond_total (counts : Series → Bool) :
    (respond env q s).2.metrics.total counts =
      s.metrics.total counts + (requestTally env q s).countP counts := by
  rw [respond_eq, requestTally]
  by_cases ready : started env q
  · have planned : (planRun env q s).2.metrics.total counts = s.metrics.total counts +
        ((plan env q).tally env (some (lastMoment env s)) s).countP counts :=
      Plan.run_total _ s counts
    rw [answer_of_run ready, if_pos ready, List.countP_append, ← Nat.add_assoc, ← planned]
    cases (planRun env q s).1 with
    | cutOff => rfl
    | done response =>
      rw [List.countP_singleton]
      exact Metrics.total_count counts _ _
    | halted why =>
      rw [List.countP_singleton]
      exact Metrics.total_count counts _ _
  · rw [if_neg ready]
    rcases answer_of_refused ready with late | large
    · rw [late]
      rfl
    · rw [large]
      rfl

theorem admission_accounts (login : Bool) (cutoff : Option Span) :
    Accounts (((admission env q).run env cutoff s).1.due? login)
      ((admission env q).tally env cutoff s) := by
  have fronted : (admission env q).Fronted Step.admits login := by
    unfold admission
    split
    · apply Fronted.step rfl
      intro verdict
      cases verdict with
      | allowed => exact .steady (.done ())
      | limited wait => exact .steady (.count rfl rfl rfl)
    · exact .steady (.done ())
  apply fronted.accounts
  intro step s asks
  cases step <;> first | rfl | cases asks

/-- Either the client is admitted, and what is run and counted is what follows; or the request ends
there. -/
theorem admission_then (login : Bool) (next : Plan Response) (cutoff : Span)
    (moment : cutoff = lastMoment env s) :
    (isAdmitted env q s = true ∧ ∃ after,
      (admission env q >>= fun _ => next).run env (some cutoff) s = next.run env (some cutoff) after ∧
      (admission env q >>= fun _ => next).tally env (some cutoff) s =
        next.tally env (some cutoff) after) ∨
    (isAdmitted env q s = false ∧
      Accounts (((admission env q >>= fun _ => next).run env (some cutoff) s).1.due? login)
        ((admission env q >>= fun _ => next).tally env (some cutoff) s)) := by
  subst moment
  have accounts : Accounts
      (((admission env q).run env (some (lastMoment env s)) s).1.due? login)
      ((admission env q).tally env (some (lastMoment env s)) s) :=
    admission_accounts login (some (lastMoment env s))
  rw [Plan.run_then, Plan.tally_then, isAdmitted]
  generalize (admission env q).tally env (some (lastMoment env s)) s = tally at accounts ⊢
  generalize (admission env q).run env (some (lastMoment env s)) s = result at accounts ⊢
  obtain ⟨ending, after⟩ := result
  cases ending with
  | done value =>
    rw [accounts.eq_nil]
    exact .inl ⟨rfl, after, rfl, rfl⟩
  | halted why =>
    rw [List.append_nil]
    exact .inr ⟨rfl, accounts⟩
  | cutOff =>
    rw [List.append_nil]
    exact .inr ⟨rfl, accounts⟩

/-- A plan counts the look-up, if there is one, and the cause for which it ends, if there is one. -/
theorem plan_accounts (ready : started env q) :
    ∃ found : Option Metrics.Lookup, ∃ rest,
      (plan env q).tally env (some (lastMoment env s)) s = found.toList.map .lookup ++ rest ∧
        found.isSome = looksUp env q s ∧
        Accounts ((planRun env q s).1.due? (isLogin env.config q)) rest := by
  unfold planRun
  cases named : resource? env.config q with
  | none =>
    have nobody : looksUp env q s = false := by simp [looksUp, named]
    rw [plan_of_nothing named, nobody]
    rcases admission_then (isLogin env.config q) (.done (.ofStatus 404)) _ rfl with
      ⟨_, after, ran, counted⟩ | ⟨_, accounts⟩
    · rw [ran, counted]
      exact ⟨none, _, rfl, rfl, rfl⟩
    · exact ⟨none, _, rfl, rfl, accounts⟩
  | some r =>
    have flag : isLogin env.config q = r.logsIn q.method := by
      rw [isLogin, named]
      rfl
    rw [plan_of_resource named, flag]
    rcases admission_then (r.logsIn q.method) (serve env q r) _ rfl with
      ⟨admitted, after, ran, counted⟩ | ⟨turned, accounts⟩
    · rw [ran, counted]
      by_cases members : r.access = .member
      · cases known : Credential.bearer env.config.auth.token env.now.second q.headers with
        | ok id =>
          have looks : looksUp env q s = true := by
            simp [looksUp, ready, admitted, named, members, known, Except.toOption]
          obtain ⟨next, serves, steady⟩ := serve_of_identified (r := r) members known
          rw [serves, looks]
          exact ⟨some _, _, rfl, rfl, (steady _).accounts env _ _⟩
        | error refusal =>
          have nobody : looksUp env q s = false := by simp [looksUp, known, Except.toOption]
          rw [nobody]
          exact ⟨none, _, rfl, rfl,
            (serve_of_others r fun _ => ⟨refusal, known⟩).accounts Step.counted_of_view env _ _⟩
      · have nobody : looksUp env q s = false := by simp [looksUp, named, members]
        rw [nobody]
        exact ⟨none, _, rfl, rfl, (serve_of_others r fun gate => absurd gate members).accounts
          Step.counted_of_view env _ _⟩
    · have nobody : looksUp env q s = false := by simp [looksUp, turned]
      rw [nobody]
      exact ⟨none, _, rfl, rfl, accounts⟩

/-- The status of a request that is refused at the outset or cut off. -/
def isUnplanned (status : Nat) : Bool := status = 408 || status = 413

theorem Halt.isUnplanned_status (why : Halt) : isUnplanned why.response.status = false := by
  cases why with
  | invalidPath parameter => rfl
  | failed failure =>
    rw [response, Failure.response_status]
    cases failure <;> rfl

/-- A plan that comes to its end comes to an answer of success, or that the resource does not serve
the method, or that there is none. -/
theorem planRun_done {response : Response} {after : State}
    (ended : planRun env q s = (.done response, after)) :
    Concluded response ∨ response.status = 404 := by
  rw [planRun] at ended
  cases named : resource? env.config q with
  | none =>
    rw [plan_of_nothing named] at ended
    obtain ⟨_, _, _, last⟩ := Plan.run_then_done ended
    cases last
    exact .inr rfl
  | some r =>
    rw [plan_of_resource named] at ended
    obtain ⟨_, admitted, _, served⟩ := Plan.run_then_done ended
    exact .inl ((serve_conforms r).of_done served)

theorem status_of_done {response : Response} (ended : Concluded response ∨ response.status = 404) :
    isUnplanned response.status = false ∧ Cause.ofStatus? response.status = none := by
  rcases ended with (success | served) | missing
  · have range : 200 ≤ response.status ∧ response.status < 300 := by
      simpa [Succeeds, Http.isSuccess] using success
    refine ⟨?_, ?_⟩
    · simp only [isUnplanned, Bool.or_eq_false_iff, decide_eq_false_iff_not]
      omega
    · apply Option.eq_none_iff_forall_ne_some.2
      intro cause found
      have same := Cause.ofStatus?_eq_some.1 found
      cases cause <;> simp only [Cause.status] at same <;> omega
  · rw [served]
    exact ⟨rfl, rfl⟩
  · rw [missing]
    exact ⟨rfl, rfl⟩

/-- The status of an answer tells whether the request has run to its end, and what is counted for
it. -/
theorem status_of_run (ready : started env q) (login : Bool) :
    (isUnplanned (respond env q s).1.status = true ↔ (planRun env q s).1 = .cutOff) ∧
      (planRun env q s).1.due? login =
        Cause.due? login (Cause.ofStatus? (respond env q s).1.status) := by
  rw [(respond_of_started ready).1]
  cases ended : planRun env q s with
  | mk ending after =>
    cases ending with
    | done response =>
      obtain ⟨planned, none⟩ := status_of_done (planRun_done ended)
      refine ⟨?_, ?_⟩
      · show isUnplanned response.status = true ↔ _
        simp [planned]
      · show _ = Cause.due? login (Cause.ofStatus? response.status)
        rw [none]
        rfl
    | halted why =>
      refine ⟨?_, ?_⟩
      · show isUnplanned why.response.status = true ↔ _
        simp [why.isUnplanned_status]
      · show Cause.due? login why.cause? = Cause.due? login (Cause.ofStatus? why.response.status)
        rw [why.cause?_eq]
    | cutOff => exact ⟨iff_of_true rfl rfl, rfl⟩

end

/-- What a request counts: the look-up, if there is one; the cause of its answer, if that is to be
counted; and the request itself, if it has run to its end. -/
theorem requestTally_eq (env : Env) (q : Request) (s : State) :
    ∃ found : Option Metrics.Lookup, ∃ causes : List Series,
      requestTally env q s = found.toList.map .lookup ++ causes ++
          (if isUnplanned (respond env q s).1.status then []
          else [.request q.method.name (respond env q s).1.status]) ∧
        found.isSome = looksUp env q s ∧
        Accounts (Cause.due? (isLogin env.config q)
          (Cause.ofStatus? (respond env q s).1.status)) causes := by
  by_cases ready : started env q
  · obtain ⟨found, causes, tally, looks, accounts⟩ := plan_accounts (s := s) ready
    obtain ⟨unplanned, due⟩ := status_of_run (s := s) ready (isLogin env.config q)
    rw [due] at accounts
    refine ⟨found, causes, ?_, looks, accounts⟩
    rw [requestTally, if_pos ready, tally]
    congr 1
    rw [(respond_of_started ready).1] at unplanned ⊢
    cases ended : (planRun env q s).1 with
    | cutOff => rfl
    | done response =>
      rw [ended] at unplanned
      rw [if_neg fun cut => nomatch unplanned.1 cut]
    | halted why =>
      rw [ended] at unplanned
      rw [if_neg fun cut => nomatch unplanned.1 cut]
  · have nobody : looksUp env q s = false := by simp [looksUp, ready]
    refine ⟨none, [], ?_, nobody.symm, ?_⟩
    · rw [requestTally, if_neg ready]
      rcases (respond_of_refused (s := s) ready).1 with late | large
      · rw [late]
        rfl
      · rw [large]
        rfl
    · rcases (respond_of_refused (s := s) ready).1 with late | large
      · rw [late]
        rfl
      · rw [large]
        rfl

section

variable (env : Env) (q : Request) (s : State)

/-- A request that has run to its end is counted once, by its method and its status. -/
theorem countP_ofRequests (among : String → Nat → Bool) :
    (requestTally env q s).countP (Series.ofRequests among) =
      if !isUnplanned (respond env q s).1.status &&
        among q.method.name (respond env q s).1.status then 1 else 0 := by
  obtain ⟨found, causes, tally, _, accounts⟩ := requestTally_eq env q s
  have looked : (found.toList.map Series.lookup).countP (Series.ofRequests among) = 0 := by
    cases found <;> rfl
  have caused : causes.countP (Series.ofRequests among) = 0 := by
    apply accounts.countP_eq_zero
    intro series counted
    cases series <;> first | rfl | cases counted
  rw [tally, List.countP_append, List.countP_append, looked, caused]
  cases isUnplanned (respond env q s).1.status with
  | true => rfl
  | false =>
    simp only [Bool.false_eq_true, if_false, List.countP_singleton, Bool.not_false, Bool.true_and,
      Nat.zero_add]
    rfl

/-- A request that has ended for a cause that is to be counted is counted once more, by it. -/
theorem countP_cause (cause : Cause) :
    (requestTally env q s).countP (·.cause? = some cause) =
      if Cause.due? (isLogin env.config q) (Cause.ofStatus? (respond env q s).1.status) =
        some cause then 1 else 0 := by
  obtain ⟨found, causes, tally, _, accounts⟩ := requestTally_eq env q s
  have looked : (found.toList.map Series.lookup).countP (·.cause? = some cause) = 0 := by
    cases found <;> rfl
  rw [tally, List.countP_append, List.countP_append, looked, accounts.countP_cause]
  cases isUnplanned (respond env q s).1.status with
  | true => exact Nat.zero_add _
  | false => exact Nat.zero_add _

/-- A caller whose token names a user is looked up once. -/
theorem countP_isLookup :
    (requestTally env q s).countP Series.isLookup = if looksUp env q s then 1 else 0 := by
  obtain ⟨found, causes, tally, looks, accounts⟩ := requestTally_eq env q s
  have caused : causes.countP Series.isLookup = 0 := by
    apply accounts.countP_eq_zero
    intro series counted
    cases series <;> first | rfl | cases counted
  rw [tally, List.countP_append, List.countP_append, caused, ← looks]
  cases isUnplanned (respond env q s).1.status <;> cases found <;> rfl

end

end Service

end Agora
