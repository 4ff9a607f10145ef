import Agora.Proofs.PostGates
import Agora.Proofs.Sessions

/-!
The cache of identities cannot be told from the outside. While the store answers, and at once, two
services that differ in their caches only give the same answers to the same requests and come to the
same store; one of them may keep nothing. What the two hold is compared after each step of a plan:
all but the caches is the same, and both caches are coherent, so that a user is found alike in both.
-/

set_option autoImplicit false

namespace Agora.Service

open Http (Request Response)
open Time (Span)

def Env.withCache (cache : Config.Cache) (env : Env) : Env :=
  { env with config := { env.config with cache } }

section

variable (cache : Config.Cache) (env : Env) (cutoff : Option Span) (q : Request) (s : State)

theorem plan_withCache : plan (env.withCache cache) q = plan env q := rfl

theorem Plan.run_withCache {α : Type} (p : Plan α) :
    p.run (env.withCache cache) cutoff s = p.run env cutoff s := by
  induction p generalizing s with
  | done value => rfl
  | halt why => rfl
  | step first next ih =>
    have same : first.perform (env.withCache cache) cutoff s = first.perform env cutoff s := by
      cases first <;> rfl
    rw [run, run, same]
    split
    · exact ih _ _
    · rfl

/-- No request looks at how the cache is configured. -/
theorem respond_withCache : respond (env.withCache cache) q s = respond env q s := by
  have ran (cutoff : Span) : runPlan (env.withCache cache) q cutoff s = runPlan env q cutoff s := by
    rw [runPlan, runPlan, plan_withCache, Plan.run_withCache]
  have answered : answer (env.withCache cache) q s = answer env q s := by
    rw [answer, ran]
    rfl
  rw [respond_eq, respond_eq, answered]
  rfl

end

/-- Two states that differ in their caches and counts only. The store answers, and both caches are
coherent, but perhaps for the entry of one number. -/
structure Twin (stale : Option Int) (s t : State) : Prop where
  store : t.store = s.store
  limiter : t.limiter = s.limiter
  clock : t.clock = s.clock
  up : s.store.available = true
  sound : SoundBut stale s
  other : SoundBut stale t

section

open Plan (Tidy settle)

variable {env : Env} {cutoff : Option Span} {stale : Option Int} {s t : State}

/-- What comes of twins, if it is the same but for the caches, and the store still answers. -/
theorem Twin.next {s' t' : State} {entry : Option Int} (twin : Twin stale s t)
    (store : t'.store = s'.store) (limiter : t'.limiter = s'.limiter) (clock : t'.clock = s'.clock)
    (up : s'.store.available = s.store.available) (sound : SoundBut entry s')
    (other : SoundBut entry t') : Twin entry s' t' :=
  ⟨store, limiter, clock, up.trans twin.up, sound, other⟩

theorem Twin.counted (twin : Twin none s t) (q : Request) (ending ending' : Ending Response) :
    Twin none (ending.counted q s) (ending'.counted q t) := by
  refine twin.next ?_ ?_ ?_ (congrArg _ (ending.counted_store q s)) ?_ ?_
  · rw [Ending.counted_store, Ending.counted_store, twin.store]
  · rw [Ending.counted_limiter, Ending.counted_limiter, twin.limiter]
  · rw [Ending.counted_clock, Ending.counted_clock, twin.clock]
  · exact twin.sound.congr (ending.counted_store q s) (ending.counted_identities q s)
  · exact twin.other.congr (ending'.counted_store q t) (ending'.counted_identities q t)

/-- A call is answered alike. -/
theorem performCall_twin (cutoff : Option Span) (prompt : env.delay = 0) (proper : env.now.Proper)
    (twin : Twin none s t) (c : Store.Call) :
    ∃ answer s' t', performCall env cutoff c s = (some answer, s') ∧
      performCall env cutoff c t = (some answer, t') ∧ Twin (c.touched answer) s' t' := by
  rw [performCall_of_prompt prompt, performCall_of_prompt prompt, twin.store]
  refine ⟨_, _, _, rfl, rfl, ?_⟩
  refine twin.next rfl twin.limiter twin.clock (Store.perform_available _ _ _) ?_ ?_
  · exact twin.sound.perform proper c rfl rfl
  · have called : SoundBut (c.touched (t.store.perform env.now c).1)
        { t with store := (t.store.perform env.now c).2 } := twin.other.perform proper c rfl rfl
    rwa [twin.store] at called

theorem Twin.rest (twin : Twin none s t) : Twin none s.rest t.rest := by
  have turn : t.rest.limiter = s.rest.limiter := by
    unfold State.rest State.catchUp
    rw [twin.limiter, twin.clock]
    split
    · rfl
    · exact twin.limiter
  refine twin.next ?_ turn ?_ (congrArg _ (State.rest_store s)) ?_ ?_
  · rw [State.rest_store, State.rest_store, twin.store]
  · rw [State.rest_clock, State.rest_clock, twin.clock]
  · exact twin.sound.congr (State.rest_store s) (State.rest_identities s)
  · exact twin.other.congr (State.rest_store t) (State.rest_identities t)

theorem Step.perform_twin (cutoff : Option Span) (prompt : env.delay = 0) (proper : env.now.Proper)
    (twin : Twin none s t) {step : Step} (fine : step.plain = true) :
    ∃ answer s' t', step.perform env cutoff s = (some answer, s') ∧
      step.perform env cutoff t = (some answer, t') ∧ Twin none s' t' := by
  cases step with
  | call c =>
    obtain ⟨answer, s', t', first, second, called⟩ :=
      performCall_twin cutoff prompt proper twin c
    rw [touched_of_plain fine] at called
    exact ⟨answer, s', t', first, second, called⟩
  | limiterStats =>
    refine ⟨_, s, t, rfl, ?_, twin⟩
    rw [Step.perform, twin.limiter]
  | allow client =>
    have same : t.limiter.allow t.clock client = s.limiter.allow s.clock client := by
      rw [twin.limiter, twin.clock]
    refine ⟨(s.limiter.allow s.clock client).1,
      { s with limiter := (s.limiter.allow s.clock client).2 },
      { t with limiter := (t.limiter.allow t.clock client).2 }, rfl, ?_, ?_⟩
    · rw [← same]
      rfl
    · exact twin.next twin.store (congrArg Prod.snd same) twin.clock rfl
        (twin.sound.congr rfl rfl) (twin.other.congr rfl rfl)
  | count series =>
    exact ⟨(), s.count series, t.count series, rfl, rfl, twin.next twin.store twin.limiter
      twin.clock rfl (twin.sound.congr rfl rfl) (twin.other.congr rfl rfl)⟩
  | pause => exact ⟨(), s.rest, t.rest, rfl, rfl, twin.rest⟩
  | _ => cases fine

/-- A user is found alike, whatever the two caches hold. -/
theorem resolve_twin (cutoff : Option Span) (prompt : env.delay = 0) (proper : env.now.Proper)
    (twin : Twin none s t) (id : Int) :
    ∃ found s' t', (resolve id).run env cutoff s = (.done found, s') ∧
      (resolve id).run env cutoff t = (.done found, t') ∧ Twin none s' t' := by
  have up : t.store.available = true := twin.store ▸ twin.up
  obtain ⟨s', first, store, limiter, clock⟩ := resolve_calm prompt twin.up twin.sound cutoff id
  obtain ⟨t', second, store', limiter', clock'⟩ := resolve_calm prompt up twin.other cutoff id
  have sound : Sound ((resolve id).run env cutoff s).2 := (resolve_sound proper twin.sound id).1
  have other : Sound ((resolve id).run env cutoff t).2 := (resolve_sound proper twin.other id).1
  rw [first] at sound
  rw [second] at other
  rw [twin.store] at second
  refine ⟨_, s', t', first, second, twin.next ?_ ?_ ?_ (congrArg _ store) sound other⟩
  · rw [store', store, twin.store]
  · rw [limiter', limiter, twin.limiter]
  · rw [clock', clock, twin.clock]

/-- Dropping the entry that may be stale in both. -/
theorem settle_twin {α : Type} {p : Plan α} {entry : Option Int} (twin : Twin entry s t)
    (rest : ∀ s t, Twin none s t → (p.run env cutoff t).1 = (p.run env cutoff s).1 ∧
      Twin none (p.run env cutoff s).2 (p.run env cutoff t).2) :
    ((settle entry p).run env cutoff t).1 = ((settle entry p).run env cutoff s).1 ∧
      Twin none ((settle entry p).run env cutoff s).2 ((settle entry p).run env cutoff t).2 := by
  cases entry with
  | none => exact rest s t twin
  | some id =>
    exact rest _ _ (twin.next twin.store twin.limiter twin.clock rfl twin.sound.evict
      twin.other.evict)

theorem Plan.Tidy.twin {α : Type} {p : Plan α} (tidy : Tidy p) (cutoff : Option Span)
    (prompt : env.delay = 0) (proper : env.now.Proper) (twin : Twin none s t) :
    (p.run env cutoff t).1 = (p.run env cutoff s).1 ∧
      Twin none (p.run env cutoff s).2 (p.run env cutoff t).2 := by
  induction tidy generalizing s t with
  | done value => exact ⟨rfl, twin⟩
  | halt why => exact ⟨rfl, twin⟩
  | @plain first next fine _ ih =>
    obtain ⟨answer, s', t', one, two, twin⟩ :=
      Step.perform_twin cutoff prompt proper twin fine
    simp only [run, one, two]
    exact ih answer twin
  | @resolve id next _ ih =>
    obtain ⟨found, s', t', one, two, twin⟩ :=
      resolve_twin cutoff prompt proper twin id
    simp only [run_then, one, two]
    exact ih found twin
  | @settled c rest _ ih =>
    obtain ⟨answer, s', t', one, two, twin⟩ :=
      performCall_twin cutoff prompt proper twin c
    simp only [run, Step.perform, one, two]
    exact settle_twin twin fun _ _ => ih answer

theorem then_twin {α β : Type} {p : Plan α} {f : α → Plan β} (tidy : Tidy p)
    (prompt : env.delay = 0) (proper : env.now.Proper) (twin : Twin none s t)
    (rest : ∀ value s t, Twin none s t →
      Twin none ((f value).run env cutoff s).2 ((f value).run env cutoff t).2) :
    Twin none ((p >>= f).run env cutoff s).2 ((p >>= f).run env cutoff t).2 := by
  obtain ⟨ends, after⟩ := tidy.twin cutoff prompt proper twin
  rw [Plan.run_then, Plan.run_then]
  generalize p.run env cutoff s = first at ends after
  generalize p.run env cutoff t = second at ends after
  obtain ⟨ending, s'⟩ := first
  obtain ⟨_, t'⟩ := second
  cases ends
  cases ending with
  | done value => exact rest value s' t' after
  | halted why => exact after
  | cutOff => exact after

theorem handle_identities_twin (q : Request) (twin : Twin none s t) :
    Twin none ((handle env q .identities ()).run env cutoff s).2
      ((handle env q .identities ()).run env cutoff t).2 := by
  have sound : Sound ((handle env q .identities ()).run env cutoff s).2 :=
    handle_identities_sound q twin.sound
  have other : Sound ((handle env q .identities ()).run env cutoff t).2 :=
    handle_identities_sound q twin.other
  rw [handle_identities] at sound other ⊢
  revert sound other
  split
  · exact twin.next twin.store twin.limiter twin.clock rfl
  · exact twin.next twin.store twin.limiter twin.clock rfl

/-- A request that is not for the cache ends alike, and every request leaves twins behind. -/
theorem planRun_twin (prompt : env.delay = 0) (proper : env.now.Proper) (q : Request)
    (twin : Twin none s t) :
    (resource? env.config q ≠ some .identities → (planRun env q t).1 = (planRun env q s).1) ∧
      Twin none (planRun env q s).2 (planRun env q t).2 := by
  have moment : lastMoment env t = lastMoment env s := by
    rw [lastMoment, lastMoment, twin.clock]
  rw [planRun, planRun, moment]
  by_cases whole : resource? env.config q = some .identities
  · refine ⟨fun other => absurd whole other, ?_⟩
    rw [plan_of_resource whole]
    refine then_twin admission_tidy prompt proper twin fun _ s t twin => ?_
    refine then_twin (enter_tidy .identities) prompt proper twin fun _ s t twin => ?_
    split
    · exact handle_identities_twin q twin
    · exact twin
  · obtain ⟨ends, after⟩ :=
      (plan_tidy whole).twin (some (lastMoment env s)) prompt proper twin
    exact ⟨fun _ => ends, after⟩

/-- A request that is not for the cache is answered alike, and every request leaves twins behind. -/
theorem respond_twin (prompt : env.delay = 0) (proper : env.now.Proper) (q : Request)
    (twin : Twin none s t) :
    (resource? env.config q ≠ some .identities →
      (respond env q t).1 = (respond env q s).1) ∧
      Twin none (respond env q s).2 (respond env q t).2 := by
  by_cases ready : started env q
  · obtain ⟨ends, after⟩ := planRun_twin prompt proper q twin
    rw [respond_eq, respond_eq, answer_of_run ready, answer_of_run ready]
    exact ⟨fun other => by rw [ends other], after.counted q _ _⟩
  · rw [respond_eq, respond_eq]
    rcases answer_of_refused ready with late | large
    · rw [late, late]
      exact ⟨fun _ => rfl, twin⟩
    · rw [large, large]
      exact ⟨fun _ => rfl, twin⟩

end

/-- The store answers throughout, and at once. -/
def Event.Calm : Event → Prop
  | .request o _ => o.delay = 0
  | .setAvailable up => up = true
  | _ => True

def Setting.withCache (setting : Setting) (cache : Config.Cache) : Setting :=
  { setting with config := { setting.config with cache } }

theorem Event.next_withCache (setting : Setting) (cache : Config.Cache) (s : State) (e : Event) :
    e.next (setting.withCache cache) s = e.next setting s := by
  cases e with
  | request o q => exact congrArg Prod.snd (respond_withCache cache (setting.env o) q s)
  | _ => rfl

section

variable {s t : State}

theorem twin_ofConfig (setting : Setting) (cache other : Config.Cache) :
    Twin none (State.ofConfig (setting.withCache cache).config)
      (State.ofConfig (setting.withCache other).config) :=
  ⟨rfl, rfl, rfl, rfl, sound_ofConfig _, sound_ofConfig _⟩

theorem Event.next_twin (setting : Setting) (twin : Twin none s t) {e : Event} (calm : e.Calm) :
    Twin none (e.next setting s) (e.next setting t) := by
  have sound : Sound (e.next setting s) := e.next_sound setting twin.sound
  have other : Sound (e.next setting t) := e.next_sound setting twin.other
  have performed (now : Time.Stamp) (c : Store.Call) :
      (t.store.perform now c).2 = (s.store.perform now c).2 := by
    rw [twin.store]
  cases e with
  | request o q =>
    have prompt : (setting.env o).delay = 0 := calm
    exact (respond_twin prompt o.proper q twin).2
  | seed o new active =>
    exact twin.next (performed o.now (.seedUser new active)) twin.limiter twin.clock
      (Store.perform_available s.store o.now (.seedUser new active)) sound other
  | putRole o name level =>
    exact twin.next (performed o.now (.putRole name level)) twin.limiter twin.clock
      (Store.perform_available s.store o.now (.putRole name level)) sound other
  | setAvailable up =>
    refine twin.next ?_ twin.limiter twin.clock (calm.trans twin.up.symm) sound other
    rw [Event.next, Event.next, twin.store]
  | advance span =>
    have later : Twin none { s with clock := s.clock + span } { t with clock := t.clock + span } :=
      twin.next twin.store twin.limiter (congrArg (· + span) twin.clock) rfl
        (twin.sound.congr rfl rfl) (twin.other.congr rfl rfl)
    exact later.rest

theorem after_twin (setting : Setting) (twin : Twin none s t) {history : List Event}
    (calm : ∀ e ∈ history, e.Calm) :
    Twin none (setting.after s history) (setting.after t history) := by
  induction history generalizing s t with
  | nil => exact twin
  | cons e rest ih =>
    exact ih (e.next_twin setting twin (calm e List.mem_cons_self))
      fun later among => calm later (List.mem_cons_of_mem e among)

end

/-- Two services that differ in the configuration of their caches only come to twins. -/
theorem course_twin (setting : Setting) (cache other : Config.Cache) {history : List Event}
    (calm : ∀ e ∈ history, e.Calm) :
    Twin none ((setting.withCache cache).course history)
      ((setting.withCache other).course history) := by
  have same (cache : Config.Cache) (s : State) :
      (setting.withCache cache).after s history = setting.after s history := by
    rw [Setting.after, Setting.after]
    exact congrArg (fun f => history.foldl f s)
      (funext fun s => funext fun e => e.next_withCache setting cache s)
  rw [Setting.course, Setting.course, same, same]
  exact after_twin setting (twin_ofConfig setting cache other) calm

/-- In a session in which the store answers throughout, and at once, it makes no difference how the
cache of identities is configured, or whether there is one: the store comes to the same, and each
request but those for the cache itself is answered alike. -/
theorem cache_transparent (setting : Setting) (cache other : Config.Cache) (history : List Event)
    (calm : ∀ e ∈ history, e.Calm) :
    ((setting.withCache other).course history).store =
        ((setting.withCache cache).course history).store ∧
      ∀ before o q rest, history = before ++ .request o q :: rest →
        resource? setting.config q ≠ some .identities →
        (respond ((setting.withCache other).env o) q ((setting.withCache other).course before)).1 =
          (respond ((setting.withCache cache).env o) q
            ((setting.withCache cache).course before)).1 := by
  refine ⟨(course_twin setting cache other calm).store, ?_⟩
  rintro before o q rest rfl elsewhere
  have twin := course_twin setting cache other
    fun e among => calm e (List.mem_append_left _ among)
  have prompt : (setting.env o).delay = 0 :=
    calm (.request o q) (List.mem_append_right _ List.mem_cons_self)
  have env (cache : Config.Cache) :
      (setting.withCache cache).env o = (setting.env o).withCache cache := rfl
  rw [env, env, respond_withCache, respond_withCache]
  exact (respond_twin prompt o.proper q twin).1 elsewhere

namespace Sample

/-- The first member asks for a post, and again a second later. -/
def firstVisit : List Event :=
  [.seed start ⟨"ada", "ada@example.com", "", "user"⟩ true, .request start (request .get),
    .advance (Span.ofSeconds 1)]

def visits : List Event := firstVisit ++ [.request start (request .get)]

def visited : Setting := { config }

theorem visits_calm : ∀ e ∈ visits, e.Calm := by
  intro e among
  simp only [visits, firstVisit, List.cons_append, List.nil_append, List.mem_cons,
    List.not_mem_nil, or_false] at among
  rcases among with rfl | rfl | rfl | rfl
  · trivial
  · exact rfl
  · trivial
  · exact rfl

end Sample

/-- The second time the cache knows the first member, if there is one, and the answer is the
same. -/
theorem second_visit_alike :
    (∀ e ∈ Sample.visits, e.Calm) ∧
    Sample.visits = Sample.firstVisit ++ .request Sample.start (Sample.request .get) :: [] ∧
    resource? Sample.visited.config (Sample.request .get) ≠ some .identities ∧
    ((Sample.visited.withCache { enabled := true }).course Sample.visits).store =
      ((Sample.visited.withCache { enabled := false }).course Sample.visits).store ∧
    (respond ((Sample.visited.withCache { enabled := true }).env Sample.start) (Sample.request .get)
        ((Sample.visited.withCache { enabled := true }).course Sample.firstVisit)).1 =
      (respond ((Sample.visited.withCache { enabled := false }).env Sample.start)
        (Sample.request .get)
        ((Sample.visited.withCache { enabled := false }).course Sample.firstVisit)).1 := by
  have moment : Sample.visits =
    Sample.firstVisit ++ .request Sample.start (Sample.request .get) :: [] := rfl
  have elsewhere : resource? Sample.visited.config (Sample.request .get) ≠ some .identities := by
    have found : resource? Sample.visited.config (Sample.request .get) = some (.post "1") :=
      Sample.resource 0 .get
    rw [found]
    exact nofun
  have alike := cache_transparent Sample.visited { enabled := false } { enabled := true }
    Sample.visits Sample.visits_calm
  exact ⟨Sample.visits_calm, moment, elsewhere, alike.1,
    alike.2 Sample.firstVisit Sample.start (Sample.request .get) [] moment elsewhere⟩

end Agora.Service
