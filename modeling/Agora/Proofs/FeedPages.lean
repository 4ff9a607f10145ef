import Agora.Proofs.FollowHistory

set_option autoImplicit false

namespace Agora

open Feed (Order Query)

namespace Store.Tables

theorem insertOldest_perm (p : Post) (posts : List Post) :
    (insertOldest p posts).Perm (p :: posts) := by
  induction posts with
  | nil => exact .refl _
  | cons q rest ih =>
    rw [insertOldest]
    split
    · exact .refl _
    · exact (ih.cons q).trans (.swap p q rest)

theorem oldestFirst_perm (posts : List Post) : (oldestFirst posts).Perm posts := by
  induction posts with
  | nil => exact .refl _
  | cons p rest ih => exact (insertOldest_perm p (oldestFirst rest)).trans (ih.cons p)

/-- Whatever the order, the posts are the same. -/
theorem arrange_perm (order : Order) (posts : List Post) : (arrange order posts).Perm posts := by
  cases order with
  | ascending => exact oldestFirst_perm posts
  | descending => exact (List.reverse_perm _).trans (oldestFirst_perm posts)

/-- All that a query shows to a viewer, page for page. -/
def shown (viewer : Int) (query : Query) (t : Tables) : List FeedItem :=
  (arrange query.order (t.selected viewer query)).map t.feedItem

section

variable (viewer : Int) (query : Query) (t : Tables)

theorem feed_eq : t.feed viewer query =
    .ok (((t.shown viewer query).drop query.offset).take query.limit, t) := by
  rw [feed, shown, ← List.map_drop, ← List.map_take]

end

end Store.Tables

theorem Store.perform_feed {s : Store} (up : s.available = true) (now : Time.Stamp) (viewer : Int)
    (query : Query) :
    s.perform now (.feed viewer query) =
      (.ok (((s.tables.shown viewer query).drop query.offset).take query.limit), s) :=
  perform_of_ok up (Tables.feed_eq viewer query s.tables)

namespace Service

open Http (Request Response isSuccess)
open Json (Value)
open Store (FeedItem User)
open Time (Span)

/-- The request asks for a page of its caller's feed. -/
structure Browses (v : Int) (query : Query) (env : Env) (q : Request) : Prop where
  gets : q.method = .get
  found : resource? env.config q = some .feed
  caller : Credential.bearer env.config.auth.token env.now.second q.headers = .ok v
  asks : readQuery q = .ok query

/-- The request asks for a page of its caller's feed, and is answered with these documents. -/
structure Shows (v : Int) (query : Query) (items : List Value) (env : Env) (q : Request)
    (s : State) : Prop extends Browses v query env q where
  status : (respond env q s).1.status = 200
  body : (respond env q s).1.body = .json (.object [("data", .array items)])

/-- The documents of a page that the tables give. -/
def pageOf (v : Int) (query : Query) (t : Store.Tables) : List Value :=
  (((t.shown v query).drop query.offset).take query.limit).map FeedItem.toJson

section

variable {env : Env} {cutoff : Option Span} {q : Request} {s after : State} {v : Int}
  {query : Query} {items : List Value}

/-- A request for a feed changes nothing in the store. -/
theorem browsing_keeps (found : resource? env.config q = some .feed) :
    (respond env q s).2.store = s.store := by
  refine respond_of_makes (P := fun store => store = s.store) ?_ rfl
  intro r found' c makes _ store same
  cases found.symm.trans found'
  cases c with
  | feed viewer query => exact (Store.perform_of_reads rfl).trans same
  | _ => cases makes

theorem showFeed_done {caller : User} {response : Response}
    (ended : (showFeed q caller).run env cutoff s = (.done response, after)) :
    ∃ query, readQuery q = .ok query ∧
      response = .data 200 (.array (pageOf caller.id query s.store.tables)) := by
  obtain ⟨query, accepting, accepted, rest⟩ := Plan.run_then_done ended
  obtain ⟨page, called, made, rest⟩ := Plan.run_then_done rest
  cases rest
  obtain ⟨asks, rfl⟩ := accept_done accepted
  obtain ⟨_, performed, _⟩ := Plan.run_call_done made
  rw [Store.perform_feed (Store.available_of_ok performed)] at performed
  obtain ⟨shown, _⟩ := Prod.mk.inj performed
  cases shown
  exact ⟨query, asks, rfl⟩

/-- A store that answers at once gives the page that is asked for. -/
theorem showFeed_run (asks : readQuery q = .ok query) (prompt : env.delay = 0)
    (up : s.store.available = true) (caller : User) :
    ((showFeed q caller).run env cutoff s).1 =
      .done (.data 200 (.array (pageOf caller.id query s.store.tables))) := by
  rw [showFeed, asks, Plan.accept_then, Plan.call_then]
  change ((Plan.step (.call (.feed caller.id query)) _).run env cutoff s).1 = _
  rw [Plan.run, Step.perform, performCall_of_prompt prompt, Store.perform_feed up]
  rfl

/-- The page that a request is shown is the one that the tables give, and its caller is stored. -/
theorem Shows.page (shows : Shows v query items env q s) (proper : env.now.Proper)
    (sound : Sound s) :
    s.store.tables.accounts.contains v = true ∧ items = pageOf v query s.store.tables := by
  have success : isSuccess (respond env q s).1.status = true := isSuccess_of_status shows.status rfl
  obtain ⟨admitted, caller, entered, response, after, admits, enters, _, handled, answered, _⟩ :=
    passed_of_success shows.found success
  have kept : admitted.store = s.store := admission_keeps.of_run admits
  have coherent : Sound admitted := admission_tidy.sound_of_run proper sound admits
  obtain ⟨known, same, a, stored, _⟩ := member_done proper coherent enters
  cases shows.caller.symm.trans known
  obtain ⟨other, asks, rfl⟩ := showFeed_done handled
  cases shows.asks.symm.trans asks
  have whole : q.method ≠ .head := by
    rw [shows.gets]
    decide
  have body := shows.body
  rw [answered, finish_body, if_neg whole, same, kept] at body
  rw [kept] at stored
  constructor
  · rw [Table.Ledger.contains, stored]
    rfl
  · cases body
    rfl

/-- Whoever is stored and admitted, and asks for a page, is shown one by a store that answers at
once. -/
theorem Browses.answered (browses : Browses v query env q) (proper : env.now.Proper)
    (sound : Sound s) (ready : started env q) (prompt : env.delay = 0)
    (up : s.store.available = true) (stored : s.store.tables.accounts.contains v = true)
    {admitted : State}
    (admits : (admission env q).run env (some (lastMoment env s)) s = (.done (), admitted)) :
    Shows v query (pageOf v query s.store.tables) env q s := by
  have kept : admitted.store = s.store := admission_keeps.of_run admits
  have coherent : Sound admitted := admission_tidy.sound_of_run proper sound admits
  obtain ⟨a, row⟩ := Table.Ledger.contains_iff.1 stored
  obtain ⟨passed, passes, same⟩ :=
    member_calm prompt (kept ▸ up) coherent browses.caller (kept ▸ row) (some (lastMoment env s))
  have number : a.user.id = v := Table.Ledger.number_of_get? row
  have served : serve env q .feed = member env q >>= showFeed q := by
    have serves : Resource.feed.serves q.method = true := by
      rw [browses.gets]
      rfl
    simp only [serve, enter, handle, serves, ↓reduceIte]
  have ran : (planRun env q s).1 =
      .done (.data 200 (.array (pageOf v query s.store.tables))) := by
    have page := @showFeed_run env (some (lastMoment env s)) q passed query browses.asks prompt
      ((same.trans kept).symm ▸ up) a.user
    rw [number, same, kept] at page
    rw [planRun, plan_of_resource browses.found, Plan.run_then, admits]
    dsimp only
    rw [served, Plan.run_then, passes]
    exact page
  have answer : (respond env q s).1 =
      finish env q (.data 200 (.array (pageOf v query s.store.tables))) := by
    rw [respond_eq, answer_of_run ready, ran]
    rfl
  have whole : q.method ≠ .head := by
    rw [browses.gets]
    decide
  refine ⟨browses, ?_, ?_⟩
  · rw [answer, finish_status]
    rfl
  · rw [answer, finish_body, if_neg whole]
    rfl

end

end Service

end Agora
