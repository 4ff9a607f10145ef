import Agora.Proofs.SessionAccounts

/-!
Which posts there are. What one request of a session brings about prevails until another undoes it,
and if each request is known to do the one, the other or neither, the answers of a session tell what
is so at its end. So there is a post if and only if a request has written it, and was told so, and
none has been told since that it deleted it.
-/

set_option autoImplicit false

namespace Agora.Service

open Http (Method Request Response isSuccess)
open Store (Post User)

/-- The event is a request of which this can be told. -/
def Event.Tells (setting : Setting) (told : Env → Request → State → Prop) (s : State) :
    Event → Prop
  | .request o q => told (setting.env o) q s
  | _ => False

/-- A session has seen a request of one kind, and none of another kind since. -/
def Prevails (setting : Setting) (begins ends : Env → Request → State → Prop)
    (history : List Event) : Prop :=
  ∃ before e rest, history = before ++ e :: rest ∧ e.Tells setting begins (setting.course before) ∧
    ∀ middle later remaining, rest = middle ++ later :: remaining →
      ¬later.Tells setting ends (setting.course (before ++ e :: middle))

section

variable {setting : Setting} {begins ends other : Env → Request → State → Prop}
  {history : List Event}

theorem not_prevails_nil : ¬Prevails setting begins ends [] := by
  rintro ⟨before, e, rest, moment, _⟩
  cases before <;> cases moment

/-- After one more event that prevails which it begins, or which has prevailed and it does not end. -/
theorem prevails_concat {e : Event} :
    Prevails setting begins ends (history ++ [e]) ↔
      e.Tells setting begins (setting.course history) ∨
        Prevails setting begins ends history ∧ ¬e.Tells setting ends (setting.course history) := by
  constructor
  · rintro ⟨before, first, rest, moment, begun, lasts⟩
    rcases List.eq_nil_or_concat rest with rfl | ⟨rest, last, rfl⟩
    · obtain ⟨rfl, same⟩ := List.append_inj' moment rfl
      cases same
      exact .inl begun
    · rw [List.concat_eq_append, ← List.cons_append, ← List.append_assoc] at moment
      obtain ⟨rfl, same⟩ := List.append_inj' moment rfl
      cases same
      refine .inr ⟨⟨before, first, rest, rfl, begun, ?_⟩, lasts rest e [] ?_⟩
      · rintro middle later remaining rfl
        exact lasts middle later (remaining ++ [e]) (by simp)
      · rw [List.concat_eq_append]
  · rintro (begun | ⟨⟨before, first, rest, rfl, begun, lasts⟩, last⟩)
    · refine ⟨history, e, [], rfl, begun, ?_⟩
      intro middle later remaining moment
      cases middle <;> cases moment
    · refine ⟨before, first, rest ++ [e], by simp, begun, ?_⟩
      intro middle later remaining moment
      rcases List.eq_nil_or_concat remaining with rfl | ⟨remaining, final, rfl⟩
      · obtain ⟨rfl, same⟩ := List.append_inj' moment rfl
        cases same
        exact last
      · rw [List.concat_eq_append, ← List.cons_append, ← List.append_assoc] at moment
        obtain ⟨rfl, same⟩ := List.append_inj' moment rfl
        exact lasts middle later remaining rfl

theorem Prevails.mono (standing : Prevails setting begins other history)
    (among : ∀ env q s, ends env q s → other env q s) : Prevails setting begins ends history := by
  obtain ⟨before, e, rest, moment, begun, lasts⟩ := standing
  refine ⟨before, e, rest, moment, begun, fun middle later remaining here ended => ?_⟩
  refine lasts middle later remaining here ?_
  cases later with
  | request o q => exact among _ _ _ ended
  | _ => exact ended

theorem Prevails.unless (standing : Prevails setting begins ends history)
    (unseen : ∀ before o q rest, history = before ++ .request o q :: rest →
      ¬other (setting.env o) q (setting.course before)) :
    Prevails setting begins (fun env q s => ends env q s ∨ other env q s) history := by
  obtain ⟨before, e, rest, rfl, begun, lasts⟩ := standing
  refine ⟨before, e, rest, rfl, begun, ?_⟩
  rintro middle later remaining rfl ended
  cases later with
  | request o q =>
    rcases ended with ended | seen
    · exact lasts middle _ remaining rfl ended
    · exact unseen (before ++ e :: middle) o q remaining (by simp) seen
  | _ => exact ended

/-- Of two kinds of requests that end one another, one prevails at most. -/
theorem Prevails.exclusive (apart : ∀ env q s, begins env q s → ¬ends env q s)
    (one : Prevails setting begins ends history) : ¬Prevails setting ends begins history := by
  have never (s : State) (e : Event) (begun : e.Tells setting begins s) :
      ¬e.Tells setting ends s := by
    cases e with
    | request o q => exact apart _ _ _ begun
    | _ => cases begun
  induction history using List.reverseRecOn with
  | nil => exact not_prevails_nil
  | append_singleton history e ih =>
    intro other
    rcases prevails_concat.1 one with begun | ⟨stood, lasts⟩
    · rcases prevails_concat.1 other with ended | ⟨_, ends⟩
      · exact never _ _ begun ended
      · exact ends begun
    · rcases prevails_concat.1 other with ended | ⟨stands, _⟩
      · exact lasts ended
      · exact ih stood stands

/-- What requests of one kind bring about, of posts and of who follows whom, and those of another
kind undo, is so while one prevails. -/
theorem course_iff_prevails (holds : Store.Tables → Prop) (fresh : ¬holds {})
    (within : ∀ t after : Store.Tables, after.posts = t.posts → after.follows = t.follows →
      (holds after ↔ holds t))
    (step : ∀ (o : Occasion) q s, Sound s →
      (holds (respond (setting.env o) q s).2.store.tables ↔
        begins (setting.env o) q s ∨ holds s.store.tables ∧ ¬ends (setting.env o) q s))
    (history : List Event) :
    holds (setting.course history).store.tables ↔ Prevails setting begins ends history := by
  have outside (now : Time.Stamp) (c : Store.Call) (posts : c.concernsPosts = false)
      (follows : c.concernsFollows = false) (s : Store) :
      holds (s.perform now c).2.tables ↔ holds s.tables := by
    have framed := Store.perform_framed s now c
    exact within _ _ (framed.posts posts) (framed.follows follows)
  induction history using List.reverseRecOn with
  | nil => exact iff_of_false fresh not_prevails_nil
  | append_singleton history e ih =>
    have before : Prevails setting begins ends history ↔
        holds (setting.course history).store.tables := ih.symm
    rw [prevails_concat, before, setting.course_append_cons]
    show holds (e.next setting (setting.course history)).store.tables ↔ _
    cases e with
    | request o q => exact step o q _ (setting.course_sound history)
    | seed o new active =>
      simp only [Event.Tells, false_or, not_false_eq_true, and_true]
      exact outside o.now (.seedUser new active) rfl rfl _
    | putRole o name level =>
      simp only [Event.Tells, false_or, not_false_eq_true, and_true]
      exact outside o.now (.putRole name level) rfl rfl _
    | setAvailable up => simp only [Event.Tells, false_or, not_false_eq_true, and_true, Event.next]
    | advance span =>
      simp only [Event.Tells, false_or, not_false_eq_true, and_true, Event.next, State.advance,
        State.rest_store]

end

/-- The request writes a post, and is answered with it. -/
structure Writes (env : Env) (q : Request) (s : State) (p : Post) : Prop where
  posts : q.method = .post
  found : resource? env.config q = some .posts
  status : (respond env q s).1.status = 201
  body : (respond env q s).1.body = .json (.object [("data", p.toJson)])

section

variable {env : Env} {cutoff : Option Time.Span} {q : Request} {s after : State} {id author : Int}

theorem Writes.unique {p other : Post} (one : Writes env q s p) (two : Writes env q s other) :
    p.id = other.id ∧ p.userId = other.userId := by
  have body := one.body.symm.trans two.body
  simp only [Post.toJson, Post.members, Http.Body.json.injEq, Json.Value.object.injEq,
    List.cons.injEq, Prod.mk.injEq, Json.Value.whole.injEq, true_and, and_true] at body
  exact ⟨body.1, body.2.2.1⟩

end

end Agora.Service
