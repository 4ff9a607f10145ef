import Agora.Proofs.PostOperations
import Agora.Proofs.StoreHistory
import Mathlib.Data.List.Induction
import Mathlib.Data.List.Nodup

set_option autoImplicit false

namespace Agora.Store

open Time (Stamp)

/-- A change of a post that was made: when, what was asked for, and the post that was answered. -/
structure Edit where
  now : Stamp
  update : PostUpdate
  answer : Post

/-- The change of a post that an operation makes, if it makes one. -/
def edit? (id : Int) (s : Store) : Event → Option Edit
  | ⟨now, .updatePost u⟩ =>
    if u.id = id then (s.perform now (.updatePost u)).1.toOption.map fun p => ⟨now, u, p⟩ else none
  | _ => none

/-- The post that an operation creates, if it creates one. -/
def creation? (s : Store) : Event → Option Post
  | ⟨now, .createPost userId title content tags⟩ =>
    (s.perform now (.createPost userId title content tags)).1.toOption
  | _ => none

/-- The changes of a post that a history of a new store makes, in order. -/
def edits (id : Int) (history : List Event) : List Edit := yields (edit? id) {} history

/-- The posts that a history of a new store creates, in order. -/
def creations (history : List Event) : List Post := yields creation? {} history

/-- A post as it was created, with changes made to it: each text is the last that one of them gave,
or else the first one. -/
def Post.revised (created : Post) (made : List Edit) : Post :=
  { created with
    version := made.length
    title := (made.filterMap (·.update.title)).getLastD created.title
    content := (made.filterMap (·.update.content)).getLastD created.content
    updatedAt := (made.map (·.now)).getLastD created.updatedAt }

theorem Post.revised_nil {created : Post} (first : created.version = 0) :
    created.revised [] = created := by
  cases created
  cases first
  rfl

theorem getLastD_filterMap_concat {α β : Type} (f : α → Option β) (as : List α) (a : α) (b : β) :
    ((as ++ [a]).filterMap f).getLastD b = (f a).getD ((as.filterMap f).getLastD b) := by
  rw [List.filterMap_append]
  cases given : f a with
  | none => simp [given]
  | some c => simp [given]

theorem Post.revised_concat (created : Post) (made : List Edit) (e : Edit) :
    created.revised (made ++ [e]) = Tables.changed e.now e.update (created.revised made) := by
  simp only [revised, Tables.changed, getLastD_filterMap_concat, List.length_append,
    List.length_singleton, List.map_append, List.map_singleton, List.getLastD_concat]
  rfl

/-- What one operation can do to the post of a number, and what the records note of it. -/
inductive PostStep (id : Int) (s : Store) (e : Event) : Prop where
  | kept (row : (e.next s).tables.posts.get? id = s.tables.posts.get? id)
      (next : (e.next s).tables.posts.next = s.tables.posts.next)
      (unedited : edit? id s e = none) (uncreated : creation? s e = none)
  | createdElsewhere (made : Post) (apart : made.id ≠ id)
      (row : (e.next s).tables.posts.get? id = s.tables.posts.get? id)
      (next : (e.next s).tables.posts.next = s.tables.posts.next + 1)
      (number : made.id = s.tables.posts.next)
      (unedited : edit? id s e = none) (created : creation? s e = some made)
  | created (made : Post) (first : made.version = 0) (here : made.id = id)
      (row : (e.next s).tables.posts.get? id = some made)
      (number : made.id = s.tables.posts.next)
      (unedited : edit? id s e = none) (created : creation? s e = some made)
  | changed (p : Post) (u : PostUpdate) (found : s.tables.posts.get? id = some p)
      (version : p.version = u.version)
      (row : (e.next s).tables.posts.get? id = some (Tables.changed e.now u p))
      (edited : edit? id s e = some ⟨e.now, u, Tables.changed e.now u p⟩)
      (uncreated : creation? s e = none)
  | deleted (p : Post) (found : s.tables.posts.get? id = some p)
      (row : (e.next s).tables.posts.get? id = none)
      (next : (e.next s).tables.posts.next = s.tables.posts.next)
      (unedited : edit? id s e = none) (uncreated : creation? s e = none)

theorem postStep_of_other (id : Int) (s : Store) (now : Stamp) {c : Call}
    (other : c.concernsPosts = false) : PostStep id s ⟨now, c⟩ := by
  have same : (Event.next s ⟨now, c⟩).tables.posts = s.tables.posts := (perform_framed s now c).posts other
  refine .kept (by rw [same]) (by rw [same]) ?_ ?_
  · cases c <;> first | rfl | cases other
  · cases c <;> first | rfl | cases other

section

variable {s : Store} (up : s.available = true) (id : Int) (now : Stamp)

include up

theorem postStep_createPost (userId : Int) (title content : String) (tags : List String) :
    PostStep id s ⟨now, .createPost userId title content tags⟩ := by
  have done := perform_createPost up now userId title content tags
  by_cases here : s.tables.posts.next = id
  · refine .created ⟨s.tables.posts.next, 0, userId, title, content, tags, now, now⟩ rfl here
      ?_ rfl rfl ?_
    · simp only [Event.next, done, withPosts, Table.Ledger.get?_add, here, ↓reduceIte]
    · simp only [creation?, done, Except.toOption]
  · have apart : id ≠ s.tables.posts.next := fun equal => here equal.symm
    refine .createdElsewhere ⟨s.tables.posts.next, 0, userId, title, content, tags, now, now⟩ here
      ?_ ?_ rfl rfl ?_
    · simp only [Event.next, done, withPosts, Table.Ledger.get?_add, apart, ↓reduceIte]
    · simp only [Event.next, done, withPosts, Table.Ledger.add]
    · simp only [creation?, done, Except.toOption]

theorem postStep_updatePost (u : PostUpdate) : PostStep id s ⟨now, .updatePost u⟩ := by
  rcases perform_updatePost up now u with ⟨p, found, version, done⟩ | ⟨_, failed⟩
  · by_cases here : u.id = id
    · subst here
      refine .changed p u found version ?_ ?_ rfl
      · simp only [Event.next, done, withPosts, Table.Ledger.get?_modify, found, Option.map_some,
          ↓reduceIte]
      · simp only [edit?, done, Except.toOption, Option.map_some, ↓reduceIte]
    · have apart : id ≠ u.id := fun equal => here equal.symm
      refine .kept ?_ ?_ ?_ rfl
      · simp only [Event.next, done, withPosts, Table.Ledger.get?_modify, apart, ↓reduceIte]
      · simp only [Event.next, done, withPosts, Table.Ledger.modify]
      · simp only [edit?, here, ↓reduceIte]
  · refine .kept ?_ ?_ ?_ rfl
    · simp only [Event.next, failed]
    · simp only [Event.next, failed]
    · simp only [edit?, failed, Except.toOption, Option.map_none, ite_self]

theorem postStep_deletePost (target : Int) : PostStep id s ⟨now, .deletePost target⟩ := by
  rcases perform_deletePost up now target with ⟨p, found, done⟩ | ⟨_, failed⟩
  · by_cases here : id = target
    · subst here
      refine .deleted p found ?_ ?_ rfl rfl
      · simp only [Event.next, done, withPosts, Table.Ledger.get?_remove, ↓reduceIte]
      · simp only [Event.next, done, withPosts, Table.Ledger.remove, Table.Ledger.filter]
    · refine .kept ?_ ?_ rfl rfl
      · simp only [Event.next, done, withPosts, Table.Ledger.get?_remove, here, ↓reduceIte]
      · simp only [Event.next, done, withPosts, Table.Ledger.remove, Table.Ledger.filter]
  · refine .kept ?_ ?_ rfl rfl
    · simp only [Event.next, failed]
    · simp only [Event.next, failed]

theorem postStep (e : Event) : PostStep id s e := by
  obtain ⟨now, c⟩ := e
  cases concerns : c.concernsPosts with
  | false => exact postStep_of_other id s now concerns
  | true =>
    cases c with
    | createPost userId title content tags =>
      exact postStep_createPost up id now userId title content tags
    | updatePost u => exact postStep_updatePost up id now u
    | deletePost target => exact postStep_deletePost up id now target
    | _ => cases concerns

end

/-- The changes named the versions 0, 1, 2 and so on, and left 1, 2, 3 and so on. -/
structure Counted (made : List Edit) : Prop where
  named : made.map (·.update.version) = (List.range made.length).map Int.ofNat
  left : made.map (·.answer.version) = (List.range made.length).map fun n => Int.ofNat (n + 1)

theorem Counted.nil : Counted [] := ⟨rfl, rfl⟩

theorem Counted.concat {made : List Edit} {e : Edit} (counted : Counted made)
    (named : e.update.version = made.length) (left : e.answer.version = made.length + 1) :
    Counted (made ++ [e]) := by
  constructor
  · simp only [List.map_append, counted.named, List.length_append, List.length_singleton,
      List.range_succ, List.map_singleton, named]
    rfl
  · simp only [List.map_append, counted.left, List.length_append, List.length_singleton,
      List.range_succ, List.map_singleton, left]
    rfl

/-- Of the changes that were made, one at most named a given version. -/
theorem Counted.at_most_one {made : List Edit} (counted : Counted made) (version : Int) :
    (made.filter (·.update.version = version)).length ≤ 1 := by
  have distinct : (made.map (·.update.version)).Nodup := by
    rw [counted.named]
    exact List.Nodup.map (fun a b same => Int.ofNat.inj same) List.nodup_range
  have few := List.nodup_iff_count_le_one.mp distinct version
  rw [List.count_eq_countP, List.countP_map, List.countP_eq_length_filter] at few
  simpa only [Function.comp_def, beq_iff_eq, decide_eq_true_eq, Bool.beq_eq_decide_eq] using few

/-- How the post of a number stands after a history. -/
inductive Life (id : Int) (history : List Event) : Prop where
  /-- Its number is still to be given out. -/
  | ahead (later : (ofHistory history).tables.posts.next ≤ id)
      (uncreated : (creations history).filter (·.id = id) = []) (unedited : edits id history = [])
  | present (created : Post) (first : created.version = 0)
      (sole : (creations history).filter (·.id = id) = [created])
      (stored : (ofHistory history).tables.posts.get? id =
        some (created.revised (edits id history)))
  /-- Its number will not be given out again. -/
  | absent (given : id < (ofHistory history).tables.posts.next)
      (missing : (ofHistory history).tables.posts.get? id = none)

theorem Life.start (id : Int) : Life id [] := by
  by_cases later : (ofHistory []).tables.posts.next ≤ id
  · exact .ahead later rfl rfl
  · exact .absent (by omega) rfl

section

variable {id : Int} {history : List Event} {e : Event}

theorem edits_concat : edits id (history ++ [e]) =
    edits id history ++ (edit? id (ofHistory history) e).toList := yields_concat _ _ _ _

theorem creations_concat : creations (history ++ [e]) =
    creations history ++ (creation? (ofHistory history) e).toList := yields_concat _ _ _ _

theorem edits_concat_of_none (unedited : edit? id (ofHistory history) e = none) :
    edits id (history ++ [e]) = edits id history := by
  rw [edits_concat, unedited, Option.toList_none, List.append_nil]

theorem creations_concat_of_none (uncreated : creation? (ofHistory history) e = none) :
    creations (history ++ [e]) = creations history := by
  rw [creations_concat, uncreated, Option.toList_none, List.append_nil]

theorem creations_concat_of_apart {made : Post}
    (created : creation? (ofHistory history) e = some made) (apart : made.id ≠ id) :
    (creations (history ++ [e])).filter (·.id = id) = (creations history).filter (·.id = id) := by
  simp only [creations_concat, created, Option.toList_some, List.filter_append, apart,
    decide_false, Bool.false_eq_true, not_false_eq_true, List.filter_cons_of_neg,
    List.filter_nil, List.append_nil]

theorem Life.concat (life : Life id history) (counted : Counted (edits id history)) (e : Event) :
    Life id (history ++ [e]) ∧ Counted (edits id (history ++ [e])) := by
  have step := postStep (ofHistory_available history) id e
  cases step with
  | kept row next unedited uncreated =>
    rw [edits_concat_of_none unedited]
    refine ⟨?_, counted⟩
    cases life with
    | ahead later none unchanged =>
      refine .ahead ?_ ?_ ?_
      · rwa [ofHistory_concat, next]
      · rwa [creations_concat_of_none uncreated]
      · rwa [edits_concat_of_none unedited]
    | present created first sole stored =>
      refine .present created first ?_ ?_
      · rwa [creations_concat_of_none uncreated]
      · rwa [ofHistory_concat, row, edits_concat_of_none unedited]
    | absent given missing =>
      refine .absent ?_ ?_
      · rwa [ofHistory_concat, next]
      · rwa [ofHistory_concat, row]
  | createdElsewhere made apart row next number unedited created =>
    rw [edits_concat_of_none unedited]
    refine ⟨?_, counted⟩
    cases life with
    | ahead later none unchanged =>
      refine .ahead ?_ ?_ ?_
      · rw [ofHistory_concat, next]
        omega
      · rwa [creations_concat_of_apart created apart]
      · rwa [edits_concat_of_none unedited]
    | present before first sole stored =>
      refine .present before first ?_ ?_
      · rwa [creations_concat_of_apart created apart]
      · rwa [ofHistory_concat, row, edits_concat_of_none unedited]
    | absent given missing =>
      refine .absent ?_ ?_
      · rw [ofHistory_concat, next]
        omega
      · rwa [ofHistory_concat, row]
  | created made first here row number unedited created =>
    rw [edits_concat_of_none unedited]
    refine ⟨?_, counted⟩
    cases life with
    | ahead later none unchanged =>
      refine .present made first ?_ ?_
      · simp only [creations_concat, created, Option.toList_some, List.filter_append, none, here,
          decide_true, List.filter_cons_of_pos, List.filter_nil, List.nil_append]
      · rw [ofHistory_concat, row, edits_concat_of_none unedited, unchanged,
          Post.revised_nil first]
    | present before _ sole stored =>
      have below := Table.Ledger.lt_next_of_get? stored
      omega
    | absent given missing => omega
  | changed p u found version row edited uncreated =>
    cases life with
    | ahead later none unchanged =>
      have below := Table.Ledger.lt_next_of_get? found
      omega
    | absent given missing =>
      rw [missing] at found
      cases found
    | present created first sole stored =>
      have same : p = created.revised (edits id history) := by
        rw [stored] at found
        exact (Option.some.inj found).symm
      have more : edits id (history ++ [e]) =
          edits id history ++ [⟨e.now, u, Tables.changed e.now u p⟩] := by
        rw [edits_concat, edited, Option.toList_some]
      refine ⟨.present created first ?_ ?_, ?_⟩
      · rwa [creations_concat_of_none uncreated]
      · rw [ofHistory_concat, row, more, Post.revised_concat, same]
      · rw [more]
        apply counted.concat
        · rw [← version, same]
          rfl
        · rw [same]
          rfl
  | deleted p found row next unedited uncreated =>
    rw [edits_concat_of_none unedited]
    refine ⟨.absent ?_ ?_, counted⟩
    · rw [ofHistory_concat, next]
      exact Table.Ledger.lt_next_of_get? found
    · rw [ofHistory_concat, row]

end

theorem life (id : Int) (history : List Event) :
    Life id history ∧ Counted (edits id history) := by
  induction history using List.reverseRecOn with
  | nil => exact ⟨Life.start id, Counted.nil⟩
  | append_singleton history e ih => exact ih.1.concat ih.2 e

/-- The number was given out and has no post any more. -/
structure Gone (id : Int) (s : Store) : Prop where
  up : s.available = true
  given : id < s.tables.posts.next
  missing : s.tables.posts.get? id = none

theorem Gone.next {id : Int} {s : Store} (gone : Gone id s) (e : Event) : Gone id (e.next s) := by
  have up : (e.next s).available = true := by rw [Event.next, perform_available, gone.up]
  cases postStep gone.up id e with
  | kept row next _ _ => exact ⟨up, by rw [next]; exact gone.given, by rw [row]; exact gone.missing⟩
  | createdElsewhere _ _ row next _ _ _ =>
    refine ⟨up, ?_, by rw [row]; exact gone.missing⟩
    have given := gone.given
    omega
  | created _ _ here _ number _ _ =>
    have given := gone.given
    omega
  | changed _ _ found _ _ _ _ =>
    rw [gone.missing] at found
    cases found
  | deleted _ _ row next _ _ => exact ⟨up, by rw [next]; exact gone.given, row⟩

theorem Gone.after {id : Int} {s : Store} (gone : Gone id s) (history : List Event) :
    Gone id (s.after history) := after_induction (fun _ e before => before.next e) history gone

theorem gone_of_deletePost {s : Store} (up : s.available = true) {now : Stamp} {id : Int} {p : Post}
    (deleted : (s.perform now (.deletePost id)).1 = .ok p) :
    Gone id (Event.next s ⟨now, .deletePost id⟩) := by
  rcases perform_deletePost up now id with ⟨q, found, done⟩ | ⟨_, failed⟩
  · refine ⟨?_, ?_, ?_⟩
    · rw [Event.next, perform_available, up]
    · simp only [Event.next, done, withPosts, Table.Ledger.remove, Table.Ledger.filter]
      exact Table.Ledger.lt_next_of_get? found
    · simp only [Event.next, done, withPosts, Table.Ledger.get?_remove, ↓reduceIte]
  · rw [failed] at deleted
    cases deleted

theorem Gone.unreadable {id : Int} {s : Store} (gone : Gone id s) (now : Stamp) :
    (s.perform now (.post id)).1 = .error .notFound := by
  rw [perform_post gone.up, gone.missing]
  rfl

theorem Gone.unchangeable {s : Store} {u : PostUpdate} (gone : Gone u.id s) (now : Stamp) :
    (s.perform now (.updatePost u)).1 = .error .notFound := by
  rcases perform_updatePost gone.up now u with ⟨p, found, _, _⟩ | ⟨_, failed⟩
  · rw [gone.missing] at found
    cases found
  · rw [failed]

theorem updatePost_succeeds_iff {s : Store} (up : s.available = true) (now : Stamp)
    (u : PostUpdate) : (∃ p, (s.perform now (.updatePost u)).1 = .ok p) ↔
      ∃ row, s.tables.posts.get? u.id = some row ∧ row.version = u.version := by
  rcases perform_updatePost up now u with ⟨p, found, version, done⟩ | ⟨apart, failed⟩
  · rw [done]
    exact ⟨fun _ => ⟨p, found, version⟩, fun _ => ⟨_, rfl⟩⟩
  · rw [failed]
    constructor
    · rintro ⟨p, impossible⟩
      cases impossible
    · rintro ⟨row, found, version⟩
      exact absurd version (apart row found)

/-- After any history of a new store, a change is made exactly if its post stands at the version
that it names; the changes of a post so far have left the versions 1, 2, 3 and so on, no two of them
naming one version; a post that is there stands as it was created, once, with the changes made to
it; a change that is refused changes nothing; and a post that is deleted is never found again. -/
theorem no_lost_update (history : List Event) (id : Int) :
    let s := ofHistory history
    let made := edits id history
    (∀ now u, (∃ p, (s.perform now (.updatePost u)).1 = .ok p) ↔
      ∃ row, s.tables.posts.get? u.id = some row ∧ row.version = u.version) ∧
    made.map (·.answer.version) = (List.range made.length).map (fun n => Int.ofNat (n + 1)) ∧
    (∀ version, (made.filter (·.update.version = version)).length ≤ 1) ∧
    (∀ now row, (s.perform now (.post id)).1 = .ok row ↔ s.tables.posts.get? id = some row) ∧
    (∀ row, s.tables.posts.get? id = some row → ∃ created,
      (creations history).filter (·.id = id) = [created] ∧ row = created.revised made) ∧
    (∀ now u e, (s.perform now (.updatePost u)).1 = .error e →
      (s.perform now (.updatePost u)).2 = s) ∧
    ∀ now p, (s.perform now (.deletePost id)).1 = .ok p →
      ∀ later now', let t := s.after (⟨now, .deletePost id⟩ :: later)
        (t.perform now' (.post id)).1 = .error .notFound ∧
        ∀ u, u.id = id → (t.perform now' (.updatePost u)).1 = .error .notFound := by
  intro s made
  have up : s.available = true := ofHistory_available history
  obtain ⟨standing, counted⟩ := life id history
  refine ⟨updatePost_succeeds_iff up, counted.left, counted.at_most_one, ?_, ?_, ?_, ?_⟩
  · intro now row
    rw [perform_post up]
    cases s.tables.posts.get? id with
    | none => exact ⟨fun impossible => (nomatch impossible), fun impossible => nomatch impossible⟩
    | some p => simp only [Option.elim_some, Except.ok.injEq, Option.some.injEq]
  · intro row found
    cases standing with
    | ahead later _ _ =>
      have below : id < (ofHistory history).tables.posts.next := Table.Ledger.lt_next_of_get? found
      omega
    | present created _ sole stored =>
      exact ⟨created, sole, (Option.some.inj (stored.symm.trans found)).symm⟩
    | absent _ missing =>
      rw [missing] at found
      cases found
  · intro now u e failed
    exact perform_of_failed failed
  · intro now p deleted later now' t
    have gone : Gone id t := (gone_of_deletePost up deleted).after later
    refine ⟨gone.unreadable now', ?_⟩
    rintro u rfl
    exact gone.unchangeable now'

example :
    let moment : Stamp := ⟨0, 0⟩
    let change (version : Int) (title : String) : Event :=
      ⟨moment, .updatePost ⟨1, version, some title, none⟩⟩
    let history : List Event :=
      [⟨moment, .createPost 7 "a" "b" []⟩, change 0 "c", change 0 "d", change 2 "e", change 1 "f"]
    (edits 1 history).map (·.answer.title) = ["c", "f"] ∧
      ((ofHistory history).tables.posts.get? 1).map (·.content) = some "b" := by
  decide

end Agora.Store
