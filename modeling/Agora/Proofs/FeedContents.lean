import Agora.Proofs.FeedPages
import Mathlib.Data.List.Sort
import Mathlib.Data.Prod.Lex

set_option autoImplicit false

namespace Agora.Store

open Feed (Order Query)
open Time (Stamp)

/-- The place of a post in the order by age: its moment, and among posts of one moment its
number. -/
def Post.age (p : Post) : Int ×ₗ Nat ×ₗ Int :=
  toLex (p.createdAt.second, toLex (p.createdAt.nano, p.id))

/-- One post stands before another. -/
def Precedes : Order → Post → Post → Prop
  | .ascending, a, b => a.age < b.age
  | .descending, a, b => b.age < a.age

instance (order : Order) : Std.Irrefl (Precedes order) where
  irrefl p := by cases order <;> exact lt_irrefl p.age

theorem Precedes.asymm {order : Order} {a b : Post} (first : Precedes order a b) :
    ¬Precedes order b a := by
  cases order with
  | ascending => exact lt_asymm first
  | descending => exact lt_asymm first

namespace Tables

theorem older_iff {a b : Post} : older a b = true ↔ a.age < b.age := by
  obtain ⟨_, _, _, _, _, _, ⟨second, nano⟩, _⟩ := a
  obtain ⟨_, _, _, _, _, _, ⟨second', nano'⟩, _⟩ := b
  simp only [older, Stamp.before, Post.age, Prod.Lex.toLex_lt_toLex, Bool.or_eq_true,
    Bool.and_eq_true, decide_eq_true_eq, beq_iff_eq, Stamp.mk.injEq]
  grind

/-- Putting in a post of another number keeps the order. -/
theorem insertOldest_ordered {p : Post} {posts : List Post} (other : ∀ q ∈ posts, p.id ≠ q.id)
    (ordered : posts.Pairwise (Precedes .ascending)) :
    (insertOldest p posts).Pairwise (Precedes .ascending) := by
  induction posts with
  | nil => exact List.pairwise_singleton _ _
  | cons q rest ih =>
    obtain ⟨first, later⟩ := List.pairwise_cons.1 ordered
    rw [insertOldest]
    by_cases oldest : older p q = true
    · rw [if_pos oldest]
      have before : p.age < q.age := older_iff.1 oldest
      refine List.pairwise_cons.2 ⟨fun r inside => ?_, ordered⟩
      rcases List.mem_cons.1 inside with rfl | inside
      · exact before
      · exact before.trans (first r inside)
    · rw [if_neg oldest]
      have apart : q.age ≠ p.age := by
        intro same
        have number : q.id = p.id := congrArg (fun age => (ofLex (ofLex age).2).2) same
        exact other q List.mem_cons_self number.symm
      have before : q.age < p.age := lt_of_le_of_ne (not_lt.1 (mt older_iff.2 oldest)) apart
      refine List.pairwise_cons.2
        ⟨fun r inside => ?_, ih (fun r inside => other r (.tail _ inside)) later⟩
      rcases List.mem_cons.1 ((insertOldest_perm p rest).mem_iff.1 inside) with rfl | inside
      · exact before
      · exact first r inside

theorem oldestFirst_ordered {posts : List Post} (apart : posts.Pairwise fun a b => a.id ≠ b.id) :
    (oldestFirst posts).Pairwise (Precedes .ascending) := by
  induction posts with
  | nil => exact .nil
  | cons p rest ih =>
    obtain ⟨first, later⟩ := List.pairwise_cons.1 apart
    refine insertOldest_ordered (fun q inside => ?_) (ih later)
    exact first q ((oldestFirst_perm rest).mem_iff.1 inside)

theorem arrange_ordered {posts : List Post} (apart : posts.Pairwise fun a b => a.id ≠ b.id)
    (order : Order) : (arrange order posts).Pairwise (Precedes order) := by
  cases order with
  | ascending => exact oldestFirst_ordered apart
  | descending => exact List.pairwise_reverse.2 (oldestFirst_ordered apart)

/-- A text, in lower case, occurs as consecutive characters in the lower case of another. -/
def Finds (search text : String) : Prop := Text.lower search <:+: Text.lower text

/-- A query of a viewer for these tags and this text is about the post. -/
structure Wants (t : Tables) (viewer : Int) (tags : List String) (search : String) (p : Post) :
    Prop where
  stored : t.posts.get? p.id = some p
  seen : p.userId = viewer ∨ (viewer, p.userId) ∈ t.follows
  found : Finds search p.title ∨ Finds search p.content
  tagged : ∀ tag ∈ tags, tag ∈ p.tags

theorem occurs_iff {needle text : List Char} : occurs needle text = true ↔ needle <:+: text := by
  induction text with
  | nil => simp [occurs]
  | cons c rest ih =>
    rw [occurs, Bool.or_eq_true, ih, List.infix_cons_iff, List.isPrefixOf_iff_prefix]

theorem matchesSearch_iff {search : String} {p : Post} :
    matchesSearch (Text.lower search) p = true ↔
      Finds search p.title ∨ Finds search p.content := by
  have empty {text : List Char} (none : Text.lower search = []) :
      Text.lower search <:+: text := none ▸ List.nil_infix
  simp only [matchesSearch, Bool.or_eq_true, occurs_iff, List.isEmpty_iff, Finds]
  exact ⟨fun any => any.elim (·.elim (fun none => .inl (empty none)) .inl) .inr,
    fun any => any.elim (.inl ∘ .inr) .inr⟩

theorem carries_iff {tags : List String} {p : Post} :
    carries tags p = true ↔ ∀ tag ∈ tags, tag ∈ p.tags := by
  simp only [carries, List.all_eq_true, List.contains_iff_mem]

section

variable {t : Tables} {viewer : Int} {q : Query}

theorem mem_selected {p : Post} : p ∈ t.selected viewer q ↔ t.Wants viewer q.tags q.search p := by
  rw [selected, List.mem_filter, Bool.and_eq_true, Bool.and_eq_true, matchesSearch_iff,
    carries_iff, visible, Bool.or_eq_true, decide_eq_true_eq, List.contains_iff_mem]
  constructor
  · rintro ⟨inside, ⟨seen, found⟩, tagged⟩
    exact ⟨Table.Ledger.get?_of_mem inside, seen, found, tagged⟩
  · rintro ⟨stored, seen, found, tagged⟩
    exact ⟨Table.Ledger.mem_of_get? stored, ⟨seen, found⟩, tagged⟩

/-- What is shown beside a post is what the other tables say: the name of its author, empty if the
author is gone, and how many comments the list of its comments has. -/
structure Describes (t : Tables) (item : FeedItem) : Prop where
  author : item.username =
    (t.accounts.get? item.post.userId).elim "" fun account => account.user.username
  comments : ∃ comments, t.commentsOn item.post.id = .ok (comments, t) ∧
    item.commentCount = comments.length

theorem insertByAge_perm (r : Remark) (remarks : List Remark) :
    (insertByAge r remarks).Perm (r :: remarks) := by
  induction remarks with
  | nil => exact .refl _
  | cons s rest ih =>
    rw [insertByAge]
    split
    · exact .refl _
    · exact (ih.cons s).trans (.swap r s rest)

theorem length_remarksOn (postId : Int) (t : Tables) :
    (t.remarksOn postId).length = t.comments.rows.countP (·.postId = postId) := by
  have kept (remarks : List Remark) :
      (remarks.foldr insertByAge []).length = remarks.length := by
    induction remarks with
    | nil => rfl
    | cons r rest ih =>
      rw [List.foldr_cons, (insertByAge_perm r _).length_eq, List.length_cons, ih,
        List.length_cons]
  rw [remarksOn, kept, List.countP_eq_length_filter]

theorem describes_iff {item : FeedItem} : t.Describes item ↔ item = t.feedItem item.post := by
  have name : (t.accounts.get? item.post.userId).elim "" (fun a => a.user.username) =
      t.usernameOf item.post.userId := by
    rw [usernameOf]
    cases t.accounts.get? item.post.userId <;> rfl
  have count : (t.commentsOn item.post.id) = .ok ((t.remarksOn item.post.id).map t.view, t) := rfl
  constructor
  · rintro ⟨author, comments, listed, counted⟩
    cases count.symm.trans listed
    rw [List.length_map, length_remarksOn] at counted
    calc
      item = ⟨item.post, item.username, item.commentCount⟩ := rfl
      _ = t.feedItem item.post := by
        rw [author, name, counted]
        rfl
  · intro same
    refine ⟨?_, _, count, ?_⟩
    · rw [name, same]
      rfl
    · rw [List.length_map, length_remarksOn, same]
      rfl

/-- The posts that the query of a viewer is about, each with what is shown of it, in order. -/
structure IsFeed (t : Tables) (viewer : Int) (q : Query) (items : List FeedItem) : Prop where
  members : ∀ item, item ∈ items ↔ t.Wants viewer q.tags q.search item.post ∧ t.Describes item
  ordered : items.Pairwise fun a b => Precedes q.order a.post b.post

/-- There is no other list of these posts in this order. -/
theorem IsFeed.unique {items others : List FeedItem} (first : t.IsFeed viewer q items)
    (second : t.IsFeed viewer q others) : items = others := by
  have same (item : FeedItem) : item ∈ items ↔ item ∈ others :=
    (first.members item).trans (second.members item).symm
  have apart {l : List FeedItem} (feed : t.IsFeed viewer q l) : l.Nodup := by
    refine feed.ordered.imp fun before => ?_
    rintro rfl
    exact irrefl _ before
  refine ((List.perm_ext_iff_of_nodup (apart first) (apart second)).2 same).eq_of_pairwise ?_
    first.ordered second.ordered
  exact fun a b _ _ before after => absurd after before.asymm

variable (t viewer q) in
theorem shown_isFeed : t.IsFeed viewer q (t.shown viewer q) where
  members item := by
    rw [shown, List.mem_map, describes_iff]
    simp only [(arrange_perm q.order _).mem_iff, mem_selected]
    constructor
    · rintro ⟨p, wanted, rfl⟩
      exact ⟨wanted, rfl⟩
    · rintro ⟨wanted, same⟩
      exact ⟨item.post, wanted, same.symm⟩
  ordered := by
    have apart : t.posts.rows.Pairwise fun a b => a.id ≠ b.id := t.posts.ordered.imp Int.ne_of_lt
    exact List.pairwise_map.2 (arrange_ordered (apart.filter _) q.order)

theorem isFeed_iff {items : List FeedItem} :
    t.IsFeed viewer q items ↔ items = t.shown viewer q :=
  ⟨fun feed => feed.unique (shown_isFeed t viewer q), fun same => same ▸ shown_isFeed t viewer q⟩

variable (t viewer q) in
/-- To want more tags takes out the posts that do not carry them, and leaves the others in order. -/
theorem shown_filter {tags : List String} (more : q.tags ⊆ tags) :
    t.shown viewer { q with tags } =
      (t.shown viewer q).filter fun item => carries tags item.post := by
  symm
  refine isFeed_iff.1 ⟨fun item => ?_, (shown_isFeed t viewer q).ordered.filter _⟩
  rw [List.mem_filter, (shown_isFeed t viewer q).members, carries_iff]
  constructor
  · rintro ⟨⟨⟨stored, seen, found, _⟩, described⟩, tagged⟩
    exact ⟨⟨stored, seen, found, tagged⟩, described⟩
  · rintro ⟨⟨stored, seen, found, tagged⟩, described⟩
    exact ⟨⟨⟨stored, seen, found, fun tag among => tagged tag (more among)⟩, described⟩, tagged⟩

end

end Tables

theorem flatMap_pages {α : Type} (items : List α) (size count : Nat) :
    ((List.range count).flatMap fun n => (items.drop (n * size)).take size) =
      items.take (count * size) := by
  induction count with
  | zero => simp
  | succ count ih =>
    rw [List.range_succ, List.flatMap_append, ih, List.flatMap_singleton, Nat.succ_mul,
      List.take_add]

/-- Of a store that answers, a query shows to a viewer exactly the posts that it is about, each with
what the other tables say of it, strictly in the order of moment and number; and the answer is the
page of it that begins at the offset and is as long as the limit. The pages of one size make up the
whole as soon as there are enough of them, the two orders are the reverse of one another, and more
tags take out the posts that do not carry them, and no others. -/
theorem feed_exact (s : Store) (viewer : Int) (q : Query) :
    (∀ items, s.tables.IsFeed viewer q items ↔ items = s.tables.shown viewer q) ∧
    (∀ now, s.perform now (.feed viewer q) =
      (if s.available then .ok (((s.tables.shown viewer q).drop q.offset).take q.limit)
        else .error (.unavailable .offline), s)) ∧
    (∀ (size : Nat) (now : Nat → Stamp) (pages : Nat → List FeedItem),
      (∀ n, s.perform (now n) (.feed viewer { q with limit := size, offset := n * size }) =
        (.ok (pages n), s)) →
      ∀ count, (s.tables.shown viewer q).length ≤ count * size →
        (List.range count).flatMap pages = s.tables.shown viewer q) ∧
    s.tables.shown viewer { q with order := .ascending } =
      (s.tables.shown viewer { q with order := .descending }).reverse ∧
    ∀ tags, q.tags ⊆ tags → s.tables.shown viewer { q with tags } =
      (s.tables.shown viewer q).filter fun item => tags.all item.post.tags.contains := by
  refine ⟨fun items => Tables.isFeed_iff, fun now => ?_, ?_, ?_, ?_⟩
  · cases up : s.available with
    | true => exact perform_feed up now viewer q
    | false => exact perform_of_offline up
  · intro size now pages answered count enough
    have page (n : Nat) :
        pages n = ((s.tables.shown viewer q).drop (n * size)).take size := by
      have done := (answered n).symm.trans (perform_feed (available_of_ok (answered n)) (now n)
        viewer { q with limit := size, offset := n * size })
      exact Except.ok.inj (congrArg Prod.fst done)
    rw [funext page, flatMap_pages, List.take_of_length_le enough]
  · refine (Tables.isFeed_iff.1 ⟨fun item => ?_, List.pairwise_reverse.2 ?_⟩).symm
    · exact List.mem_reverse.trans
        ((Tables.shown_isFeed s.tables viewer { q with order := .descending }).members item)
    · exact (Tables.shown_isFeed s.tables viewer { q with order := .descending }).ordered
  · exact fun tags more => Tables.shown_filter s.tables viewer q more

namespace Sample

/-- Three posts of one moment: two by the first user, and one by the second, whom the first
follows. -/
def board : Store where
  tables.posts :=
    let make (author id : Int) : Post := ⟨id, 0, author, "title", "content", [], ⟨0, 0⟩, ⟨0, 0⟩⟩
    ((Table.Ledger.empty.add (make 1)).add (make 2)).add (make 1)
  tables.follows := [(1, 2)]

end Sample

/-- Two pages of two make up a feed of three posts of one moment. -/
theorem three_posts_on_two_pages :
    let shown := Sample.board.tables.shown 1 {}
    let pages (n : Nat) := (shown.drop (n * 2)).take 2
    (∀ n, Sample.board.perform ⟨0, 0⟩ (.feed 1 { limit := 2, offset := n * 2 }) =
      (.ok (pages n), Sample.board)) ∧
    shown.length ≤ 2 * 2 ∧ (List.range 2).flatMap pages = shown ∧
    shown.map (·.post.id) = [3, 2, 1] := by
  intro shown pages
  have answered (n : Nat) : Sample.board.perform ⟨0, 0⟩
      (.feed 1 { limit := 2, offset := n * 2 }) = (.ok (pages n), Sample.board) :=
    (feed_exact Sample.board 1 { limit := 2, offset := n * 2 }).2.1 ⟨0, 0⟩
  have enough : shown.length ≤ 2 * 2 := by decide
  refine ⟨answered, enough, ?_, by decide⟩
  exact (feed_exact Sample.board 1 {}).2.2.1 2 (fun _ => ⟨0, 0⟩) pages answered 2 enough

end Agora.Store
