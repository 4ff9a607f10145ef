import Agora.Proofs.FeedPages

set_option autoImplicit false

namespace Agora.Service

open Feed (Query)
open Http (Request)
open Json (Value)
open Store (Alike FeedItem Post Tie)
open Time (Span)

/-- A viewer is shown a feed page for page, from an offset on until a page is not full. The pages
may have any sizes, and time may pass between them. -/
inductive Reads (setting : Setting) (v : Int) (query : Query) :
    Nat → State → List Value → Prop where
  | last {offset limit : Nat} {o : Occasion} {q : Request} {s : State} {items : List Value}
      (shows : Shows v { query with offset, limit } items (setting.env o) q s)
      (short : items.length < limit) : Reads setting v query offset s items
  | more {offset limit : Nat} {o : Occasion} {q : Request} {s : State} {items others : List Value}
      (shows : Shows v { query with offset, limit } items (setting.env o) q s)
      (full : items.length = limit)
      (rest : Reads setting v query (offset + limit) (respond (setting.env o) q s).2 others) :
      Reads setting v query offset s (items ++ others)
  | pause {offset : Nat} {s : State} {items : List Value} (span : Span)
      (rest : Reads setting v query offset (s.advance span) items) :
      Reads setting v query offset s items

section

variable (setting : Setting) (history : List Event)

end

section

variable {setting : Setting} {v : Int} {query : Query} {offset : Nat} {s : State}
  {docs : List Value}

/-- The caller is stored, and the pages make up all that the tables give. -/
theorem Reads.all (reads : Reads setting v query offset s docs) (sound : Sound s) :
    s.store.tables.accounts.contains v = true ∧
      docs = ((s.store.tables.shown v query).drop offset).map FeedItem.toJson := by
  induction reads with
  | @last offset limit o q s items shows short =>
    obtain ⟨stored, page⟩ := shows.page o.proper sound
    have whole : ((s.store.tables.shown v query).drop offset).length ≤ limit := by
      rw [page, pageOf, List.length_map, List.length_take] at short
      change min limit ((s.store.tables.shown v query).drop offset).length < limit at short
      omega
    refine ⟨stored, page.trans ?_⟩
    rw [pageOf]
    exact congrArg _ (List.take_of_length_le whole)
  | @more offset limit o q s items others shows full rest ih =>
    obtain ⟨stored, page⟩ := shows.page o.proper sound
    have kept : (respond (setting.env o) q s).2.store = s.store := browsing_keeps shows.found
    obtain ⟨_, remaining⟩ := ih (respond_sound o.proper q sound)
    rw [kept] at remaining
    refine ⟨stored, ?_⟩
    rw [page, remaining, pageOf, ← List.map_append, ← List.drop_drop]
    exact congrArg _ (List.take_append_drop limit _)
  | pause span rest ih =>
    have later := ih (sound.congr (State.rest_store _) (State.rest_identities _))
    rwa [State.advance, State.rest_store] at later

end

namespace Sample

def browse : Request where
  method := .get
  target := "/v1/users/feed"
  headers

theorem browse_resource : resource? setting.config browse = some .feed := by
  have pieces : browse.segments = ["", "v1", "users", "feed"] := by
    rw [Request.segments, Request.path, Request.resource, browse]
    dsimp only
    decide +kernel
  rw [resource?, pieces]
  rfl

theorem browse_query : readQuery browse = .ok {} := by
  have plain : browse.parameters = [] := by
    rw [Request.parameters, Request.resource, browse]
    dsimp only
    decide +kernel
  rw [readQuery, plain]
  rfl

theorem browses : Browses 1 {} (setting.env start) browse :=
  ⟨rfl, browse_resource, bearer, browse_query⟩

end Sample

end Agora.Service
