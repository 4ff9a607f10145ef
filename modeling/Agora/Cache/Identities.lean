import Agora.Cache.Backend
import Agora.Metrics
import Agora.Store.Document

/-!
The cache of identities: users by number, kept for a time and never the last word. A payload that
does not read as a user counts as an error and is dropped. Entries live longer by a random part of
the jitter, so that those which were written together do not expire together.
-/

set_option autoImplicit false

namespace Agora.Cache

open Store (User)
open Time (Span)

/-- The cache of identities; one without a backend keeps nothing. -/
structure Identities where
  backend : Option Backend
  ttl : Span
  jitter : Span
  deriving DecidableEq

structure Stats where
  backend : String
  entries : Nat
  deriving DecidableEq, Repr

namespace Identities

def ofConfig (c : Config.Cache) : Identities where
  backend := if c.enabled then some {} else none
  ttl := Span.ofSeconds c.ttl
  jitter := Span.ofSeconds c.jitter

def key (id : Int) : String := s!"user:{id}"

/-- The lifetime of an entry: the least one, and a drawn part of the jitter in milliseconds. -/
def lifetime (draw : Nat) (c : Identities) : Span :=
  let steps := c.jitter.millis % 2 ^ 64
  if steps = 0 then c.ttl else c.ttl + Span.ofMillis (draw % steps)

/-- What a payload under a key is worth. -/
def judge (payload : Option Bytes) : Metrics.Lookup × Option User :=
  match payload with
  | none => (.miss, none)
  | some b =>
    match User.decode? b with
    | some u => (.hit, some u)
    | none => (.error, none)

/-- Look a user up; a payload that does not read as a user is dropped. -/
def lookUp (now : Span) (id : Int) (c : Identities) :
    (Metrics.Lookup × Option User) × Identities :=
  match c.backend with
  | none => ((.miss, none), c)
  | some b =>
    let (payload, b) := b.get now (key id)
    let found := judge payload
    (found, { c with backend := some (if found.1 = .error then b.delete (key id) else b) })

def keep (now : Span) (draw : Nat) (u : User) (c : Identities) : Identities :=
  { c with backend := c.backend.map fun b => b.set now (key u.id) u.encode (c.lifetime draw) }

def evict (id : Int) (c : Identities) : Identities :=
  { c with backend := c.backend.map fun b => b.delete (key id) }

def flush (c : Identities) : Nat × Identities :=
  (c.backend.elim 0 Backend.size, { c with backend := c.backend.map Backend.clear })

/-- Drop what has expired, and tell how many entries there are. -/
def stats (now : Span) (c : Identities) : Stats × Identities :=
  match c.backend with
  | none => (⟨"disabled", 0⟩, c)
  | some b =>
    let b := b.purge now
    (⟨"memory", b.size⟩, { c with backend := some b })

end Identities

end Agora.Cache
