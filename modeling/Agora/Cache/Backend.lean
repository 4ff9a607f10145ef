import Agora.Bytes
import Agora.Table.Directory
import Agora.Time.Deadline

set_option autoImplicit false

namespace Agora.Cache

open Time (Span)
open Table (Directory)

structure Entry where
  payload : Bytes
  expires : Span
  deriving DecidableEq, Repr

structure Backend where
  entries : Directory String Entry := .empty
  deriving DecidableEq

namespace Backend

def fresh (now : Span) (e : Entry) : Bool := now < e.expires

/-- Look a key up; an entry that has expired is dropped. -/
def get (now : Span) (key : String) (b : Backend) : Option Bytes × Backend :=
  match b.entries.get? key with
  | some e => if fresh now e then (some e.payload, b) else (none, ⟨b.entries.erase key⟩)
  | none => (none, b)

/-- Keep a payload for a time; one that would last past the clock's range is not kept. -/
def set (now : Span) (key : String) (payload : Bytes) (ttl : Span) (b : Backend) : Backend :=
  if now + ttl < Time.clockEnd then ⟨b.entries.set key ⟨payload, now + ttl⟩⟩ else b

def delete (key : String) (b : Backend) : Backend := ⟨b.entries.erase key⟩

/-- The number of entries, expired ones that no look-up has met included. -/
def size (b : Backend) : Nat := b.entries.size

def purge (now : Span) (b : Backend) : Backend := ⟨b.entries.filter fun _ e => fresh now e⟩

def clear (_ : Backend) : Backend := {}

end Backend

end Agora.Cache
