import Agora.Proofs.AccountSteps
import Agora.Proofs.WrittenRecords
import Agora.Service.State

/-!
The cache of identities beside the accounts. A user that is kept reads back as the user, and each
operation of the cache concerns the entry of one number at most. The cache is coherent if every
entry is that of a stored account as it is now; an account that changes makes it coherent but for
one entry, and dropping that entry makes it coherent again.
-/

set_option autoImplicit false

namespace Agora

open Cache (Entry Identities)
open Store (Account User)
open Time (Span Stamp)

namespace Store.User

/-- The user can be read back: its number fits, and it was made in one of the years that are
written with four digits. -/
def Storable (u : User) : Prop := Json.FitsInt64 u.id ∧ u.createdAt.representable = true

instance (u : User) : Decidable u.Storable := inferInstanceAs (Decidable (_ ∧ _))

/-- A user that is kept reads back as the user or, if it cannot, not at all. -/
theorem decode?_encode {u : User} (proper : u.createdAt.Proper) :
    decode? u.encode = if u.Storable then some u else none := by
  have reads : Json.ReadsAll fields u.members _ :=
    .cons rfl (Json.reads_int64 u.id) <| .cons rfl (Json.reads_text u.username) <|
      .cons rfl (Json.reads_text u.email) <| .cons rfl (Json.reads_moment proper) <|
      .cons rfl (Json.reads_flag u.isActive) <| .cons rfl (Json.reads_text u.role) .nil
  have read := Json.read_render .ignored reads
  rw [encode, toJson, decode?, read]
  by_cases storable : u.Storable
  · obtain ⟨fits, inside⟩ := storable
    rw [if_pos fits, if_pos inside, if_pos ⟨fits, inside⟩]
    rfl
  · rw [if_neg storable]
    by_cases fits : Json.FitsInt64 u.id
    · have outside : ¬u.createdAt.representable = true := fun inside => storable ⟨fits, inside⟩
      rw [if_pos fits, if_neg outside]
      rfl
    · rw [if_neg fits]
      rfl

theorem eq_of_decode? {u v : User} (proper : u.createdAt.Proper)
    (read : decode? u.encode = some v) : v = u := by
  rw [decode?_encode proper] at read
  split at read
  · exact (Option.some.inj read).symm
  · cases read

end Store.User

namespace Cache.Identities

theorem key_inj {id other : Int} (same : key id = key other) : id = other := by
  have written (n : Int) : (key n).toList = "user:".toList ++ (toString n).toList := by
    simp only [key, String.toList_append, toString]
  have chars := congrArg String.toList same
  rw [written, written] at chars
  exact toString_inj (String.toList_inj.1 (List.append_cancel_left chars))

/-- The entry of a number. -/
def held? (c : Identities) (id : Int) : Option Entry :=
  c.backend.bind fun b => b.entries.get? (key id)

variable (c : Identities) (now : Span) (id other : Int)

/-- With whatever part of the jitter, an entry lives for the configured time at least, and no
longer than for both together. -/
theorem lifetime_bounds (draw : Nat) :
    c.ttl ≤ c.lifetime draw ∧ c.lifetime draw ≤ c.ttl + c.jitter := by
  unfold lifetime
  dsimp only
  split
  · exact ⟨Nat.le_refl _, Nat.le_add_right _ _⟩
  · rename_i steps
    have drawn : draw % (c.jitter.millis % 2 ^ 64) ≤ c.jitter.millis :=
      Nat.le_trans (Nat.le_of_lt (Nat.mod_lt _ (Nat.pos_of_ne_zero steps))) (Nat.mod_le _ _)
    have part : Span.ofMillis (draw % (c.jitter.millis % 2 ^ 64)) ≤ c.jitter :=
      Nat.le_trans (Nat.mul_le_mul_left _ drawn) (Nat.mul_div_le _ _)
    exact ⟨Nat.le_add_right _ _, Nat.add_le_add_left part _⟩

theorem get?_erase_key (b : Backend) :
    (b.entries.erase (key id)).get? (key other) =
      if other = id then none else b.entries.get? (key other) := by
  rw [Table.Directory.get?_erase]
  by_cases same : other = id
  · rw [if_pos same, if_pos (congrArg key same)]
  · rw [if_neg same, if_neg fun equal => same (key_inj equal)]

theorem held?_evict :
    (c.evict id).held? other = if other = id then none else c.held? other := by
  cases backend : c.backend with
  | none => simp [held?, evict, backend]
  | some b =>
    simp only [held?, evict, backend, Option.map_some, Option.bind_some, Backend.delete,
      get?_erase_key]

/-- Keeping a user replaces its own entry, unless that would last past the clock's range. -/
theorem held?_keep (draw : Nat) (u : User) :
    (c.keep now draw u).held? other =
      if c.backend.isSome ∧ other = u.id ∧ now + c.lifetime draw < Time.clockEnd then
        some ⟨u.encode, now + c.lifetime draw⟩
      else c.held? other := by
  cases backend : c.backend with
  | none => simp [held?, keep, backend]
  | some b =>
    simp only [held?, keep, backend, Option.map_some, Option.bind_some, Option.isSome_some,
      true_and, Backend.set]
    by_cases inRange : now + c.lifetime draw < Time.clockEnd
    · rw [if_pos inRange, Table.Directory.get?_set]
      by_cases same : other = u.id
      · rw [if_pos (congrArg key same), if_pos ⟨same, inRange⟩]
      · rw [if_neg fun equal => same (key_inj equal), if_neg fun both => same both.1]
    · rw [if_neg inRange, if_neg fun both => inRange both.2]

/-- A look-up finds the user of an entry that is fresh and can be read. -/
theorem lookUp_eq :
    (c.lookUp now id).1.2 =
      (c.held? id).bind fun e => if Backend.fresh now e then User.decode? e.payload else none := by
  cases backend : c.backend with
  | none => simp only [held?, lookUp, backend, Option.bind_none]
  | some b =>
    simp only [held?, lookUp, backend, Option.bind_some, Backend.get]
    cases b.entries.get? (key id) with
    | none => rfl
    | some e =>
      simp only [Option.bind_some]
      cases Backend.fresh now e with
      | false => rfl
      | true =>
        simp only [↓reduceIte, judge]
        cases User.decode? e.payload with
        | none => rfl
        | some u => rfl

/-- A look-up that finds nothing leaves no entry; nothing else changes. -/
theorem held?_lookUp :
    (c.lookUp now id).2.held? other =
      if other = id ∧ (c.lookUp now id).1.2 = none then none else c.held? other := by
  cases backend : c.backend with
  | none => simp [held?, lookUp, backend]
  | some b =>
    cases found : b.entries.get? (key id) with
    | none =>
      simp only [held?, lookUp, backend, Backend.get, found, judge, reduceCtorEq, ↓reduceIte,
        Option.bind_some, and_true]
      by_cases same : other = id
      · rw [if_pos same, same, found]
      · rw [if_neg same]
    | some e =>
      cases fresh : Backend.fresh now e with
      | false =>
        simp only [held?, lookUp, backend, Backend.get, found, fresh, judge, reduceCtorEq,
          Bool.false_eq_true, ↓reduceIte, Option.bind_some, and_true, get?_erase_key]
      | true =>
        cases read : User.decode? e.payload with
        | none =>
          simp only [held?, lookUp, backend, Backend.get, found, fresh, judge, read, ↓reduceIte,
            Option.bind_some, and_true, Backend.delete, get?_erase_key]
        | some u =>
          simp only [held?, lookUp, backend, Backend.get, found, fresh, judge, read, reduceCtorEq,
            ↓reduceIte, Option.bind_some, and_false]

theorem lookUp_kept :
    (c.lookUp now id).2.backend.isSome = c.backend.isSome ∧
      ∀ draw, (c.lookUp now id).2.lifetime draw = c.lifetime draw := by
  cases backend : c.backend with
  | none => simp only [lookUp, backend, Option.isSome_none, true_and, implies_true]
  | some b =>
    simp only [lookUp, backend, Option.isSome_some, true_and]
    exact fun draw => rfl

theorem held?_flush : c.flush.2.held? other = none := by
  cases backend : c.backend with
  | none => simp only [held?, flush, backend, Option.map_none, Option.bind_none]
  | some b => simp only [held?, flush, backend, Option.map_some, Option.bind_some]; rfl

theorem held?_stats :
    (c.stats now).2.held? other = (c.held? other).filter (Backend.fresh now) := by
  cases backend : c.backend with
  | none => simp only [held?, stats, backend, Option.bind_none, Option.filter]
  | some b =>
    simp only [held?, stats, backend, Option.bind_some, Backend.purge, Table.Directory.get?_filter]

end Cache.Identities

namespace Store.Call

/-- The number whose account an operation has changed or taken out, if it has. -/
def touched : (c : Call) → Except Error c.Answer → Option Int
  | .activate _, .ok id => some id
  | .deleteUser id, .ok _ => some id
  | _, _ => none

end Store.Call

namespace Service

/-- Every entry, but perhaps that of one number, is that of a stored account as it is now. -/
structure SoundBut (stale : Option Int) (s : State) : Prop where
  coherent : ∀ id e, stale ≠ some id → s.identities.held? id = some e →
    ∃ a, s.store.tables.accounts.get? id = some a ∧ e.payload = a.user.encode
  dated : s.store.Dated

/-- Every entry is that of a stored account as it is now. -/
abbrev Sound (s : State) : Prop := SoundBut none s

theorem sound_ofConfig (c : Config) : Sound (State.ofConfig c) where
  coherent id e _ found := by
    have empty : (State.ofConfig c).identities.held? id = none := by
      simp only [Cache.Identities.held?, State.ofConfig, Cache.Identities.ofConfig]
      split <;> rfl
    rw [empty] at found
    cases found
  dated id a found := by cases found

variable {stale : Option Int} {s after : State}

theorem SoundBut.congr (sound : SoundBut stale s) (store : after.store = s.store)
    (identities : after.identities = s.identities) : SoundBut stale after := by
  refine ⟨?_, ?_⟩
  · rw [store, identities]
    exact sound.coherent
  · rw [store]
    exact sound.dated

theorem SoundBut.drop (sound : SoundBut stale s) (store : after.store = s.store)
    (fewer : ∀ id e, after.identities.held? id = some e → s.identities.held? id = some e) :
    SoundBut stale after := by
  refine ⟨fun id e other found => ?_, ?_⟩
  · rw [store]
    exact sound.coherent id e other (fewer id e found)
  · rw [store]
    exact sound.dated

/-- Dropping the entry of the number that was excepted leaves no exception. -/
theorem SoundBut.evict {id : Int} (sound : SoundBut (some id) s) :
    Sound { s with identities := s.identities.evict id } := by
  refine ⟨fun other e _ found => ?_, sound.dated⟩
  rw [Cache.Identities.held?_evict] at found
  by_cases same : other = id
  · rw [if_pos same] at found
    cases found
  · rw [if_neg same] at found
    exact sound.coherent other e (fun equal => same (Option.some.inj equal).symm) found

theorem SoundBut.keep {now : Span} {draw : Nat} {a : Account} (sound : Sound s)
    (stored : s.store.tables.accounts.get? a.user.id = some a) :
    Sound { s with identities := s.identities.keep now draw a.user } := by
  refine ⟨fun id e _ found => ?_, sound.dated⟩
  rw [Cache.Identities.held?_keep] at found
  split at found
  · rename_i own
    cases found
    rw [own.2.1]
    exact ⟨a, stored, rfl⟩
  · exact sound.coherent id e nofun found

/-- An operation of the store leaves the cache coherent but for the account that it has touched. -/
theorem SoundBut.perform {now : Stamp} (sound : Sound s) (proper : now.Proper) (c : Store.Call)
    (store : after.store = (s.store.perform now c).2)
    (identities : after.identities = s.identities) :
    SoundBut (c.touched (s.store.perform now c).1) after := by
  refine ⟨fun id e other found => ?_, ?_⟩
  · rw [identities] at found
    obtain ⟨a, stored, payload⟩ := sound.coherent id e nofun found
    refine ⟨a, ?_, payload⟩
    rw [store]
    have step := Store.accountStep now s.store c
    generalize (s.store.perform now c).1 = answer at step other
    cases step with
    | kept accounts => rw [accounts, stored]
    | added new active accounts =>
      have given := Table.Ledger.lt_next_of_get? stored
      rw [accounts, Table.Ledger.get?_add, if_neg (Int.ne_of_lt given), stored]
    | @activated digest target accounts =>
      have apart : id ≠ target := fun same => other (congrArg some same.symm)
      rw [accounts, Table.Ledger.get?_modify, if_neg apart, stored]
    | @removed target accounts =>
      have apart : id ≠ target := fun same => other (congrArg some same.symm)
      rw [accounts, Table.Ledger.get?_remove, if_neg apart, stored]
  · rw [store]
    exact sound.dated.perform proper c

end Service

end Agora
