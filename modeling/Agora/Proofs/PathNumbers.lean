import Agora.Proofs.FollowHistory
import Agora.Proofs.Numerals
import Agora.Proofs.References

set_option autoImplicit false

namespace Agora

namespace Service

open Http (Response)
open Store (Post User)
open Text.Numeral (Denotes IsDecimal)
open Time (Span)

/-- A text is the number of a post or a user. -/
structure IsId (raw : String) (n : Int) : Prop where
  /-- One or more digits of the number, with a plus sign before them or not. -/
  digits : ∃ ds, (raw.toList = ds ∨ raw.toList = '+' :: ds) ∧ IsDecimal ds n.toNat
  positive : 1 ≤ n
  fits : n ≤ 2 ^ 63 - 1

section

variable {raw : String} {n : Int}

theorem isId_iff : IsId raw n ↔ Denotes raw.toList n ∧ 1 ≤ n ∧ n ≤ 2 ^ 63 - 1 := by
  constructor
  · intro id
    exact ⟨(Text.Numeral.denotes_of_positive id.positive).2 id.digits, id.positive, id.fits⟩
  · rintro ⟨denotes, positive, fits⟩
    exact ⟨(Text.Numeral.denotes_of_positive positive).1 denotes, positive, fits⟩

theorem parseId_eq_ok : parseId raw = .ok n ↔ IsId raw n := by
  rw [isId_iff, parseId]
  cases read : Text.Numeral.int64 raw with
  | error fault =>
    refine ⟨nofun, fun ⟨denotes, positive, fits⟩ => ?_⟩
    rw [Text.Numeral.int64_eq_ok.2 ⟨denotes, by omega, fits⟩] at read
    cases read
  | ok k =>
    obtain ⟨denotes, low, high⟩ := Text.Numeral.int64_eq_ok.1 read
    dsimp only
    split
    · rename_i positive
      constructor
      · rintro ⟨⟩
        exact ⟨denotes, positive, high⟩
      · rintro ⟨denotes', _, _⟩
        rw [denotes.unique denotes']
    · rename_i small
      refine ⟨nofun, fun ⟨denotes', positive, _⟩ => ?_⟩
      rw [denotes.unique denotes'] at small
      exact absurd positive small

/-- Whatever is refused is refused with one complaint, which quotes it. -/
theorem parseId_cases (raw : String) :
    (∃ n, parseId raw = .ok n) ∨ parseId raw = .error (.invalidId raw) := by
  unfold parseId
  split
  · split
    · exact .inl ⟨_, rfl⟩
    · exact .inr rfl
  · exact .inr rfl

theorem parseId_eq_error : parseId raw = .error (.invalidId raw) ↔ ∀ n, ¬IsId raw n := by
  constructor
  · intro refused n id
    cases (parseId_eq_ok.2 id).symm.trans refused
  · intro none
    rcases parseId_cases raw with ⟨n, accepted⟩ | refused
    · exact absurd (parseId_eq_ok.1 accepted) (none n)
    · exact refused

/-- Numerals of other numbers are refused, however long they are. -/
theorem parseId_of_outside {k : Int} (denotes : Denotes raw.toList k)
    (outside : k < 1 ∨ 2 ^ 63 ≤ k) : parseId raw = .error (.invalidId raw) := by
  refine parseId_eq_error.2 fun n id => ?_
  obtain ⟨denotes', positive, fits⟩ := isId_iff.1 id
  rw [denotes.unique denotes'] at outside
  omega

/-- A text with anything in it but digits and plus signs is refused. So is one without digits. -/
theorem parseId_of_stray {c : Char} (inside : c ∈ raw.toList) (digit : c.isDigit = false)
    (sign : c ≠ '+') : parseId raw = .error (.invalidId raw) := by
  refine parseId_eq_error.2 fun n ⟨⟨ds, spelled, digits⟩, _, _⟩ => ?_
  have among : c ∈ ds := by
    rcases spelled with whole | signed
    · exact whole ▸ inside
    · rw [signed] at inside
      exact (List.mem_cons.1 inside).resolve_left sign
  exact absurd (digits.digits c among) (by rw [digit]; exact Bool.false_ne_true)

theorem parseId_of_bare (bare : raw.toList = [] ∨ raw.toList = ['+']) :
    parseId raw = .error (.invalidId raw) := by
  refine parseId_eq_error.2 fun n ⟨⟨ds, spelled, digits⟩, _, _⟩ => ?_
  rcases bare with empty | sign
  · rw [empty] at spelled
    rcases spelled with none | signed
    · exact digits.some none.symm
    · cases signed
  · rw [sign] at spelled
    rcases spelled with plain | signed
    · exact (plain ▸ digits).head.1 rfl
    · exact digits.some (List.cons.inj signed).2.symm

theorem parseId_toString (positive : 1 ≤ n) (fits : n ≤ 2 ^ 63 - 1) :
    parseId (toString n) = .ok n := by
  rw [parseId, Text.Numeral.int64_toString, if_neg (by omega), if_neg (by omega)]
  exact if_pos positive

theorem invalidId_response (raw : String) :
    (Failure.badRequest (.invalidId raw)).response =
      .ofJson 400 (.object [("error", .string ("invalid id '" ++ raw ++ "'"))]) := rfl

end

/-- A piece of a path spells the number of a post or a user. -/
def Spells (segment : String) (n : Int) : Prop :=
  ∃ raw, Http.pathText? segment = some raw ∧ IsId raw n

theorem names_iff_spells {segment : String} {n : Int} : names segment n ↔ Spells segment n := by
  simp only [names, Spells, parseId_eq_ok]

/-- What a path can lead to. -/
inductive Target where
  | post (id : Int)
  | user (id : Int)

def Target.id : Target → Int
  | .post id | .user id => id

/-- A piece of a path leads to a target: in some state, the post or the user is loaded for a request
that has it in its path, or the account is deleted by an operator. -/
inductive LeadsTo (segment : String) : Target → Prop where
  | post {env : Env} {cutoff : Option Span} {s after : State} {post : Post}
      (loads : (loadPost segment).run env cutoff s = (.done post, after)) :
      LeadsTo segment (.post post.id)
  | user {env : Env} {cutoff : Option Span} {s after : State} {person : User}
      (loads : (loadUser segment).run env cutoff s = (.done person, after)) :
      LeadsTo segment (.user person.id)
  | account {env : Env} {cutoff : Option Span} {s after : State} {response : Response} {id : Int}
      (deletes : (deleteAccount segment).run env cutoff s = (.done response, after))
      (before : s.store.tables.accounts.contains id = true)
      (gone : after.store.tables.accounts.contains id = false) : LeadsTo segment (.user id)

section

variable {segment raw : String} {n : Int} {target : Target}

/-- The account that a deletion takes out is the one that is named. -/
theorem deleteAccount_gone {env : Env} {cutoff : Option Span} {s after : State}
    {response : Response}
    (deletes : (deleteAccount segment).run env cutoff s = (.done response, after))
    (before : s.store.tables.accounts.contains n = true)
    (gone : after.store.tables.accounts.contains n = false) : names segment n := by
  obtain ⟨id, named, performed, _⟩ := deleteAccount_done deletes
  have up := Store.available_of_ok performed
  rcases Store.perform_deleteUser up env.now id with ⟨_, _, accounts, _⟩ | ⟨_, failed⟩
  · rw [performed] at accounts
    by_cases same : n = id
    · exact same ▸ named
    · have stands := Table.Ledger.contains_remove same before
      rw [← accounts, gone] at stands
      cases stands
  · cases failed.symm.trans performed

/-- A piece of a path leads to what it spells the number of. -/
theorem LeadsTo.spells (leads : LeadsTo segment target) : Spells segment target.id := by
  rw [← names_iff_spells]
  cases leads with
  | post loads => exact (loadPost_done loads).named
  | user loads => exact loadUser_done loads
  | account deletes before gone => exact deleteAccount_gone deletes before gone

/-- What is done for a piece of a path with a number in it is done with this number. -/
structure Followed (segment : String) (n : Int) : Prop where
  post : loadPost segment = Plan.call (.post n)
  user : loadUser segment = Plan.call (.user n)
  account : deleteAccount segment = do
    Plan.call (.deleteUser n)
    Plan.ask (.evict n)
    return .ofStatus 204

theorem followed (text : Http.pathText? segment = some raw) (id : IsId raw n) :
    Followed segment n := by
  have number : pathId segment = .done n := pathId_of_names ⟨raw, text, parseId_eq_ok.2 id⟩
  exact ⟨by rw [loadPost, number]; rfl, by rw [loadUser, number]; rfl,
    by rw [deleteAccount, number]; rfl⟩

section

variable {env : Env} {cutoff : Option Span} {s : State}

theorem run_call_of_prompt {c : Store.Call} {a : c.Answer} (prompt : env.delay = 0)
    (answers : s.store.perform env.now c = (.ok a, s.store)) :
    (Plan.call c).run env cutoff s = (.done a, s) := by
  simp only [Plan.call, Plan.run, Step.perform]
  rw [performCall_of_prompt prompt, answers]
  rfl

/-- A post that is stored is where a path leads to that spells its number. -/
theorem leadsTo_post {post : Post} (prompt : env.delay = 0) (up : s.store.available = true)
    (held : s.store.tables.posts.get? post.id = some post) :
    LeadsTo segment (.post post.id) ↔ Spells segment post.id := by
  constructor
  · exact LeadsTo.spells
  · rintro ⟨raw, text, id⟩
    have loads : (loadPost segment).run env none s = (.done post, s) := by
      rw [(followed text id).post]
      exact run_call_of_prompt prompt (by rw [Store.perform_post up, held]; rfl)
    exact .post loads

theorem leadsTo_user {a : Store.Account} (prompt : env.delay = 0) (up : s.store.available = true)
    (held : s.store.tables.accounts.get? a.user.id = some a) :
    LeadsTo segment (.user a.user.id) ↔ Spells segment a.user.id := by
  constructor
  · exact LeadsTo.spells
  · rintro ⟨raw, text, id⟩
    have loads : (loadUser segment).run env none s = (.done a.user, s) := by
      rw [(followed text id).user]
      exact run_call_of_prompt prompt (by rw [Store.perform_user up, held]; rfl)
    exact .user loads

end

/-- Nothing is done for a piece of a path but to answer that its text is no number. -/
structure Rejected (segment raw : String) : Prop where
  post : loadPost segment = Plan.fail (.badRequest (.invalidId raw))
  user : loadUser segment = Plan.fail (.badRequest (.invalidId raw))
  account : deleteAccount segment = Plan.fail (.badRequest (.invalidId raw))

theorem rejected (text : Http.pathText? segment = some raw) (none : ∀ n, ¬IsId raw n) :
    Rejected segment raw := by
  have refused : pathId segment = Plan.fail (.badRequest (.invalidId raw)) := by
    rw [pathId_of_text text, parseId_eq_error.2 none]
    rfl
  exact ⟨by rw [loadPost, refused]; rfl, by rw [loadUser, refused]; rfl,
    by rw [deleteAccount, refused]; rfl⟩

end

/-- A text is refused, with an answer that quotes it. -/
structure RefusedAsId (raw : String) : Prop where
  complaint : parseId raw = .error (.invalidId raw)
  answer : (Failure.badRequest (.invalidId raw)).response =
    .ofJson 400 (.object [("error", .string ("invalid id '" ++ raw ++ "'"))])

theorem refusedAsId_iff {raw : String} : RefusedAsId raw ↔ ∀ n, ¬IsId raw n :=
  ⟨fun refused => parseId_eq_error.1 refused.complaint,
    fun none => ⟨parseId_eq_error.2 none, invalidId_response raw⟩⟩

/-- How a text is read where a number is wanted. -/
structure ReadAsId (raw : String) : Prop where
  /-- It is accepted as the number that it is the numeral of. -/
  accepted : ∀ n, parseId raw = .ok n ↔ IsId raw n
  /-- All other texts are refused. -/
  refused : RefusedAsId raw ↔ ∀ n, ¬IsId raw n
  /-- Numerals of other numbers are among them, of whatever length. -/
  outside : ∀ k, Denotes raw.toList k → k < 1 ∨ 2 ^ 63 ≤ k → RefusedAsId raw
  /-- So is what has anything in it but digits and a plus sign, such as a blank or a minus sign. -/
  stray : ∀ c ∈ raw.toList, c.isDigit = false → c ≠ '+' → RefusedAsId raw
  /-- So is what has no digits. -/
  bare : raw = "" ∨ raw = "+" ∨ raw = "-" → RefusedAsId raw

theorem readAsId (raw : String) : ReadAsId raw where
  accepted _ := parseId_eq_ok
  refused := refusedAsId_iff
  outside _ denotes beyond := ⟨parseId_of_outside denotes beyond, invalidId_response raw⟩
  stray _ inside digit sign := ⟨parseId_of_stray inside digit sign, invalidId_response raw⟩
  bare := by
    rintro (rfl | rfl | rfl)
    · exact ⟨parseId_of_bare (.inl rfl), invalidId_response ""⟩
    · exact ⟨parseId_of_bare (.inr rfl), invalidId_response "+"⟩
    · exact ⟨parseId_of_stray (.head _) rfl (by decide), invalidId_response "-"⟩

/-- A path leads to a post or a user by a numeral of its number and by no other text: texts are
accepted as the positive numbers of 64 bits that they are numerals of, and as these numbers they are
followed; all others are refused. So two paths to one place have numerals of one number in them. -/
theorem paths_lead_by_numerals (raw segment other : String) :
    ReadAsId raw ∧
    (∀ n, 1 ≤ n → n ≤ 2 ^ 63 - 1 → parseId (toString n) = .ok n) ∧
    (Http.pathText? segment = some raw →
      (∀ n, IsId raw n → Followed segment n) ∧ ((∀ n, ¬IsId raw n) → Rejected segment raw)) ∧
    (∀ target, LeadsTo segment target → LeadsTo other target →
      Spells segment target.id ∧ Spells other target.id) :=
  ⟨readAsId raw, fun _ => parseId_toString,
    fun text => ⟨fun _ => followed text, rejected text⟩,
    fun _ one another => ⟨one.spells, another.spells⟩⟩

/-- The least number that is too large, where arithmetic that wraps around would turn negative. -/
example : parseId "9223372036854775808" = .error (.invalidId "9223372036854775808") := by
  decide +kernel

end Service

end Agora
