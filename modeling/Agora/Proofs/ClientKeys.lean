import Agora.Admission.Client
import Agora.Proofs.AddressTexts
import Agora.Proofs.ClientWindows
import Agora.Proofs.TextPieces
import Mathlib.Data.List.TakeWhile

set_option autoImplicit false

namespace Agora.Admission.Client

open Address (Ip Endpoint)
open Http (Headers)
open Time (Span)

/-- What headers report of the client: the one real address, or, without that, the first of the
addresses that the request passed, which ends at a comma or with the value. -/
inductive Reports (headers : Headers) : List Char → Prop where
  | real {text : String} (given : headers.firstText? "x-real-ip" = some text) :
      Reports headers text.toList
  | passed {text : String} {part : List Char} (unnamed : headers.firstText? "x-real-ip" = none)
      (given : headers.firstText? "x-forwarded-for" = some text) (first : ',' ∉ part)
      (starts : text.toList = part ∨ ∃ rest, text.toList = part ++ ',' :: rest) :
      Reports headers part

/-- A text spells an address, between blanks or not. -/
def Spells (cs : List Char) (ip : Ip) : Prop :=
  ∃ left mid right, cs = left ++ mid ++ right ∧ (∀ c ∈ left, Text.isBlank c = true) ∧
    Text.Trimmed mid ∧ (∀ c ∈ right, Text.isBlank c = true) ∧
    Ip.parse? (String.ofList mid) = some ip

/-- The headers report no address. -/
def Silent (headers : Headers) : Prop := ∀ cs ip, Reports headers cs → ¬Spells cs ip

/-- Whose request it is: that of the address which is reported, if reports are trusted, and else
that of the peer, whose port does not matter. -/
inductive Sent (trusted : Bool) (headers : Headers) (peer : Option Endpoint) :
    Option Ip → Prop where
  | reported {cs : List Char} {ip : Ip} (trust : trusted = true) (reports : Reports headers cs)
      (spells : Spells cs ip) : Sent trusted headers peer (some ip)
  | peer (silent : trusted = true → Silent headers) :
      Sent trusted headers peer (peer.map (·.ip))

section

variable {trusted : Bool} {headers : Headers} {peer : Option Endpoint} {cs : List Char} {ip : Ip}

theorem spells_iff : Spells cs ip ↔ Ip.parse? (String.ofList (Text.trim cs)) = some ip := by
  constructor
  · rintro ⟨left, mid, right, rfl, before, trimmed, behind, read⟩
    rwa [Text.trim_between before trimmed behind]
  · intro read
    obtain ⟨trimmed, left, right, parts, before, behind⟩ := Text.trim_parts cs
    exact ⟨left, Text.trim cs, right, parts, before, trimmed, behind, read⟩

theorem takeWhile_eq {text part : List Char} (first : ',' ∉ part)
    (starts : text = part ∨ ∃ rest, text = part ++ ',' :: rest) :
    text.takeWhile (· ≠ ',') = part := by
  have keeps : ∀ c ∈ part, decide (c ≠ ',') = true := fun c inside =>
    decide_eq_true fun same => first (same ▸ inside)
  rcases starts with rfl | ⟨rest, rfl⟩
  · exact List.takeWhile_eq_self_iff.2 keeps
  · rw [List.takeWhile_append_of_pos keeps, List.takeWhile_cons_of_neg (by simp), List.append_nil]

theorem before_comma (text : List Char) :
    ',' ∉ text.takeWhile (· ≠ ',') ∧ (text = text.takeWhile (· ≠ ',') ∨
      ∃ rest, text = text.takeWhile (· ≠ ',') ++ ',' :: rest) := by
  refine ⟨fun inside => absurd (List.mem_takeWhile_imp inside) (by decide), ?_⟩
  have parts : text.takeWhile (· ≠ ',') ++ text.dropWhile (· ≠ ',') = text :=
    List.takeWhile_append_dropWhile
  have stops := List.head?_dropWhile_not (fun c => decide (c ≠ ',')) text
  cases left : text.dropWhile (· ≠ ',') with
  | nil =>
    rw [left, List.append_nil] at parts
    exact .inl parts.symm
  | cons c rest =>
    rw [left] at parts stops
    have comma : c = ',' := by simpa using stops
    rw [comma] at parts
    exact .inr ⟨rest, parts.symm⟩

theorem reports_iff : Reports headers cs ↔ reported? headers = some (String.ofList cs) := by
  have chars {text : String} : text = String.ofList cs ↔ text.toList = cs := by
    rw [← String.toList_inj, String.toList_ofList]
  unfold reported?
  constructor
  · rintro (⟨given⟩ | ⟨unnamed, given, first, starts⟩)
    · rw [given, String.ofList_toList]
    · rw [unnamed, given]
      simp only [Option.map_some, takeWhile_eq first starts]
  · intro found
    split at found
    · rename_i text given
      rw [← chars.1 (Option.some.inj found)]
      exact .real given
    · rename_i unnamed
      obtain ⟨text, given, part⟩ := Option.map_eq_some_iff.1 found
      have cut := String.ofList_injective part
      obtain ⟨first, starts⟩ := before_comma text.toList
      rw [cut] at first starts
      exact .passed unnamed given first starts

theorem forwarded?_eq_some :
    forwarded? headers = some ip ↔ ∃ cs, Reports headers cs ∧ Spells cs ip := by
  simp only [forwarded?, Option.bind_eq_some_iff, reports_iff, spells_iff]
  constructor
  · rintro ⟨text, found, read⟩
    exact ⟨text.toList, by rwa [String.ofList_toList], read⟩
  · rintro ⟨cs, found, read⟩
    exact ⟨_, found, by rwa [String.toList_ofList]⟩

theorem silent_iff : Silent headers ↔ forwarded? headers = none := by
  rw [Option.eq_none_iff_forall_ne_some]
  simp only [ne_eq, forwarded?_eq_some, Silent]
  exact ⟨fun silent ip ⟨cs, reports, spells⟩ => silent cs ip reports spells,
    fun none cs ip reports spells => none ip ⟨cs, reports, spells⟩⟩

/-- The address of a client is that of whoever has sent the request. -/
theorem sent_iff {address : Option Ip} :
    Sent trusted headers peer address ↔ address = address? trusted headers peer := by
  unfold address?
  constructor
  · rintro (⟨trust, reports, spells⟩ | ⟨silent⟩)
    · rw [if_pos trust, forwarded?_eq_some.2 ⟨_, reports, spells⟩, Option.some_or]
    · split
      · rename_i trust
        rw [silent_iff.1 (silent trust), Option.none_or]
      · rw [Option.none_or]
  · rintro rfl
    by_cases trust : trusted = true
    · rw [if_pos trust]
      cases found : forwarded? headers with
      | none => exact .peer fun _ => silent_iff.2 found
      | some ip =>
        obtain ⟨cs, reports, spells⟩ := forwarded?_eq_some.1 found
        exact .reported trust reports spells
    · rw [if_neg trust, Option.none_or]
      exact .peer fun yes => absurd yes trust

end

section

variable (trusted trusted' : Bool) (headers headers' : Headers) (peer peer' : Option Endpoint)

theorem parse?_unknown : Ip.parse? unknown = none := by decide

theorem key_eq :
    key trusted headers peer = (address? trusted headers peer).elim unknown Ip.render := by
  unfold key
  cases address? trusted headers peer <;> rfl

theorem parse?_key : Ip.parse? (key trusted headers peer) = address? trusted headers peer := by
  rw [key_eq]
  cases address? trusted headers peer with
  | none => exact parse?_unknown
  | some ip => exact Ip.parse?_render ip

/-- Clients have the same key if they have the same address. -/
theorem key_eq_key_iff : key trusted headers peer = key trusted' headers' peer' ↔
    address? trusted headers peer = address? trusted' headers' peer' := by
  refine ⟨fun same => ?_, fun same => ?_⟩
  · rw [← parse?_key, same, parse?_key]
  · rw [key_eq, same, ← key_eq]

theorem address?_eq_none :
    address? trusted headers peer = none ↔ peer = none ∧ (trusted = true → Silent headers) := by
  rw [silent_iff, address?, Option.or_eq_none_iff, Option.map_eq_none_iff, and_comm]
  cases trusted <;> simp

/-- What the key of a client tells of it. -/
structure Identifies : Prop where
  /-- The address is that of whoever has sent the request. -/
  sent (address : Option Ip) :
    Sent trusted headers peer address ↔ address = address? trusted headers peer
  text : key trusted headers peer = (address? trusted headers peer).elim unknown Ip.render
  read : Ip.parse? (key trusted headers peer) = address? trusted headers peer
  missing : key trusted headers peer = unknown ↔
    peer = none ∧ (trusted = true → Silent headers)
  /-- Without trust in reports, nothing counts but the peer's address. -/
  untrusted : key false headers peer = (peer.map (·.ip)).elim unknown Ip.render

/-- The key of a client is the text of its address, or says that there is none. Two clients have the
same key, and so share a window, if they have the same address, and a request of one leaves the
window of the other alone if they do not. -/
theorem keys_identify_addresses :
    Identifies trusted headers peer ∧
    (key trusted headers peer = key trusted' headers' peer' ↔
      address? trusted headers peer = address? trusted' headers' peer') ∧
    ∀ (now : Span) (l : Limiter),
      (l.allow now (key trusted headers peer)).2.windows.get? (key trusted' headers' peer') =
        if address? trusted headers peer = address? trusted' headers' peer' then
          (l.allow now (key trusted headers peer)).2.windows.get? (key trusted headers peer)
        else l.windows.get? (key trusted' headers' peer') := by
  have same := key_eq_key_iff trusted trusted' headers headers' peer peer'
  refine ⟨⟨fun address => sent_iff, key_eq _ _ _, parse?_key _ _ _, ?_, key_eq false _ _⟩, same,
    fun now l => ?_⟩
  · rw [← address?_eq_none, ← parse?_key]
    refine ⟨fun nameless => nameless ▸ parse?_unknown, fun none => ?_⟩
    rw [parse?_key] at none
    rw [key_eq, none]
    rfl
  · split
    · rename_i one
      rw [same.2 one]
    · rename_i apart
      exact Limiter.get?_allow fun equal => apart (same.1 equal.symm)

end

/-- Spellings of one address, and two addresses that are not one. -/
example :
    let reported (text : String) := key true [.ofText "x-real-ip" text] none
    reported "2001:DB8:0:0:0:0:0:1" = "2001:db8::1" ∧
      reported " 2001:0db8::0:0.0.0.1\t" = "2001:db8::1" ∧
      reported "::FFFF:a00:7" = "::ffff:10.0.0.7" ∧ reported "10.0.0.7" = "10.0.0.7" ∧
      reported "10.0.0.07" = unknown := by
  decide +kernel

end Agora.Admission.Client
