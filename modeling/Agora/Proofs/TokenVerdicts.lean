import Agora.Proofs.Logins
import Agora.Proofs.Numerals

/-!
What verifying makes of a token. A token that was signed under the configuration is judged by its
claims: whom it names, for whom it is, and when it begins and ends, give or take the tolerated skew;
its subject is the user if it is a numeral. So an issued token is its user's from the moment of its
issue until it has expired, and no longer. And a token that was not signed under the secret is
rejected, whatever it says.
-/

set_option autoImplicit false

namespace Agora.Token

open Text.Numeral (Denotes)
open Time (Stamp)

/-- The claims name the configured issuer and audience, and the moment lies between their times, or
beside them by no more than the tolerated skew. -/
structure Claims.Current (config : Config.Token) (now : Int) (c : Claims) : Prop where
  issuer : c.issuer = config.issuer
  audience : c.audience = config.audience
  unexpired : now - config.leeway ≤ c.expires
  mature : c.notBefore ≤ now + config.leeway

/-- The last part of the token is the signature under the secret of all that stands before it. -/
def SignedUnder (secret token : String) : Prop :=
  ∃ message last, token.toList = message ++ '.' :: last ∧ '.' ∉ last ∧
    Base64.urlSafe.decode? last = some (signature secret message)

section

variable {config : Config.Token} {now : Int} {c : Claims}

/-- With a skew that does not reach back behind the start of 1970, nothing is taken around the range
of the times. -/
theorem wrapWord_skew (begun : (config.leeway : Int) ≤ now) (clock : Json.FitsInt64 now) :
    wrapWord (now - config.leeway) = now - config.leeway ∧
      wrapWord (now + config.leeway) = now + config.leeway := by
  obtain ⟨_, high⟩ := clock
  constructor
  · apply Int.emod_eq_of_lt
    · omega
    · omega
  · apply Int.emod_eq_of_lt
    · omega
    · omega

theorem demand_eq_ok {holds : Bool} {otherwise : Rejection} :
    demand holds otherwise = .ok () ↔ holds = true := by
  cases holds <;> simp [demand]

theorem demand_then {holds : Bool} {otherwise : Rejection} {rest : Except Rejection Unit} :
    (demand holds otherwise >>= fun _ => rest) = .ok () ↔ holds = true ∧ rest = .ok () := by
  cases holds <;> simp [demand, bind, Except.bind]

/-- Claims with sound times meet the demands if they are current. -/
theorem Claims.check_eq_ok (begun : (config.leeway : Int) ≤ now) (clock : Json.FitsInt64 now)
    (ends : 0 ≤ c.expires) (begins : 0 ≤ c.notBefore) :
    c.check config now = .ok () ↔ c.Current config now := by
  obtain ⟨early, late⟩ := wrapWord_skew begun clock
  rw [check, demand_then, demand_then, demand_then, demand_then, demand_eq_ok, early, late]
  simp only [Bool.and_eq_true, decide_eq_true_eq]
  constructor
  · rintro ⟨_, unexpired, mature, issuer, audience⟩
    exact ⟨issuer, audience, unexpired, mature⟩
  · intro current
    exact ⟨⟨ends, begins⟩, current.unexpired, current.mature, current.issuer, current.audience⟩

theorem Claims.check_of_expired (begun : (config.leeway : Int) ≤ now) (clock : Json.FitsInt64 now)
    (ends : 0 ≤ c.expires) (begins : 0 ≤ c.notBefore) (expired : c.expires < now - config.leeway) :
    c.check config now = .error .expired := by
  obtain ⟨early, _⟩ := wrapWord_skew begun clock
  have late : decide (wrapWord (now - config.leeway) ≤ c.expires) = false := by
    rw [early]
    exact decide_eq_false (by omega)
  rw [check, late, decide_eq_true ends, decide_eq_true begins]
  rfl

/-- Which signed claims verify, as what, and how those that do not are turned down. -/
theorem verify_sign_cases (begun : (config.leeway : Int) ≤ now) (clock : Json.FitsInt64 now)
    (legible : c.Legible) (ends : 0 ≤ c.expires) (begins : 0 ≤ c.notBefore) :
    (∃ r, ¬c.Current config now ∧ verify config now (sign config c) = .error (.rejected r)) ∨
    (∃ id, c.Current config now ∧ Text.Numeral.int64 c.subject = .ok id ∧
      verify config now (sign config c) = .ok id) ∨
    (∃ fault, c.Current config now ∧ Text.Numeral.int64 c.subject = .error fault ∧
      verify config now (sign config c) = .error .subjectNotNumber) := by
  have current := Claims.check_eq_ok begun clock ends begins
  rw [verify, claims_sign, if_pos legible]
  cases checked : c.check config now with
  | error r =>
    rw [checked] at current
    refine .inl ⟨r, fun holds => ?_, rfl⟩
    cases current.2 holds
  | ok _ =>
    rw [checked] at current
    cases subject : Text.Numeral.int64 c.subject with
    | ok id =>
      refine .inr (.inl ⟨id, current.1 rfl, rfl, ?_⟩)
      simp only [Except.map, subject]
    | error fault =>
      refine .inr (.inr ⟨fault, current.1 rfl, rfl, ?_⟩)
      simp only [Except.map, subject]

end

/-- An issued token is its user's until it has expired, and is rejected from then on. -/
theorem verify_issue_over_time {config : Config.Token} {now : Int} {issued : Stamp} {id : Int}
    (begun : (config.leeway : Int) ≤ now) (clock : Json.FitsInt64 now)
    (short : config.expiry ≤ 365 * 86400) (within : issued.representable = true)
    (since : 0 ≤ issued.second) (number : Json.FitsInt64 id) (later : issued.second ≤ now) :
    verify config now (issue config issued.second id) =
      if now ≤ issued.second + config.expiry + config.leeway then .ok id
      else .error (.rejected .expired) := by
  obtain ⟨low, high⟩ := issued.second_of_representable within
  have lifetime : Claims.wrap (config.expiry : Int) = config.expiry :=
    wrap_of_fits ⟨by omega, by omega⟩
  have expires : (Claims.issue config issued.second id).expires =
      issued.second + config.expiry := by
    rw [Claims.issue, lifetime]
    exact wrap_of_fits ⟨by omega, by omega⟩
  have ends : 0 ≤ (Claims.issue config issued.second id).expires := by
    rw [expires]
    omega
  have begins : (Claims.issue config issued.second id).notBefore = issued.second := rfl
  have fits : Json.FitsInt64 issued.second := ⟨by omega, by omega⟩
  rw [verify_issue, if_pos fits]
  by_cases alive : now ≤ issued.second + config.expiry + config.leeway
  · have current : (Claims.issue config issued.second id).Current config now := {
      issuer := rfl
      audience := rfl
      unexpired := by
        rw [expires]
        omega
      mature := by
        rw [begins]
        omega }
    rw [(Claims.check_eq_ok begun clock ends since).2 current, if_pos alive]
    exact if_pos number
  · have expired : (Claims.issue config issued.second id).expires < now - config.leeway := by
      rw [expires]
      omega
    rw [Claims.check_of_expired begun clock ends since expired, if_neg alive]

theorem eq_of_splitLast? {cs message last : List Char}
    (split : splitLast? cs = some (message, last)) : cs = message ++ '.' :: last ∧ '.' ∉ last := by
  have parts : cs.reverse =
      cs.reverse.takeWhile (· ≠ '.') ++ cs.reverse.dropWhile (· ≠ '.') :=
    List.takeWhile_append_dropWhile.symm
  have plain : ∀ c ∈ cs.reverse.takeWhile (· ≠ '.'), c ≠ '.' := fun c among =>
    of_decide_eq_true (List.all_eq_true.1 List.all_takeWhile c among)
  unfold splitLast? at split
  generalize cs.reverse.takeWhile (· ≠ '.') = tail at parts plain split
  cases rest : cs.reverse.dropWhile (· ≠ '.') with
  | nil =>
    have whole : tail.length = cs.length := by
      rw [rest, List.append_nil] at parts
      rw [← parts, List.length_reverse]
    dsimp only at split
    rw [if_neg (by omega)] at split
    cases split
  | cons d front =>
    have dot : d = '.' := by
      have first := List.head?_dropWhile_not (fun c => decide (c ≠ '.')) cs.reverse
      rw [rest] at first
      simpa using first
    have whole : cs = front.reverse ++ '.' :: tail.reverse := by
      have turned := congrArg List.reverse parts
      rw [List.reverse_reverse, rest, dot] at turned
      rw [turned]
      simp
    have length : cs.length = front.length + 1 + tail.length := by
      rw [whole, List.length_append, List.length_cons, List.length_reverse, List.length_reverse]
      omega
    dsimp only at split
    rw [if_pos (by omega)] at split
    cases split
    have kept : cs.length - tail.length - 1 = front.reverse.length := by
      rw [List.length_reverse]
      omega
    refine ⟨?_, fun among => plain '.' (List.mem_reverse.1 among) rfl⟩
    rw [kept]
    nth_rewrite 1 [whole]
    rw [whole, List.take_left]

theorem decode?_of_octets {cs : List Char} {b : Bytes} (read : octets cs = .ok b) :
    Base64.urlSafe.decode? cs = some b := by
  unfold octets at read
  split at read
  · rename_i found
    cases read
    exact found
  · cases read

/-- Whoever has claims that are accepted has signed them. -/
theorem signedUnder_of_claims {config : Config.Token} {now : Int} {token : String} {c : Claims}
    (accepted : claims config now token = .ok c) : SignedUnder config.secret token := by
  unfold claims at accepted
  cases outer : splitLast? token.toList with
  | none =>
    rw [outer] at accepted
    cases accepted
  | some parts =>
    obtain ⟨message, last⟩ := parts
    cases inner : splitLast? message with
    | none =>
      simp only [outer, inner] at accepted
      cases accepted
    | some pieces =>
      simp only [outer, inner] at accepted
      obtain ⟨_, _, accepted⟩ := Service.ok_of_bind accepted
      obtain ⟨_, _, accepted⟩ := Service.ok_of_bind accepted
      obtain ⟨_, _, accepted⟩ := Service.ok_of_bind accepted
      obtain ⟨given, read, accepted⟩ := Service.ok_of_bind accepted
      obtain ⟨_, signed, _⟩ := Service.ok_of_bind accepted
      obtain ⟨whole, plain⟩ := eq_of_splitLast? outer
      have same : given = signature config.secret message :=
        of_decide_eq_true (demand_eq_ok.1 signed)
      exact ⟨message, last, whole, plain, same ▸ decode?_of_octets read⟩

/-- A token that is not signed under the secret is rejected. -/
theorem verify_of_unsigned {config : Config.Token} {token : String}
    (unsigned : ¬SignedUnder config.secret token) (now : Int) :
    ∃ r, verify config now token = .error (.rejected r) := by
  rw [verify]
  cases accepted : claims config now token with
  | error r => exact ⟨r, rfl⟩
  | ok c => exact absurd (signedUnder_of_claims accepted) unsigned

/-- What is signed verifies as what it claims, and nothing else verifies. At a moment to which the
clock may be set and which the tolerated skew does not take behind the start of 1970, claims that
were signed verify as the number that their subject denotes if they are current; they are found to
name no user if they are current and the subject denotes none; and they are rejected if they are not
current. An issued token is therefore that of its user, whatever the number, from its issue until it
has expired and the skew is over, and at no later time. A token whose last part is not the signature
under the secret is rejected at any time, whatever it claims. -/
theorem verify_inverts_sign (config : Config.Token) (now : Int)
    (begun : (config.leeway : Int) ≤ now) (clock : Json.FitsInt64 now) :
    (∀ c : Claims, c.Legible → 0 ≤ c.expires → 0 ≤ c.notBefore →
      (∀ id, verify config now (sign config c) = .ok id ↔
        c.Current config now ∧ Denotes c.subject.toList id ∧ Json.FitsInt64 id) ∧
      (verify config now (sign config c) = .error .subjectNotNumber ↔
        c.Current config now ∧ ∀ id, Denotes c.subject.toList id → ¬Json.FitsInt64 id) ∧
      ((∃ r, verify config now (sign config c) = .error (.rejected r)) ↔
        ¬c.Current config now)) ∧
    (∀ (issued : Stamp) (id : Int), config.expiry ≤ 365 * 86400 → issued.representable = true →
      0 ≤ issued.second → Json.FitsInt64 id → issued.second ≤ now →
      (verify config now (issue config issued.second id) = .ok id ↔
        now ≤ issued.second + config.expiry + config.leeway) ∧
      (issued.second + config.expiry + config.leeway < now →
        verify config now (issue config issued.second id) = .error (.rejected .expired))) ∧
    ∀ token moment, ¬SignedUnder config.secret token →
      ∃ r, verify config moment token = .error (.rejected r) := by
  refine ⟨?_, ?_, ?_⟩
  · intro c legible ends begins
    rcases verify_sign_cases begun clock legible ends begins with
      ⟨r, outdated, verdict⟩ | ⟨id, current, read, verdict⟩ | ⟨fault, current, read, verdict⟩
    · rw [verdict]
      refine ⟨fun id => ?_, ?_, ?_⟩
      · simp [outdated]
      · simp [outdated]
      · simp [outdated]
    · rw [verdict]
      refine ⟨fun other => ?_, ?_, ?_⟩
      · rw [← Text.Numeral.int64_eq_ok, read]
        simp [current]
      · have denoted := Text.Numeral.int64_eq_ok.1 read
        constructor
        · nofun
        · rintro ⟨_, none⟩
          exact absurd denoted.2 (none id denoted.1)
      · simp [current]
    · rw [verdict]
      refine ⟨fun other => ?_, ?_, ?_⟩
      · rw [← Text.Numeral.int64_eq_ok, read]
        simp
      · have none (id : Int) (denoted : Denotes c.subject.toList id) : ¬Json.FitsInt64 id := by
          intro fits
          have other := Text.Numeral.int64_eq_ok.2 ⟨denoted, fits⟩
          rw [read] at other
          cases other
        simp only [true_iff]
        exact ⟨current, none⟩
      · simp [current]
  · intro issued id short within since number later
    rw [verify_issue_over_time begun clock short within since number later]
    constructor
    · split
      · simp [*]
      · simp [*]
    · intro late
      exact if_neg (by omega)
  · intro token moment unsigned
    exact verify_of_unsigned unsigned moment

namespace Sample

/-- A service whose names hold what has to be escaped, and which tolerates a skew. -/
def tolerant : Config.Token where
  secret := "κλειδί"
  issuer := "the \"agora\"\n"
  audience := "\\ €"
  expiry := 10
  leeway := 5

/-- Claims on behalf of a number that is written with zeros in front. -/
def claims : Claims := ⟨"-007", 100, 100, 110, tolerant.issuer, tolerant.audience⟩

theorem seven : Denotes claims.subject.toList (-7) := by
  have written : claims.subject.toList = ['-', '0', '0', '7'] := by decide
  rw [written]
  exact .minus (n := 7) ⟨by simp, by simp, by decide⟩

def unsigned : String := "e30.e30."

theorem not_signedUnder : ¬SignedUnder tolerant.secret unsigned := by
  rintro ⟨message, last, whole, plain, signed⟩
  have parts : splitLast? unsigned.toList = some ("e30.e30".toList, []) := by decide
  rw [whole, splitLast?_append message plain] at parts
  cases parts
  have digest (s : Digest.Sha256.State) : s.toBytes ≠ [] := by
    intro none
    cases none
  exact digest _ (Option.some.inj signed).symm

end Sample

/-- In the last second of the skew claims still verify, and so does a token that has expired five
seconds ago; one that is a second older is rejected, and so is one without a signature. -/
theorem last_second_of_skew :
    (Sample.tolerant.leeway : Int) ≤ 115 ∧ Json.FitsInt64 115 ∧ Sample.claims.Legible ∧
    Sample.claims.Current Sample.tolerant 115 ∧
    verify Sample.tolerant 115 (sign Sample.tolerant Sample.claims) = .ok (-7) ∧
    verify Sample.tolerant 115 (issue Sample.tolerant 100 (-7)) = .ok (-7) ∧
    verify Sample.tolerant 115 (issue Sample.tolerant 99 (-7)) = .error (.rejected .expired) ∧
    ∃ r, verify Sample.tolerant 115 Sample.unsigned = .error (.rejected r) := by
  have current : Sample.claims.Current Sample.tolerant 115 :=
    ⟨rfl, rfl, by decide, by decide⟩
  obtain ⟨signed, issued, others⟩ :=
    verify_inverts_sign Sample.tolerant 115 (by decide) (by decide)
  have verdict := (signed Sample.claims (by decide) (by decide) (by decide)).1 (-7)
  have inTime := (issued ⟨100, 0⟩ (-7) (by decide) (by decide) (by decide) (by decide)
    (by decide)).1
  have tooLate := (issued ⟨99, 0⟩ (-7) (by decide) (by decide) (by decide) (by decide)
    (by decide)).2
  refine ⟨by decide, by decide, by decide, current, ?_, ?_, ?_, ?_⟩
  · exact verdict.2 ⟨current, Sample.seven, by decide⟩
  · exact inTime.2 (by decide)
  · exact tooLate (by decide)
  · exact others Sample.unsigned 115 Sample.not_signedUnder

end Agora.Token
