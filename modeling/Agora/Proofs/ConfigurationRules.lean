import Agora.Config.Load
import Mathlib.Data.List.Nodup

/-!
What validation has to say about a configuration. It accepts a configuration that keeps all rules,
and otherwise lists the broken ones, each once and in their order. A rule reads the settings that
its problem is reported under and no others, so a setting that is put right takes with it the
problems reported under its name and leaves the rest of the list as it was.
-/

set_option autoImplicit false

namespace Agora

theorem Credential.Password.costAllowed_iff {cost : Nat} :
    costAllowed cost = true ↔ 4 ≤ cost ∧ cost ≤ 31 := by
  rw [costAllowed, Bool.and_eq_true, decide_eq_true_iff, decide_eq_true_iff]
  rfl

namespace Config

/-- A configuration that can be put to use. -/
structure Sound (c : Config) : Prop where
  bindAddress : ∃ e, Address.Endpoint.parse? c.listener.bindAddress = some e
  request : 0 < c.timeouts.request ∧ c.timeouts.request ≤ 365 * 24 * 60 * 60
  storeCall : 0 < c.timeouts.storeCall ∧ c.timeouts.storeCall ≤ 365 * 24 * 60 * 60
  maxRequests : 0 < c.rateLimit.maxRequests
  window : 0 < c.rateLimit.window ∧ c.rateLimit.window ≤ 365 * 24 * 60 * 60
  ttl : 0 < c.cache.ttl ∧ c.cache.ttl ≤ 365 * 24 * 60 * 60
  jitter : c.cache.jitter ≤ 365 * 24 * 60 * 60
  invitation : 0 < c.auth.invitationTtl ∧ c.auth.invitationTtl ≤ 365 * 24 * 60 * 60
  secret : c.auth.token.secret ≠ ""
  issuer : c.auth.token.issuer ≠ ""
  audience : c.auth.token.audience ≠ ""
  expiry : 0 < c.auth.token.expiry ∧ c.auth.token.expiry ≤ 365 * 24 * 60 * 60
  leeway : c.auth.token.leeway ≤ 365 * 24 * 60 * 60
  cost : 4 ≤ c.auth.passwordCost ∧ c.auth.passwordCost ≤ 31
  username : c.auth.operator.username ≠ ""
  password : c.auth.operator.password ≠ ""
  readRole : c.authorization.readRole ≠ ""
  updateRole : c.authorization.updateRole ≠ ""
  deleteRole : c.authorization.deleteRole ≠ ""
  metricsAddress : c.observability.metricsEnabled = true →
    ∃ e, Address.Endpoint.parse? c.observability.metricsAddress = some e

def Rule.problem (r : Rule) (c : Config) : Problem := ⟨r.field, r.message c⟩

theorem Rule.problem?_eq (r : Rule) (c : Config) :
    r.problem? c = if r.holds c then none else some (r.problem c) := rfl

section

variable {c : Config}

theorem valid_iff_holds : c.Valid ↔ ∀ r ∈ Rule.all, r.holds c = true := by
  rw [Valid, problems, List.filterMap_eq_nil_iff]
  refine forall₂_congr fun r _ => ?_
  rw [Rule.problem?_eq]
  split <;> simp [*]

/-- The rules ask for just what makes a configuration fit for use. -/
theorem holds_iff_sound : (∀ r ∈ Rule.all, r.holds c = true) ↔ Sound c := by
  have endpoint (text : String) : Rule.isEndpoint text = true ↔
      ∃ e, Address.Endpoint.parse? text = some e := Option.isSome_iff_exists
  have metrics : (c.observability.metricsEnabled = false ∨
        ∃ e, Address.Endpoint.parse? c.observability.metricsAddress = some e) ↔
      (c.observability.metricsEnabled = true →
        ∃ e, Address.Endpoint.parse? c.observability.metricsAddress = some e) := by
    rw [← Bool.not_eq_true, Decidable.imp_iff_not_or]
  simp only [Rule.all, List.forall_mem_cons, List.not_mem_nil, false_imp_iff, implies_true,
    and_true, Rule.bindAddress, Rule.positive, Rule.lifetime, Rule.nonempty, Rule.passwordCost,
    Rule.operatorCredentials, Rule.metricsAddress, decide_eq_true_eq,
    Bool.and_eq_true, Bool.or_eq_true, Bool.not_eq_true', Credential.Password.costAllowed_iff,
    endpoint, metrics]
  constructor
  · rintro ⟨bindAddress, request, storeCall, maxRequests, window, ttl, invitation, request',
      storeCall', window', ttl', jitter, invitation', expiry', leeway, secret, issuer, audience,
      expiry, cost, ⟨username, password⟩, readRole, updateRole, deleteRole, metricsAddress⟩
    exact {
      bindAddress, maxRequests, jitter, secret, issuer, audience, leeway, cost, username, password,
      readRole, updateRole, deleteRole, metricsAddress
      request := ⟨request, request'⟩
      storeCall := ⟨storeCall, storeCall'⟩
      window := ⟨window, window'⟩
      ttl := ⟨ttl, ttl'⟩
      invitation := ⟨invitation, invitation'⟩
      expiry := ⟨expiry, expiry'⟩ }
  · intro s
    exact ⟨s.bindAddress, s.request.1, s.storeCall.1, s.maxRequests, s.window.1, s.ttl.1,
      s.invitation.1, s.request.2, s.storeCall.2, s.window.2, s.ttl.2, s.jitter, s.invitation.2,
      s.expiry.2, s.leeway, s.secret, s.issuer, s.audience, s.expiry.1, s.cost,
      ⟨s.username, s.password⟩, s.readRole, s.updateRole, s.deleteRole, s.metricsAddress⟩

/-- No two rules say the same of a configuration. -/
theorem nodup_problem (c : Config) : (Rule.all.map (·.problem c)).Nodup := by
  -- Only the words about the address to listen at depend on the configuration.
  have others : Rule.all.tail.map (·.problem c) = Rule.all.tail.map (·.problem {}) := rfl
  have whole : Rule.all.map (·.problem c) =
      Rule.bindAddress.problem c :: Rule.all.tail.map (·.problem {}) := rfl
  rw [whole, List.nodup_cons]
  refine ⟨fun inside => ?_, by decide +kernel⟩
  have named : "listener.bind_address" ∈ (Rule.all.tail.map (·.problem {})).map (·.field) :=
    List.mem_map.2 ⟨_, inside, rfl⟩
  exact absurd named (by decide +kernel)

theorem problems_eq (c : Config) :
    c.problems = (Rule.all.filter fun r => !r.holds c).map (·.problem c) := by
  rw [problems, ← List.filterMap_eq_map, List.filterMap_filter]
  refine congrArg (List.filterMap · Rule.all) (funext fun r => ?_)
  rw [Rule.problem?_eq]
  cases r.holds c <;> rfl

theorem problem_mem_iff {r : Rule} (listed : r ∈ Rule.all) :
    r.problem c ∈ c.problems ↔ r.holds c = false := by
  rw [problems_eq, List.mem_map]
  constructor
  · rintro ⟨other, broken, same⟩
    obtain ⟨listed', broken⟩ := List.mem_filter.1 broken
    -- The same words come from the same rule only.
    have one : other = r := List.inj_on_of_nodup_map (nodup_problem c) listed' listed same
    rw [← one]
    simpa using broken
  · intro broken
    exact ⟨r, List.mem_filter.2 ⟨listed, by rw [broken]; rfl⟩, rfl⟩

end

/-- The settings of a configuration. -/
inductive Setting where
  | env
  | bindAddress
  | trustForwarded
  | maxBodySize
  | request
  | storeCall
  | limiterEnabled
  | maxRequests
  | window
  | cacheEnabled
  | ttl
  | jitter
  | secret
  | issuer
  | audience
  | expiry
  | leeway
  | username
  | password
  | invitationTtl
  | passwordCost
  | readRole
  | updateRole
  | deleteRole
  | logLevel
  | jsonLogs
  | metricsEnabled
  | metricsAddress
  | adminEnabled
  deriving DecidableEq

namespace Setting

/-- Two configurations have a setting in common. -/
def Agree (c c' : Config) : Setting → Prop
  | env => c.env = c'.env
  | bindAddress => c.listener.bindAddress = c'.listener.bindAddress
  | trustForwarded => c.listener.trustForwarded = c'.listener.trustForwarded
  | maxBodySize => c.listener.maxBodySize = c'.listener.maxBodySize
  | request => c.timeouts.request = c'.timeouts.request
  | storeCall => c.timeouts.storeCall = c'.timeouts.storeCall
  | limiterEnabled => c.rateLimit.enabled = c'.rateLimit.enabled
  | maxRequests => c.rateLimit.maxRequests = c'.rateLimit.maxRequests
  | window => c.rateLimit.window = c'.rateLimit.window
  | cacheEnabled => c.cache.enabled = c'.cache.enabled
  | ttl => c.cache.ttl = c'.cache.ttl
  | jitter => c.cache.jitter = c'.cache.jitter
  | secret => c.auth.token.secret = c'.auth.token.secret
  | issuer => c.auth.token.issuer = c'.auth.token.issuer
  | audience => c.auth.token.audience = c'.auth.token.audience
  | expiry => c.auth.token.expiry = c'.auth.token.expiry
  | leeway => c.auth.token.leeway = c'.auth.token.leeway
  | username => c.auth.operator.username = c'.auth.operator.username
  | password => c.auth.operator.password = c'.auth.operator.password
  | invitationTtl => c.auth.invitationTtl = c'.auth.invitationTtl
  | passwordCost => c.auth.passwordCost = c'.auth.passwordCost
  | readRole => c.authorization.readRole = c'.authorization.readRole
  | updateRole => c.authorization.updateRole = c'.authorization.updateRole
  | deleteRole => c.authorization.deleteRole = c'.authorization.deleteRole
  | logLevel => c.observability.logLevel = c'.observability.logLevel
  | jsonLogs => c.observability.jsonLogs = c'.observability.jsonLogs
  | metricsEnabled => c.observability.metricsEnabled = c'.observability.metricsEnabled
  | metricsAddress => c.observability.metricsAddress = c'.observability.metricsAddress
  | adminEnabled => c.admin.enabled = c'.admin.enabled

/-- The name under which problems with a setting are reported. Some settings cannot be wrong. -/
def reported : Setting → Option String
  | bindAddress => "listener.bind_address"
  | request => "timeouts.request_secs"
  | storeCall => "timeouts.store_call_secs"
  | maxRequests => "rate_limit.max_requests"
  | window => "rate_limit.window_secs"
  | ttl => "cache.ttl_secs"
  | jitter => "cache.jitter_secs"
  | secret => "auth.jwt.secret"
  | issuer => "auth.jwt.issuer"
  | audience => "auth.jwt.audience"
  | expiry => "auth.jwt.expiry_secs"
  | leeway => "auth.jwt.leeway_secs"
  | username | password => "auth.basic"
  | invitationTtl => "auth.invitation_ttl_secs"
  | passwordCost => "auth.bcrypt_cost"
  | readRole => "authorization.read_role"
  | updateRole => "authorization.update_role"
  | deleteRole => "authorization.delete_role"
  | metricsEnabled | metricsAddress => "observability.metrics_address"
  | env | trustForwarded | maxBodySize | limiterEnabled | cacheEnabled | logLevel | jsonLogs
  | adminEnabled => none

end Setting

/-- The settings are all that there is to a configuration. -/
theorem eq_of_agree {c c' : Config} (agree : ∀ f : Setting, f.Agree c c') : c = c' := by
  obtain ⟨_, ⟨_, _, _⟩, ⟨_, _⟩, ⟨_, _, _⟩, ⟨_, _, _⟩, ⟨⟨_, _, _, _, _⟩, ⟨_, _⟩, _, _⟩, ⟨_, _, _⟩,
    ⟨_, _, _, _⟩, ⟨_⟩⟩ := c
  obtain ⟨_, ⟨_, _, _⟩, ⟨_, _⟩, ⟨_, _, _⟩, ⟨_, _, _⟩, ⟨⟨_, _, _, _, _⟩, ⟨_, _⟩, _, _⟩, ⟨_, _, _⟩,
    ⟨_, _, _, _⟩, ⟨_⟩⟩ := c'
  simp only [mk.injEq, Listener.mk.injEq, Timeouts.mk.injEq, RateLimit.mk.injEq, Cache.mk.injEq,
    Auth.mk.injEq, Token.mk.injEq, Operator.mk.injEq, Authorization.mk.injEq,
    Observability.mk.injEq, Admin.mk.injEq]
  exact ⟨agree .env, ⟨agree .bindAddress, agree .trustForwarded, agree .maxBodySize⟩,
    ⟨agree .request, agree .storeCall⟩,
    ⟨agree .limiterEnabled, agree .maxRequests, agree .window⟩,
    ⟨agree .cacheEnabled, agree .ttl, agree .jitter⟩,
    ⟨⟨agree .secret, agree .issuer, agree .audience, agree .expiry, agree .leeway⟩,
      ⟨agree .username, agree .password⟩, agree .invitationTtl, agree .passwordCost⟩,
    ⟨agree .readRole, agree .updateRole, agree .deleteRole⟩,
    ⟨agree .logLevel, agree .jsonLogs, agree .metricsEnabled, agree .metricsAddress⟩,
    agree .adminEnabled⟩

/-- Two configurations differ in one setting at most. -/
def ApartIn (f : Setting) (c c' : Config) : Prop := ∀ g : Setting, g ≠ f → g.Agree c c'

namespace Rule

/-- A rule reads a setting: it may hold or not for the sake of this setting alone. -/
def Reads (r : Rule) (f : Setting) : Prop := ∃ c c', ApartIn f c c' ∧ r.holds c ≠ r.holds c'

/-- What becomes of a rule depends on nothing but the settings reported under its name. -/
def Local (r : Rule) : Prop :=
  ∀ c c' : Config, (∀ f : Setting, f.reported = some r.field → f.Agree c c') →
    r.holds c = r.holds c' ∧ r.message c = r.message c'

theorem local_positive {field : String} {get : Config → Nat} (f : Setting)
    (reported : f.reported = some field) (reads : ∀ c c', f.Agree c c' → get c = get c') :
    (positive field get).Local :=
  fun c c' agree => ⟨congrArg (fun n => decide (0 < n)) (reads c c' (agree f reported)), rfl⟩

theorem local_lifetime {field : String} {get : Config → Nat} (f : Setting)
    (reported : f.reported = some field) (reads : ∀ c c', f.Agree c c' → get c = get c') :
    (lifetime field get).Local :=
  fun c c' agree =>
    ⟨congrArg (fun n => decide (n ≤ longestLifetime)) (reads c c' (agree f reported)), rfl⟩

theorem local_nonempty {field message : String} {get : Config → String} (f : Setting)
    (reported : f.reported = some field) (reads : ∀ c c', f.Agree c c' → get c = get c') :
    (nonempty field message get).Local :=
  fun c c' agree => ⟨congrArg (fun s => decide (s ≠ "")) (reads c c' (agree f reported)), rfl⟩

theorem local_bindAddress : bindAddress.Local := by
  intro c c' agree
  have same : c.listener.bindAddress = c'.listener.bindAddress := agree .bindAddress rfl
  simp only [bindAddress, same, and_self]

theorem local_passwordCost : passwordCost.Local :=
  fun _ _ agree => ⟨congrArg Credential.Password.costAllowed (agree .passwordCost rfl), rfl⟩

theorem local_operatorCredentials : operatorCredentials.Local := by
  intro c c' agree
  have username : c.auth.operator.username = c'.auth.operator.username := agree .username rfl
  have password : c.auth.operator.password = c'.auth.operator.password := agree .password rfl
  simp only [operatorCredentials, username, password, and_self]

theorem local_metricsAddress : metricsAddress.Local := by
  intro c c' agree
  have enabled : c.observability.metricsEnabled = c'.observability.metricsEnabled :=
    agree .metricsEnabled rfl
  have address : c.observability.metricsAddress = c'.observability.metricsAddress :=
    agree .metricsAddress rfl
  simp only [metricsAddress, enabled, address, and_self]

theorem local_of_listed : ∀ r ∈ all, r.Local := by
  simp only [all, List.forall_mem_cons, List.not_mem_nil, false_imp_iff, implies_true, and_true]
  exact ⟨local_bindAddress,
    local_positive .request rfl fun _ _ => id,
    local_positive .storeCall rfl fun _ _ => id,
    local_positive .maxRequests rfl fun _ _ => id,
    local_positive .window rfl fun _ _ => id,
    local_positive .ttl rfl fun _ _ => id,
    local_positive .invitationTtl rfl fun _ _ => id,
    local_lifetime .request rfl fun _ _ => id,
    local_lifetime .storeCall rfl fun _ _ => id,
    local_lifetime .window rfl fun _ _ => id,
    local_lifetime .ttl rfl fun _ _ => id,
    local_lifetime .jitter rfl fun _ _ => id,
    local_lifetime .invitationTtl rfl fun _ _ => id,
    local_lifetime .expiry rfl fun _ _ => id,
    local_lifetime .leeway rfl fun _ _ => id,
    local_nonempty .secret rfl fun _ _ => id,
    local_nonempty .issuer rfl fun _ _ => id,
    local_nonempty .audience rfl fun _ _ => id,
    local_positive .expiry rfl fun _ _ => id,
    local_passwordCost,
    local_operatorCredentials,
    local_nonempty .readRole rfl fun _ _ => id,
    local_nonempty .updateRole rfl fun _ _ => id,
    local_nonempty .deleteRole rfl fun _ _ => id,
    local_metricsAddress⟩

/-- A configuration in which one setting has a size, and all others need not be looked at: numbers
are their size, and texts of no size are empty. -/
def sized (n : Nat) : Setting → Config :=
  let text := if n = 0 then "" else "x"
  let address := if n = 0 then "" else "0.0.0.0:80"
  fun
  | .bindAddress => { listener := { bindAddress := address } }
  | .request => { timeouts := { request := n } }
  | .storeCall => { timeouts := { storeCall := n } }
  | .maxRequests => { rateLimit := { maxRequests := n } }
  | .window => { rateLimit := { window := n } }
  | .ttl => { cache := { ttl := n } }
  | .jitter => { cache := { jitter := n } }
  | .secret => { auth := { token := { secret := text } } }
  | .issuer => { auth := { token := { issuer := text } } }
  | .audience => { auth := { token := { audience := text } } }
  | .expiry => { auth := { token := { expiry := n } } }
  | .leeway => { auth := { token := { leeway := n } } }
  | .username => { auth := { operator := { username := text } } }
  | .password => { auth := { operator := { password := text } } }
  | .invitationTtl => { auth := { invitationTtl := n } }
  | .passwordCost => { auth := { passwordCost := n } }
  | .readRole => { authorization := { readRole := text } }
  | .updateRole => { authorization := { updateRole := text } }
  | .deleteRole => { authorization := { deleteRole := text } }
  | .metricsEnabled => { observability := { metricsEnabled := n = 0, metricsAddress := "" } }
  | .metricsAddress => { observability := { metricsEnabled := true, metricsAddress := address } }
  | _ => {}

theorem apartIn_sized (f : Setting) (m n : Nat) : ApartIn f (sized m f) (sized n f) := by
  intro g other
  cases f <;> cases g <;> first | rfl | exact absurd rfl other

theorem holds_sized : ∀ r ∈ all, ∀ f : Setting, f.reported = some r.field →
    r.holds (sized 0 f) ≠ r.holds (sized 5 f) ∨
      r.holds (sized 5 f) ≠ r.holds (sized 31536001 f) := by
  intro r listed f
  revert r
  cases f <;> decide +kernel

/-- The settings that a rule reads are those that its problem is reported under. -/
theorem reads_iff {r : Rule} (listed : r ∈ all) {f : Setting} :
    r.Reads f ↔ f.reported = some r.field := by
  constructor
  · rintro ⟨c, c', apart, differ⟩
    refine Decidable.byContradiction fun other => differ ?_
    refine (local_of_listed r listed c c' fun g named => apart g ?_).1
    rintro rfl
    exact other named
  · intro named
    rcases holds_sized r listed f named with differ | differ
    · exact ⟨_, _, apartIn_sized f 0 5, differ⟩
    · exact ⟨_, _, apartIn_sized f 5 31536001, differ⟩

end Rule

section

variable {c c' : Config}

theorem valid_iff_sound : c.Valid ↔ Sound c := valid_iff_holds.trans holds_iff_sound

theorem validate_ok : validate c = .ok c ↔ Sound c := by
  rw [← valid_iff_sound, Valid, ← List.isEmpty_iff, validate]
  split <;> simp [*]

theorem validate_error (broken : ¬Sound c) : validate c = .error c.problems := by
  rw [← valid_iff_sound, Valid, ← List.isEmpty_iff] at broken
  exact if_neg broken

/-- A text is loaded as a valid configuration only. -/
theorem validate_of_parse {text : String} (loaded : parse text = .ok c) : validate c = .ok c := by
  unfold parse at loaded
  split at loaded
  · cases loaded
  · rename_i v _
    unfold validate at loaded
    split at loaded
    · rename_i empty
      cases loaded
      exact if_pos empty
    · cases loaded

/-- A problem is reported under another name than a setting is. -/
def Problem.Elsewhere (f : Setting) (p : Problem) : Prop := f.reported ≠ some p.field

instance (f : Setting) (p : Problem) : Decidable (p.Elsewhere f) :=
  inferInstanceAs (Decidable (_ ≠ _))

/-- What configurations that differ in one setting have wrong with them differs in what is reported
under its name. -/
theorem problems_elsewhere {f : Setting} (apart : ApartIn f c c') :
    c.problems.filter (·.Elsewhere f) = c'.problems.filter (·.Elsewhere f) := by
  rw [problems, problems, List.filter_filterMap, List.filter_filterMap]
  refine List.filterMap_congr fun r listed => ?_
  by_cases named : f.reported = some r.field
  · have gone (d : Config) : (r.problem? d).filter (·.Elsewhere f) = none := by
      rw [Rule.problem?_eq]
      split
      · rfl
      · exact Option.filter_some_neg (by simp [Problem.Elsewhere, Rule.problem, named])
    rw [gone, gone]
  · obtain ⟨holds, message⟩ := Rule.local_of_listed r listed c c' fun g named' => apart g (by
      rintro rfl
      exact named named')
    rw [Rule.problem?, Rule.problem?, holds, message]

end

/-- What validation reports about a configuration. -/
structure Reports (c : Config) : Prop where
  accepted : validate c = .ok c ↔ Sound c
  refused : ¬Sound c → validate c = .error c.problems
  broken (r : Rule) : r ∈ Rule.all → (r.problem c ∈ c.problems ↔ r.holds c = false)
  /-- Problems stand in the order of the rules that are broken, and no two rules have the same. -/
  order : c.problems = (Rule.all.filter fun r => !r.holds c).map (·.problem c)
  once : (Rule.all.map (·.problem c)).Nodup

/-- Validation accepts what is fit for use, and otherwise reports every broken rule, once and in
order. What becomes of a rule depends on the settings reported under its name, each of which counts,
and on no others; so of two configurations that differ in one setting the same is reported under all
other names. What is loaded is valid. -/
theorem problems_told_apart (c c' : Config) :
    Reports c ∧
    (∀ r ∈ Rule.all, ∀ f, r.Reads f ↔ f.reported = some r.field) ∧
    (∀ r ∈ Rule.all, (∀ f, r.Reads f → f.Agree c c') →
      r.holds c = r.holds c' ∧ r.problem c = r.problem c') ∧
    ((∀ f : Setting, f.Agree c c') → c = c') ∧
    (∀ f, ApartIn f c c' →
      c.problems.filter (·.Elsewhere f) = c'.problems.filter (·.Elsewhere f)) ∧
    ∀ text, parse text = .ok c → validate c = .ok c := by
  refine ⟨⟨validate_ok, validate_error, fun r => problem_mem_iff, problems_eq c,
    nodup_problem c⟩, fun r listed f => Rule.reads_iff listed, fun r listed agree => ?_,
    eq_of_agree, fun f => problems_elsewhere, fun text => validate_of_parse⟩
  obtain ⟨holds, message⟩ := Rule.local_of_listed r listed c c' fun f named =>
    agree f ((Rule.reads_iff listed).2 named)
  exact ⟨holds, congrArg (Problem.mk r.field) message⟩

end Config

end Agora
