import OpenIdProvider.Proofs.ScopeNarrowing
import OpenIdProvider.Proofs.UniformRefusals

/-!
# The decision on an authorization request

A request is checked for one thing after the other (`AuthorizationError.inOrder`), and the first
check that fails decides. What each check is about is said of the request and the store alone
(`AuthorizationRequest.Fails`), so that `AuthorizationRequest.check` is the decision in that order
(`AuthorizationRequest.decides_check`).

A request that fails a check leads to the login page with the error of the first, and nothing is
stored; one that fails none begins one login, with what the request says
(`authorization_decision`).
-/

namespace OpenIdProvider

open Op Provider

/-! ## Checks in order -/

section

variable {ε α β : Type} {fails : ε → Prop} {e : ε} {es es' : List ε} {x : Except ε α}

/-- An error is the first one in a list that applies. -/
structure FirstOf (fails : ε → Prop) (es : List ε) (e : ε) : Prop where
  applies : fails e
  first : ∃ before after, es = before ++ e :: after ∧ ∀ e' ∈ before, ¬fails e'

/-- What comes of checks that are made one after the other, each with its error. -/
inductive Decides (fails : ε → Prop) : List ε → Except ε α → Prop
  | passed (a : α) : Decides fails [] (.ok a)
  | failed {e : ε} {es : List ε} (h : fails e) : Decides fails (e :: es) (.error e)
  | later {e : ε} {es : List ε} {x : Except ε α} (h : ¬fails e) (hrest : Decides fails es x) :
    Decides fails (e :: es) x

theorem FirstOf.cons_iff {e' : ε} :
    FirstOf fails (e' :: es) e ↔ (fails e' ∧ e' = e) ∨ (¬fails e' ∧ FirstOf fails es e) := by
  constructor
  · rintro ⟨happlies, _ | ⟨b, before⟩, after, heq, hbefore⟩
    · obtain ⟨rfl, -⟩ := List.cons.inj heq
      exact .inl ⟨happlies, rfl⟩
    · obtain ⟨rfl, rfl⟩ := List.cons.inj heq
      exact .inr ⟨hbefore _ List.mem_cons_self, happlies, before, after, rfl,
        fun e' he' => hbefore e' (List.mem_cons_of_mem _ he')⟩
  · rintro (⟨hfails, rfl⟩ | ⟨hpasses, happlies, before, after, rfl, hbefore⟩)
    · exact ⟨hfails, [], es, rfl, nofun⟩
    · exact ⟨happlies, e' :: before, after, rfl, List.forall_mem_cons.mpr ⟨hpasses, hbefore⟩⟩

namespace Decides

/-- Checks are decided by the first that fails. -/
theorem eq_error_iff (h : Decides fails es x) : x = .error e ↔ FirstOf fails es e := by
  induction h with
  | passed a => exact ⟨nofun, fun ⟨_, before, _, heq, _⟩ => by cases before <;> cases heq⟩
  | failed hfails =>
    rw [FirstOf.cons_iff, Except.error.injEq]
    exact ⟨fun heq => .inl ⟨hfails, heq⟩, fun h => h.elim And.right fun h => absurd hfails h.1⟩
  | later hpasses _ ih =>
    rw [FirstOf.cons_iff, ih]
    exact ⟨fun h => .inr ⟨hpasses, h⟩, fun h => h.elim (fun h => absurd h.1 hpasses) And.right⟩

/-- Checks succeed if none fails. -/
theorem isOk_iff (h : Decides fails es x) : (∃ a, x = .ok a) ↔ ∀ e ∈ es, ¬fails e := by
  induction h with
  | passed a => exact ⟨fun _ => nofun, fun _ => ⟨a, rfl⟩⟩
  | failed hfails => exact ⟨nofun, fun h => absurd hfails (h _ List.mem_cons_self)⟩
  | later hpasses _ ih => rw [ih, List.forall_mem_cons, and_iff_right hpasses]

theorem guard {c : Prop} [Decidable c] (h : c ↔ fails e) (hx : ¬c → Decides fails es x) :
    Decides fails (e :: es) (if c then .error e else x) := by
  by_cases hc : c
  · rw [if_pos hc]
    exact .failed (h.mp hc)
  · rw [if_neg hc]
    exact .later (mt h.mpr hc) (hx hc)

theorem bind {f : α → Except ε β} (h : Decides fails es x)
    (hf : ∀ a, x = .ok a → Decides fails es' (f a)) : Decides fails (es ++ es') (x >>= f) := by
  induction h with
  | passed a => exact hf a rfl
  | failed h => exact .failed h
  | later h _ ih => exact .later h (ih hf)

end Decides

end

/-! ## What a request may fail -/

/-- The errors of the checks, in the order of the checks. -/
def AuthorizationError.inOrder : List AuthorizationError :=
  [missingScope, unsupportedResponseType, invalidTenant, invalidClient, clientNotEnabledForSso,
    clientNotEnabledForOidc, invalidRedirectUri, pkceNotEnabledForClient,
    invalidCodeChallengeMethod, codeChallengeParametersMissing, invalidScope]

theorem AuthorizationError.mem_inOrder (e : AuthorizationError) : e ∈ inOrder := by
  cases e <;> decide

namespace AuthorizationRequest

variable {r : AuthorizationRequest} {s : Store} {tenantId : String} {c : Client}

/-- A request names an enabled client of a tenant. -/
structure Names (r : AuthorizationRequest) (s : Store) (tenantId : String) (c : Client) : Prop where
  named : r.clientId = some c.clientId
  nonempty : c.clientId ≠ ""
  stored : s.client? c.clientId = some c
  bound : c.tenantId = tenantId
  enabled : c.enabled = true

/-- A parameter is sent if it is there and not empty. -/
def Sent (parameter : Option String) : Prop :=
  ∃ text, parameter = some text ∧ text ≠ ""

/-- A client may ask for a scope: it is a standard one, or one granted to the client, if that is
a device or acts for its users, and gets refresh tokens. -/
def MayAskFor (s : Store) (c : Client) (scope : String) : Prop :=
  scope ∈ Scope.standard ∨ ((c.clientType = .device ∨ c.clientType = .userDelegated) ∧
    0 < c.maxRefreshTokenCount ∧ scope ∈ s.grantedScopes c)

/-- A request to a tenant fails the check with an error. The checks of its client are about the
one that it names. -/
def Fails (r : AuthorizationRequest) (s : Store) (tenantId : String) : AuthorizationError → Prop
  | .missingScope => ∀ scope, r.scope = some scope → Text.trim scope = ""
  | .unsupportedResponseType => r.responseType ≠ some "code"
  | .invalidTenant => s.LacksTenant tenantId
  | .invalidClient => ∀ c, ¬r.Names s tenantId c
  | .clientNotEnabledForSso => ∃ c, r.Names s tenantId c ∧ c.clientType = .serviceAccount
  | .clientNotEnabledForOidc => ∃ c, r.Names s tenantId c ∧ c.oidcEnabled = false
  | .invalidRedirectUri => ∃ c, r.Names s tenantId c ∧ ∀ uri, r.redirectUri = some uri →
    Redirect.isAllowed c.redirectUris.items uri = false
  | .pkceNotEnabledForClient => ∃ c, r.Names s tenantId c ∧ c.pkceEnabled = false ∧
    (Sent r.codeChallenge ∨ Sent r.codeChallengeMethod)
  | .invalidCodeChallengeMethod => ∃ method, r.codeChallengeMethod = some method ∧ method ≠ "" ∧
    method ≠ "S256"
  | .codeChallengeParametersMissing => ¬(Sent r.codeChallenge ↔ Sent r.codeChallengeMethod)
  | .invalidScope => ∃ c, r.Names s tenantId c ∧ ∃ scope, r.scope = some scope ∧
    ∃ token ∈ Scope.tokens scope, ¬MayAskFor s c token

/-- The first check that a request to a tenant fails. -/
def FailsFirst (r : AuthorizationRequest) (s : Store) (tenantId : String)
    (e : AuthorizationError) : Prop :=
  FirstOf (r.Fails s tenantId) AuthorizationError.inOrder e

theorem names_iff : r.Names s tenantId c ↔ r.client? s tenantId = some c := by
  constructor
  · rintro ⟨hnamed, hnonempty, hstored, rfl, henabled⟩
    rw [client?, hnamed, Option.filter_some, if_pos (decide_eq_true hnonempty), Option.bind_some,
      Store.enabledClient?, hstored, Option.filter_some, henabled]
    simp
  · intro h
    obtain ⟨id, hid, hclient⟩ := Option.bind_eq_some_iff.mp h
    obtain ⟨hnamed, hnonempty⟩ := Option.filter_eq_some_iff.mp hid
    obtain ⟨hstored, hpermitted⟩ := Option.filter_eq_some_iff.mp hclient
    obtain rfl : c.clientId = id := Table.key_of_get? hstored
    simp only [Bool.and_eq_true, beq_iff_eq] at hpermitted
    exact ⟨hnamed, of_decide_eq_true hnonempty, hstored, hpermitted.1, hpermitted.2⟩

theorem sent_iff {parameter : Option String} :
    Sent parameter ↔ (parameter.filter (· ≠ "")).isSome = true := by
  cases parameter with
  | none => exact ⟨nofun, nofun⟩
  | some text => by_cases h : text = "" <;> simp [Sent, h]

theorem mayAskFor_iff {scope : String} :
    MayAskFor s c scope ↔ scope ∈ Scope.allowed c (s.grantedScopes c) := by
  rw [MayAskFor, Scope.allowed, List.mem_append]
  by_cases h : c.usesDelegatedScopes = true
  · rw [if_pos h]
    simp only [Client.usesDelegatedScopes, Client.refreshEnabled, Bool.and_eq_true,
      Bool.or_eq_true, beq_iff_eq, decide_eq_true_eq] at h
    rw [and_iff_right h.1, and_iff_right h.2]
  · rw [if_neg h]
    simp only [Client.usesDelegatedScopes, Client.refreshEnabled, Bool.and_eq_true,
      Bool.or_eq_true, beq_iff_eq, decide_eq_true_eq] at h
    simp only [List.not_mem_nil]
    tauto

theorem Names.exists_iff (h : r.Names s tenantId c) {P : Client → Prop} :
    (∃ c, r.Names s tenantId c ∧ P c) ↔ P c := by
  constructor
  · rintro ⟨c', hc', hP⟩
    obtain rfl := Option.some.inj ((names_iff.mp hc').symm.trans (names_iff.mp h))
    exact hP
  · exact fun hP => ⟨c, h, hP⟩

/-! ## The checks decide -/

theorem scope?_eq_none : r.scope? = none ↔ r.Fails s tenantId .missingScope := by
  rw [scope?, Option.filter_eq_none_iff, Fails]
  simp only [decide_eq_true_eq, ne_eq, not_not]

theorem allowedRedirectUri?_eq_none (h : r.Names s tenantId c) :
    r.allowedRedirectUri? c = none ↔ r.Fails s tenantId .invalidRedirectUri := by
  rw [allowedRedirectUri?, Option.filter_eq_none_iff, Fails, h.exists_iff]
  simp only [Bool.not_eq_true]

theorem not_any_enabled : (!(s.tenant? tenantId).any Tenant.enabled) = true ↔
    r.Fails s tenantId .invalidTenant := by
  rw [Fails, Store.LacksTenant]
  cases s.tenant? tenantId <;> simp

theorem firstUnknown_isSome (h : r.Names s tenantId c) {scope : String}
    (hscope : r.scope = some scope) :
    (Scope.firstUnknown (Scope.allowed c (s.grantedScopes c)) scope).isSome = true ↔
      r.Fails s tenantId .invalidScope := by
  rw [← Option.ne_none_iff_isSome, ne_eq, Scope.firstUnknown_eq_none, Fails, h.exists_iff, hscope]
  simp only [List.subset_def, ← mayAskFor_iff, Option.some.injEq, exists_eq_left', not_forall,
    exists_prop]

/-- The check of a code challenge is three checks, which a request without one passes. -/
theorem checkPkce_eq : r.checkPkce c =
    if c.pkceEnabled = false ∧ (r.challenge?.isSome ∨ r.challengeMethod?.isSome) then
      .error .pkceNotEnabledForClient
    else if r.challengeMethod?.any (· != Pkce.s256) then .error .invalidCodeChallengeMethod
    else if r.challenge?.isSome ≠ r.challengeMethod?.isSome then
      .error .codeChallengeParametersMissing
    else .ok () := by
  rw [checkPkce]
  cases r.challenge? <;> cases r.challengeMethod? <;> cases c.pkceEnabled <;> simp [bne]

theorem decides_checkPkce (h : r.Names s tenantId c) :
    Decides (r.Fails s tenantId) [.pkceNotEnabledForClient, .invalidCodeChallengeMethod,
      .codeChallengeParametersMissing] (r.checkPkce c) := by
  rw [checkPkce_eq]
  refine .guard ?_ fun _ => .guard ?_ fun _ => .guard ?_ fun _ => .passed ()
  · rw [Fails, h.exists_iff, sent_iff, sent_iff, challenge?, challengeMethod?]
  · simp only [Fails, challengeMethod?, Option.any_eq_true, Option.filter_eq_some_iff,
      decide_eq_true_eq, bne_iff_ne, and_assoc, Pkce.s256]
  · rw [Fails, sent_iff, sent_iff, challenge?, challengeMethod?]
    exact not_congr Bool.eq_iff_iff

/-- A request is decided by the checks in order. -/
theorem decides_check (r : AuthorizationRequest) (s : Store) (tenantId : String) :
    Decides (r.Fails s tenantId) AuthorizationError.inOrder (r.check s tenantId) := by
  simp only [check, bind, Except.bind, throw, throwThe, MonadExceptOf.throw, pure, Except.pure]
  -- What `check` looks up is split into cases, since the later checks are about what it finds.
  cases hscope : r.scope? with
  | none => exact .failed (scope?_eq_none.mp hscope)
  | some scope =>
    have hscope' : ¬r.Fails s tenantId .missingScope :=
      mt scope?_eq_none.mpr (hscope ▸ Option.some_ne_none scope)
    refine .later hscope' <| .guard Iff.rfl fun _ => .guard not_any_enabled fun _ => ?_
    cases hclient : r.client? s tenantId with
    | none =>
      refine .failed fun c hc => ?_
      exact Option.some_ne_none c ((names_iff.mp hc).symm.trans hclient)
    | some c =>
      have hnames : r.Names s tenantId c := names_iff.mpr hclient
      refine .later (fun h => h c hnames) <| .guard ?_ fun _ => .guard ?_ fun _ => ?_
      · rw [Fails, hnames.exists_iff, Client.isServiceAccount, beq_iff_eq]
      · rw [Fails, hnames.exists_iff, Bool.not_eq_true']
      · cases hredirect : r.allowedRedirectUri? c with
        | none => exact .failed ((allowedRedirectUri?_eq_none hnames).mp hredirect)
        | some redirectUri =>
          have hredirect' : ¬r.Fails s tenantId .invalidRedirectUri :=
            mt (allowedRedirectUri?_eq_none hnames).mpr
              (hredirect ▸ Option.some_ne_none redirectUri)
          refine .later hredirect' <| .bind (decides_checkPkce hnames) fun _ _ => ?_
          refine .guard (firstUnknown_isSome hnames ?_) fun _ => .passed _
          exact (Option.filter_eq_some_iff.mp hscope).1

/-- The first check that a request fails is the one that it is rejected for. -/
theorem check_eq_error_iff {e : AuthorizationError} :
    r.check s tenantId = .error e ↔ r.FailsFirst s tenantId e :=
  (decides_check r s tenantId).eq_error_iff

/-- A request that fails no check is accepted. -/
theorem check_isOk_iff :
    (∃ a, r.check s tenantId = .ok a) ↔ ∀ e, ¬r.Fails s tenantId e := by
  rw [(decides_check r s tenantId).isOk_iff]
  exact ⟨fun h e => h e (AuthorizationError.mem_inOrder e), fun h e _ => h e⟩

/-! ## What is kept of a request -/

/-- What is kept of the code challenge of a request and of its method: nothing, if neither is
sent, or a challenge for the one method that is supported. -/
inductive Challenges (r : AuthorizationRequest) : Option String → Option String → Prop
  | without (hchallenge : ¬Sent r.codeChallenge) (hmethod : ¬Sent r.codeChallengeMethod) :
    Challenges r none none
  | sha256 {challenge : String} (hchallenge : r.codeChallenge = some challenge)
      (hsent : challenge ≠ "") (hmethod : r.codeChallengeMethod = some "S256") :
    Challenges r (some challenge) (some "S256")

theorem challenges_of_checkPkce (h : r.checkPkce c = .ok ()) :
    r.Challenges r.challenge? r.challengeMethod? := by
  cases hchallenge : r.challenge? with
  | none =>
    cases hmethod : r.challengeMethod? with
    | none =>
      refine .without (mt sent_iff.mp ?_) (mt sent_iff.mp ?_)
      · rw [← challenge?, hchallenge]
        nofun
      · rw [← challengeMethod?, hmethod]
        nofun
    | some method =>
      rw [checkPkce_eq, hchallenge, hmethod] at h
      split at h
      · cases h
      · split at h <;> cases h
  | some challenge =>
    have hmethod := checkPkce_eq_ok h hchallenge
    obtain ⟨hsent, hne⟩ := Option.filter_eq_some_iff.mp hchallenge
    rw [hmethod]
    exact .sha256 hsent (of_decide_eq_true hne) (Option.filter_eq_some_iff.mp hmethod).1

end AuthorizationRequest

open AuthorizationRequest

variable {p q : Provider} {tenantId : String} {r : AuthorizationRequest} {a : AcceptedRequest}
  {loginUrl : Url} {expiresAt : Instant}

namespace Provider

/-- A login that a request to a tenant begins: it has a new handle, lives for a while and says
what the request says. -/
structure StartsLogin (p : Provider) (tenantId : String) (r : AuthorizationRequest)
    (login : PendingLogin) : Prop where
  drawn : login.token = handleText (p.random p.drawn)
  length_token : login.token.length = 64
  isLower_token : Hex.isLower login.token = true
  fresh : p.store.pendingLogins.find? p.now login.token = none
  createdAt : login.createdAt = p.now
  expiresAt : p.after? p.config.tokens.pendingLoginTtl = some login.expiresAt
  /-- The expiry is as many seconds later; within a leap second the next second is begun. -/
  onTime : p.now.nano < 1000000000 ∨ 0 < p.config.tokens.pendingLoginTtl →
    login.expiresAt.second = p.now.second + p.config.tokens.pendingLoginTtl ∧
      login.expiresAt.nano = p.now.nano % 1000000000
  tenantId : login.tenantId = tenantId
  clientId : r.clientId = some login.clientId
  redirectUri : r.redirectUri = some login.redirectUri
  state : login.state = r.state
  responseType : login.responseType = "code"
  responseMode : login.responseMode = .ofParameter r.responseMode
  challenge : r.Challenges login.codeChallenge login.codeChallengeMethod
  scope : ∃ scope, r.scope = some scope ∧ login.scope = " ".intercalate (Scope.tokens scope)

/-- How a request to a tenant is decided by which of its checks fail. -/
structure DecidesOn (p q : Provider) (loginUrl : Url) (tenantId : String)
    (r : AuthorizationRequest) (x : Except Fault AuthorizationOutcome) : Prop where
  /-- There is a first check that fails, or none fails. -/
  total : (∃ e, r.FailsFirst p.store tenantId e) ∨ ∀ e, ¬r.Fails p.store tenantId e
  /-- The first check that fails decides, and nothing is stored. -/
  rejects : ∀ e, r.FailsFirst p.store tenantId e →
    x = .ok (.error e (loginUrl.appendPairs (Redirect.errorPairs tenantId r e))) ∧
      q.store = p.store
  /-- If none fails, then one login is stored. -/
  begins : (∀ e, ¬r.Fails p.store tenantId e) →
    p.store.pendingLogins.find? p.now (handleText (p.random p.drawn)) = none →
      ∃ login, p.StartsLogin tenantId r login ∧
        x = .ok (.login login (loginUrl.appendPairs [("preauth_token", login.token),
          ("tenant_id", tenantId), ("redirect_uri", login.redirectUri)])) ∧
        q.store = { p.store with pendingLogins := p.store.pendingLogins.put login }
  /-- A handle that a login has is not given to another one. -/
  collides : (∀ e, ¬r.Fails p.store tenantId e) →
    p.store.pendingLogins.find? p.now (handleText (p.random p.drawn)) ≠ none →
      (∃ e, x = .error (.refused (.storage e))) ∧ q.store = p.store

theorem startsLogin_of_check (hcheck : r.check p.store tenantId = .ok a)
    (hexpiry : p.after? p.config.tokens.pendingLoginTtl = some expiresAt)
    (hfresh : p.store.pendingLogins.find? p.now (handleText (p.random p.drawn)) = none) :
    p.StartsLogin tenantId r (p.pendingLogin tenantId r a expiresAt) := by
  obtain ⟨scope, hscope, hclient, hredirect, hpkce, -, hwords⟩ := check_eq_ok hcheck
  refine ⟨rfl, ?_, Hex.isLower_encode _, hfresh, rfl, hexpiry, fun hregular => ?_, rfl,
    (client?_eq_some hclient).1, (Option.filter_eq_some_iff.mp hredirect).1, rfl, rfl, rfl,
    challenges_of_checkPkce hpkce, scope, (Option.filter_eq_some_iff.mp hscope).1, hwords⟩
  · exact (Hex.length_encode _).trans (congrArg (2 * ·) (Vector.length_toList))
  · obtain ⟨d, hd, hadd⟩ := Option.bind_eq_some_iff.mp hexpiry
    exact Instant.parts_of_add? hregular hd hadd

end Provider

namespace Op

/-- A login with an expiry and a login page is stored unless its handle is taken. -/
theorem run_beginLogin_eq (hurl : Url.parse p.config.loginUrl = .ok loginUrl)
    (hexpiry : p.after? p.config.tokens.pendingLoginTtl = some expiresAt) (tenantId : String)
    (r : AuthorizationRequest) (a : AcceptedRequest) : (beginLogin tenantId r a).run p =
      match p.store.pendingLogins.create p.now (p.pendingLogin tenantId r a expiresAt) with
      | .ok t => (.ok (.login (p.pendingLogin tenantId r a expiresAt) (loginUrl.appendPairs
          [("preauth_token", handleText (p.random p.drawn)), ("tenant_id", tenantId),
            ("redirect_uri", a.redirectUri)])),
          { p with
            store := { p.store with pendingLogins := t }
            drawn := p.drawn + 1
            log := p.log ++ [{ eventType := .authorizationRequest, tenantId
                               clientId := a.client.clientId }] })
      | .error e => (.error (.refused (.storage e)), { p with drawn := p.drawn + 1 }) := by
  have hlater : (later p.config.tokens.pendingLoginTtl).run { p with drawn := p.drawn + 1 }
      = (.ok expiresAt, { p with drawn := p.drawn + 1 }) := by
    rw [run_later, show (Span.ofSeconds? p.config.tokens.pendingLoginTtl).bind p.now.add?
      = some expiresAt from hexpiry]
  have hlocation : Redirect.login p.config.loginUrl tenantId a.redirectUri
      (handleText (p.random p.drawn)) = .ok (loginUrl.appendPairs
        [("preauth_token", handleText (p.random p.drawn)), ("tenant_id", tenantId),
          ("redirect_uri", a.redirectUri)]) := by
    rw [Redirect.login, Redirect.parseUrl, hurl]
    rfl
  rw [beginLogin, run_bind_of_ok (run_provider p), run_bind_of_ok (run_freshHandle p),
    run_bind_of_ok hlater, hlocation, run_bind_of_ok (run_ofExcept _ _), run_bind, run_createLogin]
  rw [Provider.pendingLogin]
  cases p.store.pendingLogins.create p.now _ <;> rfl

end Op

namespace Provider

/-- A request that fails a check leads to the login page with its error. -/
theorem decidesOn_of_error (hurl : Url.parse p.config.loginUrl = .ok loginUrl)
    {e : AuthorizationError} (hcheck : r.check p.store tenantId = .error e) :
    p.DecidesOn ((rejectRequest tenantId r e).run p).2 loginUrl tenantId r
      ((rejectRequest tenantId r e).run p).1 := by
  have hfirst : r.FailsFirst p.store tenantId e := check_eq_error_iff.mp hcheck
  rw [run_rejectRequest_of_parse hurl]
  refine ⟨.inl ⟨e, hfirst⟩, fun e' he' => ?_, fun hnone => absurd hfirst.applies (hnone e),
    fun hnone => absurd hfirst.applies (hnone e)⟩
  obtain rfl := Except.error.inj (hcheck.symm.trans (check_eq_error_iff.mpr he'))
  exact ⟨rfl, rfl⟩

/-- A request that fails no check begins a login. -/
theorem decidesOn_of_ok (hurl : Url.parse p.config.loginUrl = .ok loginUrl)
    (hexpiry : p.after? p.config.tokens.pendingLoginTtl = some expiresAt)
    (hcheck : r.check p.store tenantId = .ok a) :
    p.DecidesOn ((beginLogin tenantId r a).run p).2 loginUrl tenantId r
      ((beginLogin tenantId r a).run p).1 := by
  rw [run_beginLogin_eq hurl hexpiry]
  refine ⟨.inr (check_isOk_iff.mp ⟨a, hcheck⟩), fun e he => ?_, fun _ hfresh => ?_,
    fun _ hheld => ?_⟩
  · exact nomatch hcheck.symm.trans (check_eq_error_iff.mpr he)
  · rw [Records.create_eq_ok.mpr ⟨hfresh, rfl⟩]
    exact ⟨_, startsLogin_of_check hcheck hexpiry hfresh, rfl, rfl⟩
  · rw [Records.create_eq_error.mpr ⟨hheld, rfl⟩]
    exact ⟨⟨_, rfl⟩, rfl⟩

end Provider

/-- With a login page and an expiry in range, a request is rejected for the first check that
it fails, and begins one login if it fails none. -/
theorem authorization_decision (hurl : Url.parse p.config.loginUrl = .ok loginUrl)
    (hexpiry : p.after? p.config.tokens.pendingLoginTtl = some expiresAt) (tenantId : String)
    (r : AuthorizationRequest) :
    ∃ x q, (authorize tenantId r).run p = (x, q) ∧ p.DecidesOn q loginUrl tenantId r x := by
  cases hcheck : r.check p.store tenantId with
  | error e =>
    refine ⟨_, _, ?_, decidesOn_of_error hurl hcheck⟩
    rw [authorize, run_bind_of_ok (run_provider p), hcheck]
  | ok a =>
    refine ⟨_, _, ?_, decidesOn_of_ok hurl hexpiry hcheck⟩
    rw [authorize, run_bind_of_ok (run_provider p), hcheck]

open LoginSample in
/-- A request that fails two checks is rejected for the first of them, and one that fails none
begins one login. -/
theorem decision_of_two_requests : ∃ loginUrl expiresAt,
    Url.parse provider.config.loginUrl = .ok loginUrl ∧
      provider.after? provider.config.tokens.pendingLoginTtl = some expiresAt ∧
      ((authorize "T1" { request with responseType := "token", clientId := none }).run provider).1
        = .ok (.error .unsupportedResponseType (loginUrl.appendPairs (Redirect.errorPairs "T1"
          { request with responseType := "token", clientId := none } .unsupportedResponseType))) ∧
      ∃ login, provider.StartsLogin "T1" request login ∧
        ((authorize "T1" request).run provider).2.store
          = { provider.store with pendingLogins := Table.empty.put login } := by
  obtain ⟨loginUrl, hurl⟩ : ∃ u, Url.parse provider.config.loginUrl = .ok u := ⟨_, rfl⟩
  obtain ⟨expiresAt, hexpiry⟩ : ∃ t,
      provider.after? provider.config.tokens.pendingLoginTtl = some t := ⟨_, rfl⟩
  refine ⟨loginUrl, expiresAt, hurl, hexpiry, ?_, ?_⟩
  · obtain ⟨x, q, hrun, hdecided⟩ := authorization_decision hurl hexpiry "T1"
      { request with responseType := "token", clientId := none }
    rw [hrun]
    refine (hdecided.rejects _ (check_eq_error_iff.mp ?_)).1
    rfl
  · obtain ⟨x, q, hrun, hdecided⟩ := authorization_decision hurl hexpiry "T1" request
    have haccepted : (request.check provider.store "T1").isOk = true := by decide +kernel
    have hpassed : ∀ e, ¬request.Fails provider.store "T1" e := by
      refine check_isOk_iff.mp ?_
      cases hcheck : request.check provider.store "T1" with
      | error e =>
        rw [hcheck] at haccepted
        cases haccepted
      | ok a => exact ⟨a, rfl⟩
    obtain ⟨login, hlogin, -, hstore⟩ := hdecided.begins hpassed rfl
    rw [hrun]
    exact ⟨login, hlogin, hstore⟩

end OpenIdProvider
