import OpenIdProvider.Proofs.Records
import OpenIdProvider.Proofs.Run

/-!
# Logins and codes

What the three steps of an authorization do to the tables of logins that have begun and of
codes. Each step has one lemma that says what its success means:

* `run_authorize`: an accepted request brings its login;
* `run_completeLogin`: a completed login brings its code;
* `redeems_of_redeem`: a code that is redeemed was in the table, for the client that redeems it.

A handle leaves its table whenever it is presented: `pendingLogins_completeLogin`,
`codes_redeem`.
-/

namespace OpenIdProvider

open Op

/-! ## Requests -/

namespace AuthorizationRequest

/-- What an accepted request says. -/
structure Accepted (r : AuthorizationRequest) (a : AcceptedRequest) : Prop where
  clientId : r.clientId = some a.client.clientId
  redirectUri : r.redirectUri = some a.redirectUri
  scope : ∃ scope, r.scope = some scope ∧ a.scope = Text.unwords (Scope.tokens scope)
  method : ∀ challenge, r.challenge? = some challenge → r.challengeMethod? = some Pkce.s256

theorem checkPkce_eq_ok {r : AuthorizationRequest} {c : Client} (h : r.checkPkce c = .ok ())
    {challenge : String} (hc : r.challenge? = some challenge) :
    r.challengeMethod? = some Pkce.s256 := by
  rw [checkPkce, hc] at h
  cases hm : r.challengeMethod? with
  | none =>
    rw [hm] at h
    by_cases hp : c.pkceEnabled <;> simp [hp] at h
  | some method =>
    rw [hm] at h
    by_cases hp : c.pkceEnabled <;> by_cases hs : method = Pkce.s256 <;> simp_all

/-- An accepted request has passed every check. -/
theorem check_eq_ok {r : AuthorizationRequest} {s : Store} {tenantId : String}
    {a : AcceptedRequest} (h : r.check s tenantId = .ok a) :
    ∃ scope, r.scope? = some scope ∧ r.client? s tenantId = some a.client ∧
      r.allowedRedirectUri? a.client = some a.redirectUri ∧ r.checkPkce a.client = .ok () ∧
      Scope.firstUnknown (Scope.allowed a.client (s.grantedScopes a.client)) scope = none ∧
      a.scope = Text.unwords (Scope.tokens scope) := by
  simp only [check, bind, Except.bind, throw, throwThe, MonadExceptOf.throw, pure, Except.pure] at h
  repeat' split at h
  all_goals first | (cases h; done) | skip
  rename_i scope hscope _ _ _ client hclient _ _ _ redirectUri hredirect _ _ hpkce hallowed
  obtain rfl := Except.ok.inj h
  exact ⟨scope, hscope, hclient, hredirect, hpkce, by simpa using hallowed, rfl⟩

theorem client?_eq_some {r : AuthorizationRequest} {s : Store} {tenantId : String} {c : Client}
    (h : r.client? s tenantId = some c) :
    r.clientId = some c.clientId ∧ s.enabledClient? tenantId c.clientId = some c := by
  obtain ⟨id, hid, hc⟩ := Option.bind_eq_some_iff.mp h
  obtain ⟨hid, -⟩ := Option.filter_eq_some_iff.mp hid
  obtain rfl : c.clientId = id := Table.key_of_get? (Option.filter_eq_some_iff.mp hc).1
  exact ⟨hid, hc⟩

theorem accepted_of_check {r : AuthorizationRequest} {s : Store} {tenantId : String}
    {a : AcceptedRequest} (h : r.check s tenantId = .ok a) : r.Accepted a := by
  obtain ⟨scope, hscope, hclient, hredirect, hpkce, -, hwords⟩ := check_eq_ok h
  exact ⟨(client?_eq_some hclient).1, (Option.filter_eq_some_iff.mp hredirect).1,
    ⟨scope, (Option.filter_eq_some_iff.mp hscope).1, hwords⟩,
    fun _ hc => checkPkce_eq_ok hpkce hc⟩

end AuthorizationRequest

variable {p q : Provider}

namespace Op

theorem run_takeLogin (token : String) (p : Provider) :
    (takeRecord PendingLogin token).run p = (.ok (p.store.pendingLogins.find? p.now token),
      { p with
        store := { p.store with pendingLogins := p.store.pendingLogins.erase token } }) := rfl

theorem run_takeCode (code : String) (p : Provider) :
    (takeRecord AuthorizationCode code).run p = (.ok (p.store.codes.find? p.now code),
      { p with store := { p.store with codes := p.store.codes.erase code } }) := rfl

theorem run_createLogin (r : PendingLogin) (p : Provider) :
    (createRecord r).run p = match p.store.pendingLogins.create p.now r with
      | .ok t => (.ok (), { p with store := { p.store with pendingLogins := t } })
      | .error e => (.error (.refused (.storage e)), p) := by
  have h := run_createRecord r p
  rw [show (Kept.records p.store : Records PendingLogin) = p.store.pendingLogins from rfl] at h
  cases hc : p.store.pendingLogins.create p.now r with
  | ok t =>
    rw [h, hc]
    rfl
  | error e => rw [h, hc]

theorem run_createCode (c : AuthorizationCode) (p : Provider) :
    (createRecord c).run p = match p.store.codes.create p.now c with
      | .ok t => (.ok (), { p with store := { p.store with codes := t } })
      | .error e => (.error (.refused (.storage e)), p) := by
  have h := run_createRecord c p
  rw [show (Kept.records p.store : Records AuthorizationCode) = p.store.codes from rfl] at h
  cases hc : p.store.codes.create p.now c with
  | ok t =>
    rw [h, hc]
    rfl
  | error e => rw [h, hc]

end Op

/-! ## The request begins a login -/

/-- The login that an accepted request begins, as it is stored. -/
def Provider.pendingLogin (p : Provider) (tenantId : String) (r : AuthorizationRequest)
    (a : AcceptedRequest) (expiresAt : Instant) : PendingLogin :=
  { token := handleText (p.random p.drawn), clientId := a.client.clientId, tenantId
    redirectUri := a.redirectUri, scope := a.scope, responseType := "code"
    responseMode := .ofParameter r.responseMode, codeChallenge := r.challenge?
    codeChallengeMethod := r.challengeMethod?, state := r.state, createdAt := p.now, expiresAt }

/-- The event of a request that is not accepted. -/
def rejectionEvent (tenantId : String) (r : AuthorizationRequest) (e : AuthorizationError) :
    AuditEvent :=
  { eventType := .authorizationRequestError, error := e.code, tenantId, clientId := r.clientId }

namespace Op

/-- An accepted request begins a login with a new handle, or fails and stores nothing. -/
theorem run_beginLogin (p : Provider) (tenantId : String) (r : AuthorizationRequest)
    (a : AcceptedRequest) :
    (∃ e q, (beginLogin tenantId r a).run p = (.error e, q) ∧
      q.store.pendingLogins = p.store.pendingLogins) ∨
    ∃ t location q, (beginLogin tenantId r a).run p
        = (.ok (.login (p.pendingLogin tenantId r a t) location), q) ∧
      p.store.pendingLogins.create p.now (p.pendingLogin tenantId r a t)
        = .ok q.store.pendingLogins ∧ q.drawn = p.drawn + 1 := by
  simp only [beginLogin, run_bind, run_provider, run_freshHandle, run_later, run_ofExcept]
  cases (Span.ofSeconds? p.config.tokens.pendingLoginTtl).bind p.now.add? with
  | none => exact .inl ⟨_, _, rfl, rfl⟩
  | some t =>
    dsimp only
    cases Redirect.login p.config.loginUrl tenantId a.redirectUri
      (handleText (p.random p.drawn)) with
    | error e => exact .inl ⟨_, _, rfl, rfl⟩
    | ok location =>
      simp only [Except.mapError, run_createLogin]
      cases h : p.store.pendingLogins.create p.now (p.pendingLogin tenantId r a t) with
      | error e =>
        simp only [Provider.pendingLogin] at h
        rw [h]
        exact .inl ⟨_, _, rfl, rfl⟩
      | ok table =>
        simp only [Provider.pendingLogin] at h
        rw [h]
        exact .inr ⟨t, location, _, rfl, h, rfl⟩

/-- A request that is not accepted leads to the login page with its error. -/
theorem run_rejectRequest (tenantId : String) (r : AuthorizationRequest)
    (e : AuthorizationError) (p : Provider) : (rejectRequest tenantId r e).run p
      = (match Redirect.loginError p.config.loginUrl tenantId r e with
          | .ok location => .ok (.error e location)
          | .error error => .error (.refused error),
        { p with log := p.log ++ [rejectionEvent tenantId r e] }) := by
  rw [rejectRequest, run_bind, run_emit]
  dsimp only
  rw [run_bind, run_provider]
  dsimp only
  rw [run_bind, run_ofExcept]
  cases Redirect.loginError p.config.loginUrl tenantId r e <;> rfl

theorem run_rejectRequest_of_parse {loginUrl : Url}
    (hurl : Url.parse p.config.loginUrl = .ok loginUrl) (tenantId : String)
    (r : AuthorizationRequest) (e : AuthorizationError) : (rejectRequest tenantId r e).run p
      = (.ok (.error e (loginUrl.appendPairs (Redirect.errorPairs tenantId r e))),
        { p with log := p.log ++ [rejectionEvent tenantId r e] }) := by
  rw [run_rejectRequest, Redirect.loginError, Redirect.parseUrl, hurl]
  rfl

/-- What an authorization does: it begins a login with a new handle for a request that is
accepted, or it stores nothing and sends the user nowhere with a handle. -/
theorem run_authorize (p : Provider) (tenantId : String) (r : AuthorizationRequest) :
    (∃ x q, (authorize tenantId r).run p = (x, q) ∧
      (∀ pending location, x ≠ .ok (.login pending location)) ∧
      q.store.pendingLogins = p.store.pendingLogins) ∨
    ∃ a t location q, r.check p.store tenantId = .ok a ∧ (authorize tenantId r).run p
        = (.ok (.login (p.pendingLogin tenantId r a t) location), q) ∧
      p.store.pendingLogins.create p.now (p.pendingLogin tenantId r a t)
        = .ok q.store.pendingLogins ∧ q.drawn = p.drawn + 1 := by
  simp only [authorize, run_bind, run_provider]
  cases hcheck : r.check p.store tenantId with
  | ok a =>
    rcases run_beginLogin p tenantId r a with ⟨e, q, hrun, hsame⟩ | ⟨t, location, q, hrun, h⟩
    · exact .inl ⟨.error e, q, hrun, fun _ _ => nofun, hsame⟩
    · exact .inr ⟨a, t, location, q, rfl, hrun, h⟩
  | error e =>
    refine .inl ⟨_, _, run_rejectRequest tenantId r e p, fun pending location h => ?_, rfl⟩
    cases hlocation : Redirect.loginError p.config.loginUrl tenantId r e <;>
      simp [hlocation] at h

end Op

/-! ## The login brings a code -/

/-- The code that a completed login brings, as it is stored. -/
def Provider.issuedCode (p : Provider) (pending : PendingLogin) (userId : String)
    (expiresAt : Instant) : AuthorizationCode :=
  { code := handleText (p.random p.drawn), userId, clientId := pending.clientId
    tenantId := pending.tenantId, redirectUri := pending.redirectUri, scope := pending.scope
    codeChallenge := pending.codeChallenge, codeChallengeMethod := pending.codeChallengeMethod
    expiresAt }

/-- When a login is completed: it has not expired, its user may log in, and its client gets
the code at an address that can be written. -/
structure Completes (p : Provider) (pending : PendingLogin) (userId : String)
    (expiresAt : Instant) (location : Url) : Prop where
  held : p.store.pendingLogins.find? p.now pending.token = some pending
  user : (p.store.enabledUser? pending.tenantId userId).isSome
  expiry : (Span.ofSeconds? p.config.tokens.authorizationCodeTtl).bind p.now.add? = some expiresAt
  sent : Redirect.toClient pending.redirectUri (p.issuedCode pending userId expiresAt).code
    pending.state pending.responseMode = .ok location

namespace Op

/-- A handle of a login leaves the table whenever it is presented. -/
theorem pendingLogins_completeLogin (token userId : String) (p : Provider) :
    ((completeLogin token userId).run p).2.store.pendingLogins
      = p.store.pendingLogins.erase token := by
  refine (Touches.sameBut_bind [.codes] _ (fun pending => ?_) p).pendingLogins (by decide)
  split
  · exact .bind .provider fun p => .guard <| .bind .freshHandle fun _ => .bind (.later _) fun _ =>
      .bind (.ofExcept _) fun _ => .bind (.createRecord keptIn_codes _) fun _ =>
        .bind (.emit _) fun _ => .pure _
  · exact .refuse _

/-- A handle that is not in the table completes nothing. -/
theorem run_completeLogin_of_absent {token userId : String}
    (h : p.store.pendingLogins.find? p.now token = none) :
    ((completeLogin token userId).run p).1
      = .error (.refused (.invalidGrant "login session expired")) := by
  rw [completeLogin, run_bind, run_takeLogin, h]
  rfl

/-- What the completion of a login does: it brings a code with a new handle, or it fails and
stores nothing. -/
theorem run_completeLogin (p : Provider) (token userId : String) :
    (∃ e q, (completeLogin token userId).run p = (.error e, q) ∧
      q.store.codes = p.store.codes) ∨
    ∃ pending t location q, pending.token = token ∧ Completes p pending userId t location ∧
      (completeLogin token userId).run p = (.ok location, q) ∧
      p.store.codes.create p.now (p.issuedCode pending userId t) = .ok q.store.codes ∧
      q.drawn = p.drawn + 1 := by
  rw [completeLogin, run_bind, run_takeLogin]
  cases hheld : p.store.pendingLogins.find? p.now token with
  | none => exact .inl ⟨_, _, rfl, rfl⟩
  | some pending =>
    have htoken : pending.token = token := Table.key_of_get? (Records.find?_eq_some.mp hheld).1
    subst htoken
    dsimp only
    rw [run_bind, run_provider]
    dsimp only
    rw [run_guard]
    split
    · exact .inl ⟨_, _, rfl, rfl⟩
    · rename_i huser
      simp only [run_bind, run_freshHandle, run_later, run_ofExcept]
      cases ht : (Span.ofSeconds? p.config.tokens.authorizationCodeTtl).bind p.now.add? with
      | none => exact .inl ⟨_, _, rfl, rfl⟩
      | some t =>
        dsimp only
        cases hsent : Redirect.toClient pending.redirectUri (handleText (p.random p.drawn))
            pending.state pending.responseMode with
        | error e => exact .inl ⟨_, _, rfl, rfl⟩
        | ok location =>
          have hcompletes : Completes p pending userId t location :=
            ⟨hheld, Option.isSome_iff_ne_none.mpr (mt Option.isNone_iff_eq_none.mpr huser), ht,
              hsent⟩
          simp only [Except.mapError, run_createCode]
          cases h : p.store.codes.create p.now (p.issuedCode pending userId t) with
          | error e =>
            simp only [Provider.issuedCode] at h
            rw [h]
            exact .inl ⟨_, _, rfl, rfl⟩
          | ok table =>
            simp only [Provider.issuedCode] at h
            rw [h]
            exact .inr ⟨pending, t, location, _, rfl, hcompletes, rfl, h, rfl⟩

end Op

/-! ## The code is redeemed -/

/-- When a code is redeemed: it has not expired, it was issued to the client that presents
it with the address, and the verifier fits its challenge. -/
structure Redeems (p : Provider) (tenantId clientId code : String)
    (redirectUri verifier : Option String) (c : AuthorizationCode) : Prop where
  held : p.store.codes.find? p.now code = some c
  tenant : c.tenantId = tenantId
  client : c.clientId = clientId
  address : redirectUri = some c.redirectUri
  proof : Pkce.checkRedemption c.codeChallenge c.codeChallengeMethod verifier = .ok ()

namespace Op

variable {tenantId clientId code : String} {redirectUri verifier : Option String}

/-- A code leaves the table whenever it is presented. -/
theorem codes_redeem (tenantId clientId code : String) (redirectUri verifier : Option String)
    (p : Provider) : ((redeem tenantId clientId code redirectUri verifier).run p).2.store.codes
      = p.store.codes.erase code := by
  refine (Touches.sameBut_bind [] _ (fun c => ?_) p).codes (by decide)
  split
  · exact .guard <| .guard <| .bind (.ofExcept _) fun _ => .pure _
  · exact .refuse _

/-- A code that is not in the table gets nothing. -/
theorem run_redeem_of_absent (h : p.store.codes.find? p.now code = none) :
    ((redeem tenantId clientId code redirectUri verifier).run p).1
      = .error (.refused (.invalidGrant "invalid authorization code")) := by
  rw [redeem, run_bind, run_takeCode, h]
  rfl

theorem redeems_of_redeem {c : AuthorizationCode}
    (h : ((redeem tenantId clientId code redirectUri verifier).run p).1 = .ok c) :
    Redeems p tenantId clientId code redirectUri verifier c := by
  rw [redeem, run_bind, run_takeCode] at h
  cases hheld : p.store.codes.find? p.now code with
  | none =>
    rw [hheld] at h
    cases h
  | some d =>
    rw [hheld] at h
    dsimp only at h
    rw [run_guard] at h
    split at h
    · cases h
    · rename_i howner
      rw [run_guard] at h
      split at h
      · cases h
      · rename_i haddress
        rw [run_bind, run_ofExcept] at h
        cases hproof : Pkce.checkRedemption d.codeChallenge d.codeChallengeMethod verifier with
        | error e =>
          rw [hproof] at h
          cases h
        | ok _ =>
          rw [hproof] at h
          obtain rfl := Except.ok.inj h
          simp only [ne_eq, Bool.or_eq_true, decide_eq_true_eq, not_or, not_not] at howner haddress
          exact ⟨hheld, howner.1, howner.2, haddress, hproof⟩

end Op

end OpenIdProvider
