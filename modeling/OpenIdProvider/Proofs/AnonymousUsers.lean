import OpenIdProvider.Proofs.Issuance

/-!
# Who creates anonymous users

A token for an anonymous user is issued at the request of a service account that has a token
for it. In a run in which nobody forges tokens (`Provider.Unforged`) that token was issued
before, by the same tenant, to a client that was then one of its enabled service accounts
(`Provider.PermitsAnonymous`, `anonymous_minting_confined`).

What a token is, is written in it: claims are *said by* a text (`TokenClaims.SaidBy`), whoever
signed it, and an issued token says for which tenant it is and of which kind
(`Provider.Serves.exists_saidBy`). So a token of another kind or of another tenant is refused in
every state, whether or not tokens are forged.
-/

namespace OpenIdProvider

open Op Provider

variable {p q : Provider} {tenantId token : String}

/-! ## What a token says -/

/-- The payload of a token makes some claims, whoever signed it. -/
def TokenClaims.SaidBy (c : TokenClaims) (token : String) : Prop :=
  ∃ t, Jws.ofText? token = some t ∧ c.ReadFrom t

theorem TokenClaims.SaidBy.eq {c d : TokenClaims} (hc : c.SaidBy token) (hd : d.SaidBy token) :
    d = c := by
  obtain ⟨t, ht, hc⟩ := hc
  obtain ⟨t', ht', hd⟩ := hd
  obtain rfl := Option.some.inj (ht.symm.trans ht')
  exact hc.eq hd

/-- A token says what was signed. -/
theorem TokenClaims.SaidBy.of_signed {k : TokenKey} {c : TokenClaims}
    (h : (k.sign? c).map Jws.text = some token) (hc : c.InRange) : c.SaidBy token := by
  obtain ⟨t, ht, rfl⟩ := Option.map_eq_some_iff.mp h
  exact ⟨t, Jws.ofText?_of_create? ht, TokenClaims.readFrom_of_sign? ht hc⟩

theorem Provider.Mints.saidBy {type : TokenType} {ttl : Int} {k : TokenKey} {c : TokenClaims}
    (h : p.Mints q tenantId type ttl token k c) : c.SaidBy token :=
  .of_signed h.signed h.made.inRange

/-- An issued token says for which tenant it is, and of which kind. -/
theorem Provider.Serves.exists_saidBy {a : Action} {call : IssueCall} {response : TokenResponse}
    (h : p.Serves a call response) (htoken : token ∈ response.signedTokens) :
    ∃ c : TokenClaims, c.SaidBy token ∧ c.tenantId = call.tenantId ∧
      c.tokenType = call.tokenType := by
  obtain ⟨k, c, hmints⟩ := h.mints htoken
  exact ⟨c, hmints.saidBy, hmints.made.tenantId_eq, hmints.tokenType_eq⟩

/-- Tokens for anonymous users are issued to those who ask for them and for nothing else. -/
theorem Provider.Serves.tokenType_eq_anonymousUser {a : Action} {call : IssueCall}
    {response : TokenResponse} (h : p.Serves a call response) :
    call.tokenType = .anonymousUser ↔
      ∃ clientId caller, a = .issueAnonymous call.tenantId clientId caller := by
  constructor
  · intro htype
    rcases h.source with ha | ⟨hother, -⟩
    · cases call with
      | endUser => cases htype
      | service => cases htype
      | anonymous tenantId clientId caller => exact ⟨clientId, caller, ha⟩
    · exact absurd htype hother
  · rintro ⟨clientId, caller, rfl⟩
    rcases h.source with ha | ⟨-, client, request, -, ha⟩
    · cases call with
      | endUser => cases ha
      | service => cases ha
      | anonymous => rfl
    · cases ha

/-- A token that lets its holder create anonymous users in a tenant at an instant. -/
structure TokenClaims.MayCreate (c : TokenClaims) (tenantId : String) (now : Instant) : Prop where
  tenantId_eq : c.tenantId = tenantId
  tokenType_eq : c.tokenType = .serviceAccount
  scope : ∃ s, c.scope = some s ∧ Scope.createAnonymousUser ∈ Scope.tokens s
  notExpired : now.second < c.expiresAt

/-- A caller's token is accepted, and says that the caller may create anonymous users. -/
theorem Op.exists_mayCreate_of_anonymousCaller {c : TokenClaims}
    (h : (anonymousCaller tenantId token).run p = (.ok c, q)) :
    (verifyToken tenantId token).run p = (.ok c, q) ∧ c.SaidBy token ∧
      c.MayCreate tenantId p.now := by
  obtain ⟨hverified, htype, hscope⟩ := anonymousCaller_eq_ok h
  obtain ⟨s, t, -, ht, haccepts⟩ := verifyToken_eq_ok.mp hverified
  obtain ⟨scope, hc, hmem⟩ := (Option.any_eq_true _ _).mp hscope
  exact ⟨hverified, ⟨t, ht, haccepts.readFrom⟩, haccepts.tenantId_eq, htype,
    ⟨scope, hc, List.contains_iff_mem.mp hmem⟩, haccepts.notExpired⟩

/-! ## Runs without forged tokens -/

/-- The signed token that an action presents, and the tenant to which it does. -/
def Action.presentedToken? : Action → Option (String × String)
  | verify tenantId token => some (tenantId, token)
  | issueAnonymous tenantId _ token => some (tenantId, token)
  | _ => none

/-- A token was issued in a run. -/
def Provider.Issued (p : Provider) (as : List Action) (token : String) : Prop :=
  ∃ before a after tenantId response, as = before ++ a :: after ∧
    Answers (p.exec before) tenantId response a ∧ token ∈ response.signedTokens

/-- Signatures are not forged in a run: a token that is presented and passes verification was
issued before, in the same run. -/
def Provider.Unforged (p : Provider) (as : List Action) : Prop :=
  ∀ before a after tenantId token c, as = before ++ a :: after →
    a.presentedToken? = some (tenantId, token) →
    ((verifyToken tenantId token).run (p.exec before)).1 = .ok c → p.Issued before token

/-- A call that issues a token in a tenant to a client that is an enabled service account of the
tenant at the time. -/
structure Provider.IssuesTo (p : Provider) (a : Action) (tenantId : String) (account : Client)
    (token : String) : Prop where
  serves : ∃ scope response, p.Serves a (.service tenantId account.clientId scope) response ∧
    token ∈ response.signedTokens
  stored : p.store.client? account.clientId = some account
  bound : account.tenantId = tenantId
  enabled : account.enabled = true
  isServiceAccount : account.isServiceAccount = true

/-- An issued token for a service account was issued to one. -/
theorem Provider.Serves.exists_issuesTo {a : Action} {call : IssueCall} {response : TokenResponse}
    (h : p.Serves a call response) (htoken : token ∈ response.signedTokens)
    (htype : call.tokenType = .serviceAccount) :
    ∃ account, p.IssuesTo a call.tenantId account token := by
  cases call with
  | endUser => cases htype
  | anonymous => cases htype
  | service tenantId clientId scope =>
    obtain ⟨s, client, k, hbefore, hpermits⟩ := h.exists_permits
    have hstored := hpermits.stored
    rw [Store.client?, (hbefore.entities (by decide)).clients] at hstored
    obtain rfl : client.clientId = clientId := Table.key_of_get? hstored
    exact ⟨client, ⟨scope, response, h, htoken⟩, hstored, hpermits.bound, hpermits.enabled,
      hpermits.admits.1⟩

/-- What permits a new anonymous user of a client after a run: the tenant is active and allows
it, the client is an enabled one of the tenant, and the caller's token was issued in the run by
the tenant, to a client that was then an enabled service account, and is good for it now. -/
structure Provider.PermitsAnonymous (p : Provider) (as : List Action)
    (tenantId clientId caller : String) : Prop where
  tenant : ∃ tenant, (p.exec as).store.tenant? tenantId = some tenant ∧
    tenant.isActive = true ∧ tenant.allowAnonymousUsers = true
  client : ∃ client, (p.exec as).store.client? clientId = some client ∧
    client.tenantId = tenantId ∧ client.enabled = true
  issued : ∃ before a after account, as = before ++ a :: after ∧
    (p.exec before).IssuesTo a tenantId account caller
  claims : ∃ c : TokenClaims, c.SaidBy caller ∧ c.MayCreate tenantId (p.exec as).now

/-- A token that is issued in a run and says that it is good for new anonymous users was issued
to a service account of the tenant. -/
theorem Provider.Issued.exists_issuesTo {as : List Action} {c : TokenClaims} {now : Instant}
    (h : p.Issued as token) (hc : c.SaidBy token) (hmay : c.MayCreate tenantId now) :
    ∃ before a after account, as = before ++ a :: after ∧
      (p.exec before).IssuesTo a tenantId account token := by
  obtain ⟨before, a, after, issuer, response, has, hanswers, htoken⟩ := h
  obtain ⟨call, -, hserves⟩ := exists_serves hanswers
  obtain ⟨d, hd, htenant, htype⟩ := hserves.exists_saidBy htoken
  obtain rfl := hc.eq hd
  rw [hmay.tokenType_eq] at htype
  obtain ⟨account, hissues⟩ := hserves.exists_issuesTo htoken htype.symm
  rw [← htenant, hmay.tenantId_eq] at hissues
  exact ⟨before, a, after, account, has, hissues⟩

/-- An anonymous user is created where it is permitted. -/
theorem Provider.permitsAnonymous_of_issue {as : List Action} {clientId caller : String}
    {response : TokenResponse} (hissued : ∀ c,
      ((verifyToken tenantId caller).run (p.exec as)).1 = .ok c → p.Issued as caller)
    (h : ((issueAnonymous tenantId clientId caller).run (p.exec as)).1 = .ok response) :
    p.PermitsAnonymous as tenantId clientId caller := by
  rcases ends_issueAnonymous tenantId clientId caller (p.exec as) with
    ⟨e, q, hrun, -⟩ | ⟨response', q, hrun, client, k, hissues⟩
  · rw [hrun] at h
    cases h
  obtain ⟨⟨tenant, htenant, hallows⟩, c, hcaller⟩ := hissues.permits.admits
  obtain ⟨tenant', htenant', hactive⟩ := hissues.permits.tenant
  obtain rfl := Option.some.inj (htenant.symm.trans htenant')
  obtain ⟨hverified, hsaid, hmay⟩ := exists_mayCreate_of_anonymousCaller (Prod.ext hcaller rfl)
  have hbefore := hissued c (congrArg Prod.fst hverified)
  exact ⟨⟨tenant, htenant, hactive, hallows⟩,
    ⟨client, hissues.permits.stored, hissues.permits.bound, hissues.permits.enabled⟩,
    hbefore.exists_issuesTo hsaid hmay, c, hsaid, hmay⟩

/-- A token that says that it is of another kind or of another tenant brings no anonymous user,
in whatever state. -/
theorem Op.ends_issueAnonymous_of_saidBy {c : TokenClaims} (hc : c.SaidBy token)
    (hnot : c.tokenType ≠ .serviceAccount ∨ c.tenantId ≠ tenantId) (clientId : String)
    (p : Provider) : ∃ e q, (issueAnonymous tenantId clientId token).run p
      = (.error (.refused e), q) ∧ q.store = p.store := by
  rcases ends_issueAnonymous tenantId clientId token p with
    ⟨e, q, hrun, hsame, -⟩ | ⟨response, q, -, client, k, hissues⟩
  · exact ⟨e, q, hrun, hsame.store_eq⟩
  · obtain ⟨-, d, hcaller⟩ := hissues.permits.admits
    obtain ⟨-, hd, hmay⟩ := exists_mayCreate_of_anonymousCaller (Prod.ext hcaller rfl)
    obtain rfl := hc.eq hd
    rcases hnot with htype | htenant
    · exact absurd hmay.tokenType_eq htype
    · exact absurd hmay.tenantId_eq htenant

/-- **Anonymous users are created by service accounts alone.** Take a run in which signatures
are not forged. Every signed token that an action issues says for which tenant it is and of which
kind; it is one of an anonymous user exactly when the action asks for one, and then it is
permitted (`PermitsAnonymous`). A token of an end user or of an anonymous user, be it an access
token or an ID token, and a token of another tenant, brings no anonymous user in any state, and
changes nothing in the store. -/
theorem anonymous_minting_confined {as : List Action} (hunforged : p.Unforged as) :
    (∀ before a after tenantId response token, as = before ++ a :: after →
      Answers (p.exec before) tenantId response a → token ∈ response.signedTokens →
      ∃ c : TokenClaims, c.SaidBy token ∧ c.tenantId = tenantId ∧
        (c.tokenType = .anonymousUser ↔
          ∃ clientId caller, a = .issueAnonymous tenantId clientId caller) ∧
        ∀ clientId caller, a = .issueAnonymous tenantId clientId caller →
          p.PermitsAnonymous before tenantId clientId caller) ∧
    ∀ q a call response token tenantId clientId, Serves q a call response →
      token ∈ response.signedTokens →
      (call.tokenType ≠ .serviceAccount ∨ call.tenantId ≠ tenantId) → ∀ r, ∃ e s,
        (issueAnonymous tenantId clientId token).run r = (.error (.refused e), s) ∧
          s.store = r.store := by
  constructor
  · intro before a after tenantId response token has hanswers htoken
    obtain ⟨call, rfl, hserves⟩ := exists_serves hanswers
    obtain ⟨c, hsaid, htenant, htype⟩ := hserves.exists_saidBy htoken
    refine ⟨c, hsaid, htenant, htype ▸ hserves.tokenType_eq_anonymousUser,
      fun clientId caller ha => ?_⟩
    subst ha
    cases hanswers with
    | anonymous hissue =>
      exact permitsAnonymous_of_issue (fun c => hunforged before _ after _ caller c has rfl) hissue
  · intro q a call response token tenantId clientId hserves htoken hnot r
    obtain ⟨c, hsaid, htenant, htype⟩ := hserves.exists_saidBy htoken
    exact ends_issueAnonymous_of_saidBy hsaid (htype ▸ htenant ▸ hnot) clientId r

/-! ## An anonymous user -/

/-- The token of a service account has the scopes that the answer names. -/
theorem signs_of_service {clientId : String} {scope : Option String} {r : TokenResponse}
    (hp : p.UsesStored []) (h : ((issueService tenantId clientId scope).run p).1 = .ok r) :
    ∃ k c, p.Signs (p.step (.issueService tenantId clientId scope)) tenantId r.expiresIn
      r.accessToken k c ∧ c.tokenType = .serviceAccount ∧ c.scope = r.scope := by
  obtain ⟨k, c, hmints, hscope⟩ := mints_of_issueService (Prod.ext h rfl) List.mem_cons_self
  exact ⟨k, c, hmints.signs hp, hmints.tokenType_eq, hscope⟩

/-- An anonymous user is created when the caller's token is accepted and says that it may be. -/
theorem exists_answers_anonymous {clientId : String} {tenant : Tenant} {client : Client}
    {c : TokenClaims} {k : TokenKey} {expiresAt : Instant}
    (htenant : p.store.activeTenant? tenantId = some tenant)
    (hallows : tenant.allowAnonymousUsers = true)
    (hverified : (verifyToken tenantId token).run p = (.ok c, q))
    (htype : c.tokenType = .serviceAccount)
    (hscope : c.hasScope Scope.createAnonymousUser = true)
    (hclient : p.store.enabledClient? tenantId clientId = some client)
    (hk : (currentKey.run p).1 = .ok k)
    (hexpiry : (Span.ofSeconds? p.config.tokens.defaultTokenTtl).bind p.now.add? = some expiresAt)
    (hsize : Rsa.signatureSize k.privateKey.modulus = true) :
    ∃ r, Answers p tenantId r (.issueAnonymous tenantId clientId token) := by
  have hcaller : (anonymousCaller tenantId token).run p = (.ok c, q) := by
    rw [anonymousCaller, run_bind, run_tryCatch, hverified]
    dsimp only
    rw [if_pos (by simp [htype, hscope])]
    rfl
  have hsame := (touches_anonymousCaller tenantId token).sameBut_run hcaller
  obtain ⟨s, hkey⟩ : ∃ s, currentKey.run q = (.ok k, s) :=
    ⟨_, Prod.ext ((currentKey_of_anonymousCaller hcaller).trans hk) rfl⟩
  obtain ⟨subject, u, hsubject⟩ : ∃ subject u, freshUuid.run s = (.ok subject, u) := ⟨_, _, rfl⟩
  have hkeyed := hsame.trans (touches_currentKey.sameBut_run hkey)
  have hdrawn : SameBut [.keys] s u := Touches.freshUuid.sameBut_run hsubject
  have hexpiry : (Span.ofSeconds? s.config.tokens.defaultTokenTtl).bind u.now.add?
      = some expiresAt := by
    rw [hkeyed.config, (hkeyed.trans hdrawn).now (by decide)]
    exact hexpiry
  have henabled : q.store.enabledClient? tenantId clientId = some client := by
    rw [hsame.store_eq]
    exact hclient
  obtain ⟨claims, v, hclaims⟩ := exists_run_freshClaims subject clientId .anonymousUser hexpiry
  obtain ⟨access, haccess⟩ := exists_run_sign hsize claims v
  have hrun : ((issueAnonymous tenantId clientId token).run p).1
      = .ok (.bearer access s.config.tokens.defaultTokenTtl none) := by
    rw [issueAnonymous, run_bind, run_activeTenant htenant]
    dsimp only
    rw [run_guard, if_neg (by simp [hallows]), run_bind, hcaller]
    dsimp only
    rw [run_bind, run_enabledClient henabled]
    dsimp only
    rw [run_bind, hkey]
    dsimp only
    rw [run_bind, run_provider]
    dsimp only
    rw [run_bind, hsubject]
    dsimp only
    rw [run_bind, hclaims]
    dsimp only
    rw [run_bind, haccess]
    rfl
  exact ⟨_, .anonymous hrun⟩

namespace AnonymousSample

open TokenSample

/-- A service account that may create anonymous users. -/
def account : Client := Client.create "C1" "secret-C1" "T1" .serviceAccount (instant 0)

/-- Its tenant allows anonymous users. -/
def provider : Provider :=
  { opening with
    store := { opening.store with
      tenants := Table.empty.put
        { Tenant.create "T1" (instant 0) with allowAnonymousUsers := true }
      scopeGrants := Table.empty.put ⟨"C1", "T1", Scope.createAnonymousUser⟩ } }

/-- The service account gets its token, and keys are read again. -/
def begun : List Action := [issue, .invalidateKeys]

/-- It creates an anonymous user with a token. -/
def creation (caller : String) : Action := .issueAnonymous "T1" "C1" caller

theorem rootKeys_provider : provider.rootKeys = [signingKey "K1" (instant 600)] := rfl

theorem granted_account :
    Text.unwords (provider.store.grantedScopes account) = Scope.createAnonymousUser := by
  decide +kernel

/-- The service account gets a token that says that it may create anonymous users. -/
theorem exists_caller : ∃ r c k, Answers provider "T1" r issue ∧
    provider.Signs (provider.step issue) "T1" 3600 r.accessToken k c ∧
    c.tokenType = .serviceAccount ∧ c.scope = some Scope.createAnonymousUser := by
  obtain ⟨k, q, hk, hprivate⟩ :=
    exists_currentKey_sample (p := provider) rfl rfl rfl rootKeys_provider
  have hsize : Rsa.signatureSize k.privateKey.modulus = true := by
    rw [hprivate]
    exact signatureSize_privateKey
  have hactive : provider.store.activeTenant? "T1"
      = some { Tenant.create "T1" (instant 0) with allowAnonymousUsers := true } := rfl
  have henabled : provider.store.enabledClient? "T1" "C1" = some account := rfl
  have hexpiry : (Span.ofSeconds? provider.config.tokens.defaultTokenTtl).bind provider.now.add?
      = some (instant 3600) := rfl
  obtain ⟨r, hr, hlife, hscope⟩ :=
    exists_answers_service hactive henabled rfl hk hexpiry hsize
  rw [granted_account, if_neg (by decide)] at hscope
  have hlife : r.expiresIn = 3600 := hlife
  have hused : provider.UsesStored [] := ⟨List.nil_subset _, fun l hl => by cases hl⟩
  obtain ⟨k', c, hsigns, htype, hc⟩ := signs_of_service hused hr
  rw [hlife] at hsigns
  exact ⟨r, c, k', .service hr, hsigns, htype, hc.trans hscope⟩

theorem sameBut_begun : SameBut [.keys] provider (provider.exec begun) :=
  (sameBut_step provider issue).trans (sameBut_step _ .invalidateKeys)

theorem now_begun : (provider.exec begun).now = instant 0 :=
  sameBut_begun.now (by decide)

theorem rootKeys_begun : (provider.exec begun).rootKeys = [signingKey "K1" (instant 600)] := by
  rw [rootKeys_sameBut sameBut_begun (by decide), rootKeys_provider]

/-- The token is still accepted when the keys are read again. -/
theorem verifyToken_begun {r : TokenResponse} {c : TokenClaims} {k : TokenKey}
    (hsigns : provider.Signs (provider.step issue) "T1" 3600 r.accessToken k c) :
    ((verifyToken "T1" r.accessToken).run (provider.exec begun)).1 = .ok c := by
  have hstays : provider.Signs (provider.exec begun) "T1" 3600 r.accessToken k c := by
    refine hsigns.exec (fun a ha => ?_) ⟨?_, trivial⟩
    · obtain rfl := List.mem_singleton.mp ha
      exact nofun
    · rw [(sameBut_step (provider.step issue) .invalidateKeys).now (by decide)]
      exact Instant.le_refl _
  have husable : AllUsable (provider.exec begun).rootKeys (provider.exec begun).grace := by
    rw [rootKeys_begun, sameBut_begun.grace]
    exact allUsable_opening
  have hgrace : Span.ofSeconds? Config.standard.keys.gracePeriod
      = some (provider.exec begun).grace := by
    rw [sameBut_begun.grace]
    rfl
  have hsecond : (provider.exec begun).now.second = 1704067200 := by rw [now_begun]; rfl
  have hissued : c.issuedAt = 1704067200 := hsigns.made.issuedAt_eq
  have hexpires : c.expiresAt = c.issuedAt + 3600 := hsigns.made.expiresAt_eq (by decide)
  exact hstays.verifyToken_eq_ok sameBut_begun.config now_begun husable hgrace (by decide)
    (by omega) (by omega)

/-- With this token it creates an anonymous user, after the keys have been read again. -/
theorem exists_creation {r : TokenResponse} {c : TokenClaims} {k : TokenKey}
    (hsigns : provider.Signs (provider.step issue) "T1" 3600 r.accessToken k c)
    (htype : c.tokenType = .serviceAccount) (hscope : c.scope = some Scope.createAnonymousUser) :
    ∃ r', Answers (provider.exec begun) "T1" r' (creation r.accessToken) := by
  have htenant : (provider.exec begun).store.activeTenant? "T1"
      = some { Tenant.create "T1" (instant 0) with allowAnonymousUsers := true } := by
    rw [sameBut_begun.store_eq]
    rfl
  have hclient : (provider.exec begun).store.enabledClient? "T1" "C1" = some account := by
    rw [sameBut_begun.store_eq]
    rfl
  have hpermitted : c.hasScope Scope.createAnonymousUser = true := by
    rw [TokenClaims.hasScope, hscope]
    decide +kernel
  obtain ⟨k', q, hk, hprivate⟩ :=
    exists_currentKey_sample rfl now_begun sameBut_begun.grace rootKeys_begun
  have hexpiry : (Span.ofSeconds? (provider.exec begun).config.tokens.defaultTokenTtl).bind
      (provider.exec begun).now.add? = some (instant 3600) := by
    rw [sameBut_begun.config, now_begun]
    rfl
  have hsize : Rsa.signatureSize k'.privateKey.modulus = true := by
    rw [hprivate]
    exact signatureSize_privateKey
  exact exists_answers_anonymous htenant rfl (Prod.ext (verifyToken_begun hsigns) rfl) htype
    hpermitted hclient (congrArg Prod.fst hk) hexpiry hsize

/-- The token that it presents is the one that it was issued. -/
theorem unforged_creation {r : TokenResponse} (h : Answers provider "T1" r issue) :
    provider.Unforged (begun ++ [creation r.accessToken]) := by
  intro before a after tenantId token c has hpresented _
  rcases Action.last_or_before has with ⟨rfl, rfl, -⟩ | ⟨rest, -, has⟩
  · obtain ⟨-, rfl⟩ := Prod.mk.inj (Option.some.inj hpresented)
    exact ⟨[], issue, [.invalidateKeys], "T1", r, rfl, h, List.mem_cons_self⟩
  · -- What comes before presents no token.
    have ha : a ∈ begun := by
      rw [has]
      exact List.mem_append_right _ List.mem_cons_self
    simp only [begun, List.mem_cons, List.not_mem_nil, or_false] at ha
    rcases ha with rfl | rfl <;> cases hpresented

end AnonymousSample

section

open AnonymousSample TokenSample

/-- A service account creates an anonymous user, and the token of this one creates no other. -/
theorem service_account_creates_anonymous_user : ∃ caller r token,
    AnonymousSample.provider.Unforged (begun ++ [creation caller]) ∧
      Answers (AnonymousSample.provider.exec begun) "T1" r (creation caller) ∧
      token ∈ r.signedTokens ∧
      AnonymousSample.provider.PermitsAnonymous begun "T1" "C1" caller ∧
      ∀ q, ∃ e s, (issueAnonymous "T1" "C1" token).run q = (.error (.refused e), s) ∧
        s.store = q.store := by
  obtain ⟨issued, c, k, hissued, hsigns, htype, hscope⟩ := exists_caller
  obtain ⟨r, hr⟩ := exists_creation hsigns htype hscope
  have hunforged := unforged_creation hissued
  obtain ⟨hpermitted, hrefused⟩ := anonymous_minting_confined hunforged
  obtain ⟨_, _, _, _, hpermits⟩ :=
    hpermitted begun _ [] "T1" r r.accessToken rfl hr List.mem_cons_self
  refine ⟨issued.accessToken, r, r.accessToken, hunforged, hr, List.mem_cons_self,
    hpermits "C1" issued.accessToken rfl, ?_⟩
  cases hr with
  | anonymous h =>
    have hserves := serves_action (.anonymous "T1" "C1" issued.accessToken) h
    exact hrefused _ _ _ r r.accessToken "T1" "C1" hserves List.mem_cons_self (.inl nofun)

end

end OpenIdProvider
