import OpenIdProvider.Proofs.Jws
import OpenIdProvider.Proofs.KeyCache
import OpenIdProvider.Proofs.Verification

/-!
# Tokens that the provider signs

A token is read with the claims that were signed (`TokenClaims.readFrom_of_sign?`). So its
verification depends on the key that is found for it and on the clock alone:

* `verifyToken_of_found`: it is accepted while its key is published and it has not expired;
* `verifyToken_of_expired`: it is refused once it has expired, whatever is published.

`Provider.Mints` says what a token of a response says of the state that issued it
(`mints_of_answers`), and `Provider.Signs` that its key stays in use (`signs_of_answers`).
-/

namespace OpenIdProvider

open Op Provider

/-! ## Reading what was signed -/

/-- Whether the instants among the claims can be read back. -/
def TokenClaims.InRange (c : TokenClaims) : Prop :=
  Json.IsInt64 c.expiresAt ∧ Json.IsInt64 c.issuedAt

/-- Whether a public key verifies all signatures that a private key makes. -/
def Rsa.PublicKey.PairsWith (e : Rsa.PublicKey) (k : Rsa.PrivateKey) : Prop :=
  ∀ message signature, Rsa.sign? k message = some signature →
    Rsa.verify e message signature = true

variable {k : TokenKey} {c : TokenClaims} {t : Jws}

namespace TokenClaims

theorem readPayload_of_sign? (h : k.sign? c = some t) (hc : c.InRange) :
    t.readPayload ofJson? = .ok c :=
  Jws.readPayload_of_create? h (writable_toJson 125 hc.1 hc.2) (ofJson?_toJson hc.1 hc.2)

/-- The payload of a token makes the claims that were signed. -/
theorem readFrom_of_sign? (h : k.sign? c = some t) (hc : c.InRange) : c.ReadFrom t :=
  ⟨c.toJson, Jws.jsonOf_payload_of_create? h (writable_toJson 125 hc.1 hc.2),
    ofJson?_toJson hc.1 hc.2, registeredClaimsFit_toJson c⟩

end TokenClaims

/-- The header of a token names the key that signed it. -/
theorem Jws.readHeader_of_sign? (h : k.sign? c = some t) :
    t.readHeader = .ok ⟨.rs256, some k.keyId⟩ :=
  readHeader_of_create? h (writable_header .rs256 (some k.keyId))
    (ofJson?_header .rs256 (some k.keyId))

namespace Op

variable {p q : Provider} {l : LoadedKeys} {tenantId : String}

/-- A token is accepted while a key that verifies it is published under the identifier of its
own, and it has not expired. -/
theorem verifyToken_of_pair (h : k.sign? c = some t) (hc : c.InRange)
    (hl : loadedKeys.run p = (.ok l, q)) {e : Rsa.PublicKey}
    {certificates : Option (List String)}
    (hfound : l.published.find? k.keyId = some (.signing k.keyId e certificates))
    (hkey : e.PairsWith k.privateKey) (hissuer : c.issuer = q.config.issuer tenantId)
    (htenant : c.tenantId = tenantId) (hexp : 0 ≤ c.expiresAt)
    (hnow : q.now.second < c.expiresAt) : ((verifyToken tenantId t.text).run p).1 = .ok c := by
  have hsame := touches_loadedKeys.sameBut_run hl
  rw [hsame.config] at hissuer
  rw [hsame.now (by decide)] at hnow
  obtain ⟨-, -, signature, hsign, hsignature⟩ := Jws.create?_eq_some h
  have hverified : t.SignedWith (.signing k.keyId e certificates) :=
    ⟨Jws.readHeader_of_sign? h, e, signature, WebKey.publicKey?_signing _ _ _,
      by rw [hsignature, Base64.decodeUrl?_encodeUrl], hkey _ _ hsign⟩
  have haccepts : l.published.Accepts (p.config.issuer tenantId) tenantId p.now t c :=
    ⟨⟨_, hfound, hverified⟩, TokenClaims.readFrom_of_sign? h hc, hissuer, htenant, hnow, hexp⟩
  rw [verifyToken_eq_ok.mpr ⟨l.published, t, run_publishedKeys hl,
    Jws.ofText?_of_create? h, haccepts⟩]

/-- A token is accepted while its key is published and it has not expired. -/
theorem verifyToken_of_found (h : k.sign? c = some t) (hc : c.InRange)
    (hl : loadedKeys.run p = (.ok l, q)) {certificates : Option (List String)}
    (hfound : l.published.find? k.keyId
      = some (.signing k.keyId k.privateKey.publicKey certificates))
    (hkey : k.privateKey.Verifies) (hissuer : c.issuer = q.config.issuer tenantId)
    (htenant : c.tenantId = tenantId) (hexp : 0 ≤ c.expiresAt)
    (hnow : q.now.second < c.expiresAt) : ((verifyToken tenantId t.text).run p).1 = .ok c :=
  verifyToken_of_pair h hc hl hfound hkey hissuer htenant hexp hnow

/-- A token is refused once it has expired, whatever keys are published. -/
theorem verifyToken_of_expired (h : k.sign? c = some t) (hc : c.InRange)
    (hl : loadedKeys.run p = (.ok l, q)) (hnow : c.expiresAt ≤ q.now.second) :
    ∃ reason, ((verifyToken tenantId t.text).run p).1
      = .error (.refused (.invalidToken reason)) := by
  have hsame := touches_loadedKeys.sameBut_run hl
  rw [hsame.now (by decide)] at hnow
  have hread : (readToken t.text).run p = (.ok (k.keyId, t), p) :=
    readToken_eq_ok.mpr ⟨rfl, Jws.ofText?_of_create? h, Jws.readHeader_of_sign? h⟩
  rcases run_verifyToken tenantId hread (run_publishedKeys hl) with
    ⟨d, hd, -⟩ | ⟨-, reason, hrun⟩
  · have hearly := hd.notExpired
    rw [(TokenClaims.readFrom_of_sign? h hc).eq hd.readFrom] at hearly
    exact absurd hearly (Int.not_lt.mpr hnow)
  · exact ⟨reason, by rw [hrun]⟩

end Op

/-! ## Signing what is read -/

/-- Claims of a token for a tenant that is made at an instant and lives `ttl` seconds. -/
structure TokenClaims.MadeAt (c : TokenClaims) (issuer tenantId : String) (now : Instant)
    (ttl : Int) : Prop where
  issuer_eq : c.issuer = issuer
  tenantId_eq : c.tenantId = tenantId
  issuedAt_eq : c.issuedAt = now.second
  expiresAt_eq : 0 < ttl → c.expiresAt = c.issuedAt + ttl
  inRange : c.InRange

namespace TokenClaims.MadeAt

variable {issuer tenantId : String} {now : Instant} {ttl : Int}

theorem create (issuer subject tenantId clientId jti : String) (type : TokenType)
    {expiresAt : Instant} (h : (Span.ofSeconds? ttl).bind now.add? = some expiresAt) :
    (TokenClaims.create issuer subject tenantId clientId jti type now expiresAt).MadeAt issuer
      tenantId now ttl := by
  refine ⟨rfl, rfl, rfl, fun hpos => ?_, expiresAt.isInt64_second, now.isInt64_second⟩
  obtain ⟨d, hd, hadd⟩ := Option.bind_eq_some_iff.mp h
  exact Instant.second_of_add? (Int.le_of_lt hpos) hd hadd

theorem withUser (h : c.MadeAt issuer tenantId now ttl) (u : User) :
    (c.withUser u).MadeAt issuer tenantId now ttl :=
  ⟨h.issuer_eq, h.tenantId_eq, h.issuedAt_eq, h.expiresAt_eq, h.inRange⟩

theorem withScope (h : c.MadeAt issuer tenantId now ttl) (scope : String) :
    (c.withScope scope).MadeAt issuer tenantId now ttl :=
  ⟨h.issuer_eq, h.tenantId_eq, h.issuedAt_eq, h.expiresAt_eq, h.inRange⟩

theorem withJti (h : c.MadeAt issuer tenantId now ttl) (jti : String) :
    ({ c with jti, scope := none } : TokenClaims).MadeAt issuer tenantId now ttl :=
  ⟨h.issuer_eq, h.tenantId_eq, h.issuedAt_eq, h.expiresAt_eq, h.inRange⟩

theorem sameBut {p q : Provider} {ps : List Part}
    (h : c.MadeAt (p.config.issuer tenantId) tenantId p.now ttl) (hsame : SameBut ps p q)
    (hclock : .clock ∉ ps) : c.MadeAt (q.config.issuer tenantId) tenantId q.now ttl := by
  rw [hsame.config, hsame.now hclock]
  exact h

end TokenClaims.MadeAt

/-- A token of a kind was signed for a tenant in a step from `p` to `q`. The key is the one that
signed before the step changed anything that keys depend on. -/
structure Provider.Mints (p q : Provider) (tenantId : String) (type : TokenType) (ttl : Int)
    (token : String) (k : TokenKey) (c : TokenClaims) : Prop where
  signed : (k.sign? c).map Jws.text = some token
  made : c.MadeAt (p.config.issuer tenantId) tenantId p.now ttl
  tokenType_eq : c.tokenType = type
  key : ∃ r s, SameBut [.codes, .refreshGrants, .keys] p r ∧ currentKey.run r = (.ok k, s) ∧
    SameBut [.codes, .refreshGrants, .keys] s q

/-- A token for a tenant was issued in a step from `p` to `q`: it says what was signed, and
the key that signed it is in use from then on. -/
structure Provider.Signs (p q : Provider) (tenantId : String) (ttl : Int) (token : String)
    (k : TokenKey) (c : TokenClaims) : Prop where
  signed : (k.sign? c).map Jws.text = some token
  made : c.MadeAt (p.config.issuer tenantId) tenantId p.now ttl
  stored : ∃ key, q.UsesStored [key] ∧ key.isActiveJwtSigning = true ∧ p.now < key.expiresAt ∧
    TokenKey.ofSigningKey key = .ok k

namespace Provider.Mints

variable {p q p₁ q₁ : Provider} {tenantId token : String} {type : TokenType} {ttl : Int}

/-- A token that was signed in the middle of a step was signed in the step. -/
theorem within (h : p₁.Mints q₁ tenantId type ttl token k c)
    (hbefore : SameBut [.codes, .refreshGrants, .keys] p p₁)
    (hafter : SameBut [.codes, .refreshGrants, .keys] q₁ q) :
    p.Mints q tenantId type ttl token k c := by
  obtain ⟨r, s, hr, hk, hs⟩ := h.key
  have hmade := h.made
  rw [hbefore.config, hbefore.now (by decide)] at hmade
  exact ⟨h.signed, hmade, h.tokenType_eq, r, s, hbefore.trans hr, hk, hs.trans hafter⟩

/-- The key that signed a token is one of the keys in use after the step. -/
theorem signs (h : p.Mints q tenantId type ttl token k c) (hp : p.UsesStored []) :
    p.Signs q tenantId ttl token k c := by
  obtain ⟨r, s, hbefore, hk, hafter⟩ := h.key
  obtain ⟨key, hstored, hactive, hlater, hread⟩ :=
    usesStored_of_currentKey (hp.sameBut hbefore (by decide) (by decide)) hk
  rw [hbefore.now (by decide)] at hlater
  exact ⟨h.signed, h.made, key, hstored.sameBut hafter (by decide) (by decide), hactive, hlater,
    hread⟩

end Provider.Mints

namespace Op

variable {p q r : Provider} {tenantId token : String} {ttl : Int}

theorem expiry_eq_ok {t : Instant} (h : (expiry ttl).run p = (.ok t, q)) :
    (Span.ofSeconds? ttl).bind p.now.add? = some t := by
  rw [expiry, run_bind, run_provider] at h
  dsimp only at h
  rw [run_orRefuse] at h
  cases hadd : (Span.ofSeconds? ttl).bind p.now.add? with
  | none =>
    rw [hadd] at h
    cases (Prod.mk.inj h).1
  | some u =>
    rw [hadd] at h
    rw [Except.ok.inj (Prod.mk.inj h).1]

/-- Fresh claims are made of an expiry that is in range and of a new identifier. -/
theorem freshClaims_eq_ok {subject clientId : String} {type : TokenType}
    (h : (freshClaims subject tenantId clientId type ttl).run p = (.ok c, q)) :
    ∃ expiresAt jti, (Span.ofSeconds? ttl).bind p.now.add? = some expiresAt ∧
      c = .create (p.config.issuer tenantId) subject tenantId clientId jti type p.now
        expiresAt := by
  obtain ⟨expiresAt, p₁, hexpiry, h⟩ := bind_eq_ok.mp h
  obtain ⟨jti, p₂, hjti, h⟩ := bind_eq_ok.mp h
  have hsame := ((touches_expiry ttl).sameBut_run hexpiry).trans
    (Touches.freshUuid.sameBut_run hjti)
  rw [run_bind_of_ok (run_provider p₂), hsame.config, hsame.now (by decide)] at h
  obtain rfl := Except.ok.inj (Prod.mk.inj h).1
  exact ⟨expiresAt, jti, expiry_eq_ok hexpiry, rfl⟩

theorem madeAt_of_freshClaims {subject clientId : String} {type : TokenType}
    (h : (freshClaims subject tenantId clientId type ttl).run p = (.ok c, q)) :
    c.MadeAt (p.config.issuer tenantId) tenantId p.now ttl ∧ c.tokenType = type := by
  obtain ⟨expiresAt, jti, hexpiry, rfl⟩ := freshClaims_eq_ok h
  exact ⟨.create _ _ _ _ _ _ hexpiry, rfl⟩

theorem sign_eq_ok (h : (sign k c).run p = (.ok token, q)) :
    (k.sign? c).map Jws.text = some token := by
  obtain ⟨t, p₁, hsign, h⟩ := bind_eq_ok.mp h
  obtain rfl := Except.ok.inj (Prod.mk.inj h).1
  rw [run_orRefuse] at hsign
  cases ht : k.sign? c with
  | none =>
    rw [ht] at hsign
    simp at hsign
  | some u =>
    rw [ht] at hsign
    obtain rfl := Except.ok.inj (Prod.mk.inj hsign).1
    rfl

/-- An ID token has the claims of the access token, but for its identifier and the scope, which
asks for it. -/
theorem idToken_eq_ok {id : Option String} (h : (idToken k c).run p = (.ok id, q)) :
    (id.isSome ↔ c.hasScope Scope.openid = true) ∧ ∀ token, id = some token →
      ∃ jti, (k.sign? { c with jti, scope := none }).map Jws.text = some token := by
  rw [idToken] at h
  split at h
  · rename_i hopenid
    obtain ⟨jti, p₁, -, h⟩ := bind_eq_ok.mp h
    obtain ⟨token, p₂, hsign, h⟩ := bind_eq_ok.mp h
    obtain rfl := Except.ok.inj (Prod.mk.inj h).1
    refine ⟨iff_of_true rfl hopenid, fun _ htoken => ⟨jti, ?_⟩⟩
    rw [← Option.some.inj htoken]
    exact sign_eq_ok hsign
  · rename_i hnot
    obtain rfl := Except.ok.inj (Prod.mk.inj h).1
    refine ⟨iff_of_false Bool.false_ne_true hnot, fun token htoken => ?_⟩
    cases htoken

theorem activeTenant_eq_ok {e : ProtocolError} {tenant : Tenant} :
    (activeTenant tenantId e).run p = (.ok tenant, q) ↔
      p.store.activeTenant? tenantId = some tenant ∧ p = q := by
  rw [activeTenant, run_bind_of_ok (run_provider p)]
  exact orRefuse_eq_ok

theorem enabledClient_eq_ok {clientId : String} {e : ProtocolError} {client : Client} :
    (enabledClient tenantId clientId e).run p = (.ok client, q) ↔
      p.store.enabledClient? tenantId clientId = some client ∧ p = q := by
  rw [enabledClient, run_bind_of_ok (run_provider p)]
  exact orRefuse_eq_ok

theorem ofExcept_eq_ok {α : Type} {x : Except ProtocolError α} {a : α} :
    (ofExcept x).run p = (.ok a, q) ↔ x = .ok a ∧ p = q := by
  rw [run_ofExcept]
  cases x <;> simp [Except.mapError]

/-- A token that is signed with the current key, by an operation that does nothing else with
keys from then on. -/
theorem mints_of_currentKey {type : TokenType} (hbefore : SameBut [.keys] p q)
    (hk : currentKey.run q = (.ok k, r)) {s : Provider} (hafter : SameBut [.refreshGrants] r s)
    (hc : c.MadeAt (s.config.issuer tenantId) tenantId s.now ttl) (htype : c.tokenType = type)
    (hsigned : (k.sign? c).map Jws.text = some token) :
    p.Mints s tenantId type ttl token k c := by
  have hcurrent := hbefore.trans (touches_currentKey.sameBut_run hk)
  rw [hafter.config, hafter.now (by decide), hcurrent.config, hcurrent.now (by decide)] at hc
  exact ⟨hsigned, hc, htype, q, r, hbefore.mono (by decide), hk, hafter.mono (by decide)⟩

end Op

/-! ## Tokens of a response -/

/-- The tokens of a response that are signed. -/
def TokenResponse.signedTokens (r : TokenResponse) : List String :=
  r.accessToken :: r.idToken.toList

/-- An action that issues tokens for a tenant, and its response. -/
inductive Answers (p : Provider) (tenantId : String) (r : TokenResponse) : Action → Prop where
  | endUser {clientId userId scope : String} {refreshCount : Nat}
      (h : ((issueEndUser tenantId clientId userId scope refreshCount).run p).1 = .ok r) :
      Answers p tenantId r (.issueEndUser tenantId clientId userId scope refreshCount)
  | service {clientId : String} {scope : Option String}
      (h : ((issueService tenantId clientId scope).run p).1 = .ok r) :
      Answers p tenantId r (.issueService tenantId clientId scope)
  | anonymous {clientId callerToken : String}
      (h : ((issueAnonymous tenantId clientId callerToken).run p).1 = .ok r) :
      Answers p tenantId r (.issueAnonymous tenantId clientId callerToken)
  | grant {client : Client} {request : TokenRequest}
      (h : ((grant tenantId client request).run p).1 = .ok r) :
      Answers p tenantId r (.grant tenantId client request)

namespace Op

variable {p q : Provider} {tenantId clientId token : String} {r : TokenResponse}

/-- The steps in which a service account's token is issued. -/
theorem steps_of_issueService {scope : Option String}
    (h : (issueService tenantId clientId scope).run p = (.ok r, q)) :
    ∃ client granted k c p₁ p₂, p.store.enabledClient? tenantId clientId = some client ∧
      serviceScope (p.store.grantedScopes client) scope = .ok granted ∧
      currentKey.run p = (.ok k, p₁) ∧
      (freshClaims clientId tenantId clientId .serviceAccount
        p.config.tokens.defaultTokenTtl).run p₁ = (.ok c, p₂) ∧
      (sign k (c.withScope granted)).run p₂ = (.ok r.accessToken, q) ∧
      r = .bearer r.accessToken p.config.tokens.defaultTokenTtl (c.withScope granted).scope := by
  rw [issueService] at h
  obtain ⟨tenant, _, h₁, h⟩ := bind_eq_ok.mp h
  obtain ⟨-, rfl⟩ := activeTenant_eq_ok.mp h₁
  obtain ⟨client, _, h₂, h⟩ := bind_eq_ok.mp h
  obtain ⟨hclient, rfl⟩ := enabledClient_eq_ok.mp h₂
  rw [run_guard] at h
  split at h
  · cases (Prod.mk.inj h).1
  rw [run_bind_of_ok (run_provider _)] at h
  obtain ⟨granted, _, h₃, h⟩ := bind_eq_ok.mp h
  obtain ⟨hgranted, rfl⟩ := ofExcept_eq_ok.mp h₃
  obtain ⟨k, p₁, hk, h⟩ := bind_eq_ok.mp h
  rw [run_bind_of_ok (run_provider p₁), (touches_currentKey.sameBut_run hk).config] at h
  obtain ⟨c, p₂, hc, h⟩ := bind_eq_ok.mp h
  obtain ⟨access, p₃, haccess, h⟩ := bind_eq_ok.mp h
  obtain ⟨hr, rfl⟩ := Prod.mk.inj h
  obtain rfl := Except.ok.inj hr
  exact ⟨client, granted, k, c, p₁, p₂, hclient, hgranted, hk, hc, haccess, rfl⟩

theorem mints_of_issueService {scope : Option String}
    (h : (issueService tenantId clientId scope).run p = (.ok r, q))
    (htoken : token ∈ r.signedTokens) :
    ∃ k c, p.Mints q tenantId .serviceAccount r.expiresIn token k c ∧ c.scope = r.scope := by
  obtain ⟨client, granted, k, c, p₁, p₂, -, -, hk, hc, haccess, hr⟩ := steps_of_issueService h
  have hafter : SameBut [] p₁ q := ((touches_freshClaims _ _ _ _ _).sameBut_run hc).trans
    ((touches_sign _ _).sameBut_run haccess)
  obtain ⟨hmade, htype⟩ := madeAt_of_freshClaims hc
  have hmade := (hmade.sameBut hafter (by decide)).withScope granted
  have hrest := hafter.mono (List.nil_subset [.refreshGrants])
  rw [hr] at htoken ⊢
  obtain rfl : token = r.accessToken := by
    simpa [TokenResponse.signedTokens, TokenResponse.bearer] using htoken
  exact ⟨k, _, mints_of_currentKey (.refl _ p) hk hrest hmade htype (sign_eq_ok haccess), rfl⟩

/-- The steps in which an anonymous user's token is issued. The caller's token is verified first,
which may already read the keys. -/
theorem steps_of_issueAnonymous {callerToken : String}
    (h : (issueAnonymous tenantId clientId callerToken).run p = (.ok r, q)) :
    ∃ client caller subject k c p₁ p₂ p₃ p₄ p₅,
      p.store.enabledClient? tenantId clientId = some client ∧
      (anonymousCaller tenantId callerToken).run p = (.ok caller, p₁) ∧
      currentKey.run p₁ = (.ok k, p₂) ∧ SameBut [] p₂ p₃ ∧
      (freshClaims subject tenantId clientId .anonymousUser
        p.config.tokens.defaultTokenTtl).run p₃ = (.ok c, p₄) ∧
      (sign k c).run p₄ = (.ok r.accessToken, p₅) ∧ SameBut [] p₅ q ∧
      r = .bearer r.accessToken p.config.tokens.defaultTokenTtl none := by
  rw [issueAnonymous] at h
  obtain ⟨tenant, _, h₁, h⟩ := bind_eq_ok.mp h
  obtain ⟨-, rfl⟩ := activeTenant_eq_ok.mp h₁
  rw [run_guard] at h
  split at h
  · cases (Prod.mk.inj h).1
  obtain ⟨caller, p₁, hcaller, h⟩ := bind_eq_ok.mp h
  have hverified := (touches_anonymousCaller _ _).sameBut_run hcaller
  obtain ⟨client, _, h₂, h⟩ := bind_eq_ok.mp h
  obtain ⟨hclient, rfl⟩ := enabledClient_eq_ok.mp h₂
  rw [hverified.store_eq] at hclient
  obtain ⟨k, p₂, hk, h⟩ := bind_eq_ok.mp h
  rw [run_bind_of_ok (run_provider p₂),
    (hverified.trans (touches_currentKey.sameBut_run hk)).config] at h
  obtain ⟨subject, p₃, hsubject, h⟩ := bind_eq_ok.mp h
  obtain ⟨c, p₄, hc, h⟩ := bind_eq_ok.mp h
  obtain ⟨access, p₅, haccess, h⟩ := bind_eq_ok.mp h
  obtain ⟨_, p₆, hlog, h⟩ := bind_eq_ok.mp h
  obtain ⟨hr, rfl⟩ := Prod.mk.inj h
  obtain rfl := Except.ok.inj hr
  exact ⟨client, caller, subject, k, c, p₁, p₂, p₃, p₄, p₅, hclient, hcaller, hk,
    Touches.freshUuid.sameBut_run hsubject, hc, haccess, (Touches.emit _).sameBut_run hlog, rfl⟩

theorem mints_of_issueAnonymous {callerToken : String}
    (h : (issueAnonymous tenantId clientId callerToken).run p = (.ok r, q))
    (htoken : token ∈ r.signedTokens) :
    ∃ k c, p.Mints q tenantId .anonymousUser r.expiresIn token k c := by
  obtain ⟨client, caller, subject, k, c, p₁, p₂, p₃, p₄, p₅, -, hcaller, hk, hdrawn, hc, haccess,
    hlog, hr⟩ := steps_of_issueAnonymous h
  have hbefore : SameBut [.keys] p p₁ := (touches_anonymousCaller _ _).sameBut_run hcaller
  have hfresh : SameBut [] p₃ q := ((touches_freshClaims _ _ _ _ _).sameBut_run hc).trans <|
    ((touches_sign _ _).sameBut_run haccess).trans hlog
  obtain ⟨hmade, htype⟩ := madeAt_of_freshClaims hc
  have hmade := hmade.sameBut hfresh (by decide)
  have hrest := (hdrawn.trans hfresh).mono (List.nil_subset [.refreshGrants])
  rw [hr] at htoken ⊢
  obtain rfl : token = r.accessToken := by
    simpa [TokenResponse.signedTokens, TokenResponse.bearer] using htoken
  exact ⟨k, c, mints_of_currentKey hbefore hk hrest hmade htype (sign_eq_ok haccess)⟩

/-- The steps in which an end user's tokens are issued. -/
theorem steps_of_issueEndUser {userId scope : String} {refreshCount : Nat}
    (h : (issueEndUser tenantId clientId userId scope refreshCount).run p = (.ok r, q)) :
    ∃ client user k c p₁ p₂ p₃ p₄, p.store.enabledClient? tenantId clientId = some client ∧
      p.store.enabledUser? tenantId userId = some user ∧ currentKey.run p = (.ok k, p₁) ∧
      (freshClaims user.userId tenantId clientId .endUser r.expiresIn).run p₁ = (.ok c, p₂) ∧
      (sign k ((c.withUser user).withScope scope)).run p₂ = (.ok r.accessToken, p₃) ∧
      (idToken k ((c.withUser user).withScope scope)).run p₃ = (.ok r.idToken, p₄) ∧
      (refreshToken client tenantId user.userId scope refreshCount).run p₄
        = (.ok r.refreshToken, q) ∧
      r.expiresIn = client.endUserTokenTtlSeconds.getD p.config.tokens.defaultTokenTtl ∧
      r.scope = ((c.withUser user).withScope scope).scope := by
  rw [issueEndUser] at h
  obtain ⟨tenant, _, h₁, h⟩ := bind_eq_ok.mp h
  obtain ⟨-, rfl⟩ := activeTenant_eq_ok.mp h₁
  obtain ⟨client, _, h₂, h⟩ := bind_eq_ok.mp h
  obtain ⟨hclient, rfl⟩ := enabledClient_eq_ok.mp h₂
  rw [run_bind_of_ok (run_provider _)] at h
  obtain ⟨user, _, h₃, h⟩ := bind_eq_ok.mp h
  obtain ⟨huser, rfl⟩ := orRefuse_eq_ok.mp h₃
  obtain ⟨k, p₁, hk, h⟩ := bind_eq_ok.mp h
  rw [run_bind_of_ok (run_provider p₁), (touches_currentKey.sameBut_run hk).config] at h
  obtain ⟨c, p₂, hc, h⟩ := bind_eq_ok.mp h
  obtain ⟨access, p₃, haccess, h⟩ := bind_eq_ok.mp h
  obtain ⟨id, p₄, hid, h⟩ := bind_eq_ok.mp h
  obtain ⟨refresh, p₅, hrefresh, h⟩ := bind_eq_ok.mp h
  obtain ⟨hr, rfl⟩ := Prod.mk.inj h
  obtain rfl := Except.ok.inj hr
  exact ⟨client, user, k, c, p₁, p₂, p₃, p₄, hclient, huser, hk, hc, haccess, hid, hrefresh, rfl,
    rfl⟩

theorem mints_of_issueEndUser {userId scope : String} {refreshCount : Nat}
    (h : (issueEndUser tenantId clientId userId scope refreshCount).run p = (.ok r, q))
    (htoken : token ∈ r.signedTokens) :
    ∃ k c, p.Mints q tenantId .endUser r.expiresIn token k c := by
  obtain ⟨client, user, k, c, p₁, p₂, p₃, p₄, -, -, hk, hc, haccess, hid, hrefresh, -⟩ :=
    steps_of_issueEndUser h
  have hsigned : SameBut [] p₁ p₄ := ((touches_freshClaims _ _ _ _ _).sameBut_run hc).trans <|
    ((touches_sign _ _).sameBut_run haccess).trans ((touches_idToken _ _).sameBut_run hid)
  have hrest : SameBut [.refreshGrants] p₁ q := (hsigned.mono (List.nil_subset _)).trans
    ((touches_refreshToken _ _ _ _ _).sameBut_run hrefresh)
  obtain ⟨hmade, htype⟩ := madeAt_of_freshClaims hc
  have hmade := ((hmade.sameBut hrest (by decide)).withUser user).withScope scope
  rcases List.mem_cons.mp htoken with rfl | hmem
  · exact ⟨k, _, mints_of_currentKey (.refl _ p) hk hrest hmade htype (sign_eq_ok haccess)⟩
  · obtain ⟨jti, hsign⟩ := (idToken_eq_ok hid).2 token (Option.mem_toList.mp hmem)
    exact ⟨k, _, mints_of_currentKey (.refl _ p) hk hrest (hmade.withJti jti) htype hsign⟩

/-- Tokens for a code are those of its user. -/
theorem issueEndUser_of_grantForCode {client : Client} {request : TokenRequest}
    (h : (grantForCode tenantId client request).run p = (.ok r, q)) :
    ∃ userId scope s, SameBut [.codes] p s ∧
      (issueEndUser tenantId client.clientId userId scope 0).run s = (.ok r, q) := by
  rw [grantForCode] at h
  obtain ⟨code, p₁, h₁, h⟩ := bind_eq_ok.mp h
  obtain ⟨redirectUri, p₂, h₂, h⟩ := bind_eq_ok.mp h
  obtain ⟨c, p₃, h₃, h⟩ := bind_eq_ok.mp h
  exact ⟨c.userId, c.scope, p₃, ((Touches.orRefuse _ _).sameBut_run h₁).trans <|
    ((Touches.orRefuse _ _).sameBut_run h₂).trans ((touches_redeem _ _ _ _ _).sameBut_run h₃), h⟩

theorem mints_of_grantForCode {client : Client} {request : TokenRequest}
    (h : (grantForCode tenantId client request).run p = (.ok r, q))
    (htoken : token ∈ r.signedTokens) :
    ∃ k c, p.Mints q tenantId .endUser r.expiresIn token k c := by
  obtain ⟨userId, scope, s, hbefore, hissue⟩ := issueEndUser_of_grantForCode h
  obtain ⟨k, d, hmints⟩ := mints_of_issueEndUser hissue htoken
  exact ⟨k, d, hmints.within (hbefore.mono (by decide)) (.refl _ q)⟩

theorem fails_restoreGrant (g : RefreshGrant) (e : Fault) : (restoreGrant g e).Fails := by
  cases e with
  | refused e =>
    rw [restoreGrant]
    split
    · exact .bind fun _ => fails_refuse e
    · exact fails_refuse e
  | outOfRange => exact fails_throw _

/-- Tokens for a refresh token are those of the user of its grant. -/
theorem issueEndUser_of_grantForRefresh {client : Client} {request : TokenRequest}
    (h : (grantForRefresh tenantId client request).run p = (.ok r, q)) :
    ∃ userId scope refreshCount s, SameBut [.refreshGrants] p s ∧
      (issueEndUser tenantId client.clientId userId scope refreshCount).run s = (.ok r, q) := by
  rw [grantForRefresh] at h
  obtain ⟨text, p₁, h₁, h⟩ := bind_eq_ok.mp h
  obtain ⟨s, p₂, h₂, h⟩ := bind_eq_ok.mp h
  obtain ⟨g, p₃, h₃, h⟩ := bind_eq_ok.mp h
  obtain ⟨scope, p₄, h₄, h⟩ := bind_eq_ok.mp h
  obtain ⟨_, p₅, h₅, h⟩ := bind_eq_ok.mp h
  have hbefore : SameBut [.refreshGrants] p p₅ := ((Touches.orRefuse _ _).sameBut_run h₁).trans <|
    (Touches.provider.sameBut_run h₂).trans <| ((Touches.orRefuse _ _).sameBut_run h₃).trans <|
      ((Touches.ofExcept _).sameBut_run h₄).trans
        ((Touches.takeRecord keptIn_refreshGrants _).sameBut_run h₅)
  -- A failure that puts the grant back gives no tokens.
  exact ⟨g.userId, scope, g.refreshCount + 1, p₅, hbefore,
    eq_ok_of_tryCatch (fails_restoreGrant g) h⟩

theorem mints_of_grantForRefresh {client : Client} {request : TokenRequest}
    (h : (grantForRefresh tenantId client request).run p = (.ok r, q))
    (htoken : token ∈ r.signedTokens) :
    ∃ k c, p.Mints q tenantId .endUser r.expiresIn token k c := by
  obtain ⟨userId, scope, refreshCount, s, hbefore, hissue⟩ := issueEndUser_of_grantForRefresh h
  obtain ⟨k, d, hmints⟩ := mints_of_issueEndUser hissue htoken
  exact ⟨k, d, hmints.within (hbefore.mono (by decide)) (.refl _ q)⟩

/-- A token request is answered as its kind of grant is, and then logged. -/
theorem grant_eq_ok {client : Client} {request : TokenRequest}
    (h : (grant tenantId client request).run p = (.ok r, q)) :
    ∃ g s, GrantType.ofName? request.grantType = some g ∧
      (grantFor g tenantId client request).run p = (.ok r, s) ∧ SameBut [] s q := by
  rw [grant] at h
  obtain ⟨g, p₁, h₁, h⟩ := bind_eq_ok.mp h
  obtain ⟨r', p₂, h₂, h⟩ := bind_eq_ok.mp h
  obtain ⟨_, p₃, h₃, hlast⟩ := bind_eq_ok.mp h
  obtain ⟨hg, rfl⟩ := orRefuse_eq_ok.mp h₁
  obtain ⟨hresponse, rfl⟩ := Prod.mk.inj hlast
  obtain rfl := Except.ok.inj hresponse
  refine ⟨g, p₂, hg, eq_ok_of_tryCatch (fun e => ?_) h₂, (Touches.emit _).sameBut_run h₃⟩
  cases e with
  | refused e => exact .bind fun _ => fails_refuse e
  | outOfRange => exact fails_throw _

theorem mints_of_grant {client : Client} {request : TokenRequest}
    (h : (grant tenantId client request).run p = (.ok r, q)) (htoken : token ∈ r.signedTokens) :
    ∃ type k c, p.Mints q tenantId type r.expiresIn token k c := by
  obtain ⟨g, s, -, hgrant, hlog⟩ := grant_eq_ok h
  have hafter := hlog.mono (List.nil_subset [.codes, .refreshGrants, .keys])
  cases g with
  | authorizationCode =>
    obtain ⟨k, c, hmints⟩ := mints_of_grantForCode hgrant htoken
    exact ⟨_, k, c, hmints.within (.refl _ p) hafter⟩
  | refreshToken =>
    obtain ⟨k, c, hmints⟩ := mints_of_grantForRefresh hgrant htoken
    exact ⟨_, k, c, hmints.within (.refl _ p) hafter⟩
  | clientCredentials =>
    obtain ⟨k, c, hmints, -⟩ := mints_of_issueService hgrant htoken
    exact ⟨_, k, c, hmints.within (.refl _ p) hafter⟩

end Op

section

variable {p : Provider} {a : Action} {r : TokenResponse} {tenantId token : String}

/-- Every signed token of a response was signed in the step. -/
theorem mints_of_answers (h : Answers p tenantId r a) (htoken : token ∈ r.signedTokens) :
    ∃ type k c, p.Mints (p.step a) tenantId type r.expiresIn token k c := by
  cases h with
  | endUser h => exact ⟨_, mints_of_issueEndUser (Prod.ext h rfl) htoken⟩
  | service h =>
    obtain ⟨k, c, hmints, -⟩ := mints_of_issueService (Prod.ext h rfl) htoken
    exact ⟨_, k, c, hmints⟩
  | anonymous h => exact ⟨_, mints_of_issueAnonymous (Prod.ext h rfl) htoken⟩
  | grant h => exact mints_of_grant (Prod.ext h rfl) htoken

theorem signs_of_answers (hp : p.UsesStored []) (h : Answers p tenantId r a)
    (htoken : token ∈ r.signedTokens) :
    ∃ k c, p.Signs (p.step a) tenantId r.expiresIn token k c := by
  obtain ⟨_, k, c, hmints⟩ := mints_of_answers h htoken
  exact ⟨k, c, hmints.signs hp⟩

end

/-- The key that signed a token stays in use. -/
theorem Provider.Signs.exec {p q : Provider} {tenantId token : String} {ttl : Int}
    {as : List Action} (h : p.Signs q tenantId ttl token k c)
    (has : ∀ a ∈ as, a.RevokesNoKey) (hclock : q.ClockForward as) :
    p.Signs (q.exec as) tenantId ttl token k c := by
  obtain ⟨key, hkey, hrest⟩ := h.stored
  exact ⟨h.signed, h.made, key, hkey.exec has hclock, hrest⟩

/-- A token is accepted right after its issue, if the keys are usable and stay published when
they have expired. -/
theorem Provider.Signs.verifyToken_eq_ok {p q : Provider} {tenantId token : String} {ttl : Int}
    (h : p.Signs q tenantId ttl token k c) (hconfig : q.config = p.config) (hnow : q.now = p.now)
    (husable : AllUsable q.rootKeys q.grace) {seconds : Int}
    (hgrace : Span.ofSeconds? seconds = some q.grace) (hseconds : 0 ≤ seconds)
    (hexp : 0 ≤ c.expiresAt) (hlater : q.now.second < c.expiresAt) :
    ((verifyToken tenantId token).run q).1 = .ok c := by
  obtain ⟨t, ht, rfl⟩ := Option.map_eq_some_iff.mp h.signed
  obtain ⟨key, hkey, hactive, hlive, hread⟩ := h.stored
  obtain ⟨l, r, hl⟩ := exists_loadedKeys husable
  have hsame := touches_loadedKeys.sameBut_run hl
  obtain ⟨u, hu⟩ := Option.isSome_iff_exists.mp
    (husable key (hkey.stored List.mem_cons_self) hactive).expiry
  have hpublished : q.now < u :=
    Instant.lt_of_lt_of_le (hnow ▸ hlive) (Instant.le_of_add? hseconds hgrace hu)
  obtain ⟨certificates, hfound, hverifies⟩ :=
    find?_of_usesStored hkey husable hactive hread hl hu hpublished
  refine verifyToken_of_found ht h.made.inRange hl hfound hverifies ?_ h.made.tenantId_eq hexp ?_
  · rw [h.made.issuer_eq, hsame.config, hconfig]
  · rw [hsame.now (by decide)]
    exact hlater

/-! ## Tokens are issued -/

namespace Op

variable {p q : Provider} {tenantId : String}

theorem run_activeTenant {e : ProtocolError} {tenant : Tenant}
    (h : p.store.activeTenant? tenantId = some tenant) :
    (activeTenant tenantId e).run p = (.ok tenant, p) := by
  rw [activeTenant, run_bind, run_provider]
  dsimp only
  rw [run_orRefuse, h]

theorem run_enabledClient {clientId : String} {e : ProtocolError} {client : Client}
    (h : p.store.enabledClient? tenantId clientId = some client) :
    (enabledClient tenantId clientId e).run p = (.ok client, p) := by
  rw [enabledClient, run_bind, run_provider]
  dsimp only
  rw [run_orRefuse, h]

theorem exists_run_freshClaims (subject clientId : String) (type : TokenType) {ttl : Int}
    {expiresAt : Instant} (h : (Span.ofSeconds? ttl).bind p.now.add? = some expiresAt) :
    ∃ c s, (freshClaims subject tenantId clientId type ttl).run p = (.ok c, s) := by
  rw [freshClaims, run_bind, expiry, run_bind, run_provider]
  dsimp only
  rw [run_orRefuse, h]
  exact ⟨_, _, rfl⟩

theorem exists_run_sign (h : Rsa.signatureSize k.privateKey.modulus = true) (c : TokenClaims)
    (p : Provider) : ∃ token, (sign k c).run p = (.ok token, p) := by
  rw [sign, TokenKey.sign?, Jws.create?, Rsa.sign?, if_pos h]
  exact ⟨_, rfl⟩

end Op

/-- A service account that has nothing to ask for gets a token with the scopes granted to it, if
there is a key to sign it with. -/
theorem exists_answers_service {p q : Provider} {tenantId clientId : String} {tenant : Tenant}
    {client : Client} {expiresAt : Instant}
    (htenant : p.store.activeTenant? tenantId = some tenant)
    (hclient : p.store.enabledClient? tenantId clientId = some client)
    (hservice : client.isServiceAccount = true) (hk : currentKey.run p = (.ok k, q))
    (hexpiry : (Span.ofSeconds? p.config.tokens.defaultTokenTtl).bind p.now.add? = some expiresAt)
    (hsize : Rsa.signatureSize k.privateKey.modulus = true) :
    ∃ r, ((issueService tenantId clientId none).run p).1 = .ok r ∧
      r.expiresIn = p.config.tokens.defaultTokenTtl ∧
      r.scope = (if Text.unwords (p.store.grantedScopes client) = "" then none
        else some (Text.unwords (p.store.grantedScopes client))) := by
  have hsame := touches_currentKey.sameBut_run hk
  have hexpiry : (Span.ofSeconds? q.config.tokens.defaultTokenTtl).bind q.now.add?
      = some expiresAt := by
    rw [hsame.config, hsame.now (by decide)]
    exact hexpiry
  obtain ⟨c, s, hc⟩ := exists_run_freshClaims clientId clientId .serviceAccount hexpiry
  obtain ⟨token, htoken⟩ := exists_run_sign hsize
    (c.withScope (Text.unwords (p.store.grantedScopes client))) s
  have hrun : ((issueService tenantId clientId none).run p).1
      = .ok (.bearer token q.config.tokens.defaultTokenTtl
          (c.withScope (Text.unwords (p.store.grantedScopes client))).scope) := by
    rw [issueService, run_bind, run_activeTenant htenant]
    dsimp only
    rw [run_bind, run_enabledClient hclient]
    dsimp only
    rw [run_guard, if_neg (by simp [hservice]), run_bind, run_provider]
    dsimp only
    rw [run_bind, run_ofExcept]
    simp only [serviceScope, Option.map_none, Option.filter_none, Except.mapError]
    rw [run_bind, hk]
    dsimp only
    rw [run_bind, run_provider]
    dsimp only
    rw [run_bind, hc]
    dsimp only
    rw [run_bind, htoken]
    rfl
  exact ⟨_, hrun, congrArg (fun x : Config => x.tokens.defaultTokenTtl) hsame.config, rfl⟩

end OpenIdProvider
