import OpenIdProvider.Proofs.Refresh

/-!
# Issuance of tokens

The issue of tokens is all or nothing (`issuance_all_or_nothing`): either it is refused, for
one of the reasons of `Provider.Declines`, and the store is what it was, or tokens are issued
to whom the provider permits it (`Provider.Permits`), and the store has one refresh grant more
or is what it was (`Provider.Grants`).

`Op.Ends` says how an operation ends that leaves the store alone when it fails. It is closed
under sequencing, so each part of an issue has one lemma, and the three issues are composed of
them (`Op.ends_issue`). The key that signs is a key of the store that has not expired
(`Op.key_of_currentKey`).

Whatever action brings tokens, they are those of one issue (`Provider.exists_serves`).
-/

namespace OpenIdProvider

open Op Provider

variable {α β : Type} {p q : Provider}

/-! ## How operations end -/

namespace Op

/-- An operation that begins in `p` is refused, for a reason and with nothing changed but the
keys in use, or it gives a result. -/
def Ends (x : Op α) (p : Provider) (refusal : ProtocolError → Prop)
    (result : α → Provider → Prop) : Prop :=
  (∃ e q, x.run p = (.error (.refused e), q) ∧ SameBut [.keys] p q ∧ refusal e) ∨
    ∃ a q, x.run p = (.ok a, q) ∧ result a q

namespace Ends

variable {x : Op α} {f : α → Op β} {g : α → β} {E E' : ProtocolError → Prop}
  {R : α → Provider → Prop} {S : β → Provider → Prop}

theorem imp {R' : α → Provider → Prop} (hx : Ends x p E R) (hE : ∀ e, E e → E' e)
    (hR : ∀ a q, R a q → R' a q) : Ends x p E' R' := by
  rcases hx with ⟨e, q, hrun, hsame, he⟩ | ⟨a, q, hrun, ha⟩
  · exact .inl ⟨e, q, hrun, hsame, hE e he⟩
  · exact .inr ⟨a, q, hrun, hR a q ha⟩

/-- A result goes on with the rest of the sequence; up to there only the keys may change. -/
theorem bind (hx : Ends x p E R) (hE : ∀ e, E e → E' e)
    (hf : ∀ a q, R a q → SameBut [.keys] p q ∧ Ends (f a) q E' S) : Ends (x >>= f) p E' S := by
  rcases hx with ⟨e, q, hrun, hsame, he⟩ | ⟨a, q, hrun, ha⟩
  · exact .inl ⟨e, q, by rw [run_bind, hrun], hsame, hE e he⟩
  · obtain ⟨hsame, hrest⟩ := hf a q ha
    have hbind : (x >>= f).run p = (f a).run q := by rw [run_bind, hrun]
    rcases hrest with ⟨e, r, hrun', hsame', he⟩ | ⟨b, r, hrun', hb⟩
    · exact .inl ⟨e, r, hbind.trans hrun', hsame.trans hsame', he⟩
    · exact .inr ⟨b, r, hbind.trans hrun', hb⟩

/-- At the end of a sequence a result may have changed more. -/
theorem map (hx : Ends x p E R) (hE : ∀ e, E e → E' e) (hg : ∀ a q, R a q → S (g a) q) :
    Ends (x >>= fun a => pure (g a)) p E' S := by
  rcases hx with ⟨e, q, hrun, hsame, he⟩ | ⟨a, q, hrun, ha⟩
  · exact .inl ⟨e, q, by rw [run_bind, hrun], hsame, hE e he⟩
  · refine .inr ⟨g a, q, ?_, hg a q ha⟩
    rw [run_bind, hrun]
    rfl

theorem pure {a : α} (h : R a p) : Ends (Pure.pure a) p E R :=
  .inr ⟨a, p, rfl, h⟩

theorem refuse {e : ProtocolError} (h : E e) : Ends (Op.refuse e) p E R :=
  .inl ⟨e, p, rfl, .refl _ p, h⟩

theorem provider {f : Provider → Op α} (h : Ends (f p) p E R) : Ends (Op.provider >>= f) p E R :=
  h

theorem guard {c : Prop} [Decidable c] {e : ProtocolError} (he : c → E e)
    (hx : ¬c → Ends x p E R) :
    Ends (if c then (Op.refuse e : Op PUnit) >>= fun _ => x else x) p E R := by
  by_cases hc : c
  · rw [if_pos hc]
    exact .inl ⟨e, p, rfl, .refl _ p, he hc⟩
  · rw [if_neg hc]
    exact hx hc

theorem orRefuse (a : Option α) (e : ProtocolError) (p : Provider) :
    Ends (Op.orRefuse a e) p (fun e' => e' = e ∧ a = none) fun b q => a = some b ∧ p = q := by
  cases a with
  | none => exact .refuse ⟨rfl, rfl⟩
  | some b => exact .pure ⟨rfl, rfl⟩

theorem ofExcept (a : Except ProtocolError α) (p : Provider) :
    Ends (Op.ofExcept a) p (fun e => a = .error e) fun b q => a = .ok b ∧ p = q := by
  cases a with
  | error e => exact .refuse rfl
  | ok b => exact .pure ⟨rfl, rfl⟩

/-- A refusal may be turned into another one. -/
theorem tryCatch {h : Fault → Op α} (hx : Ends x p E R)
    (hh : ∀ e, E e → ∃ e', h (.refused e) = Op.refuse e' ∧ E' e') :
    Ends (MonadExcept.tryCatch x h) p E' R := by
  rcases hx with ⟨e, q, hrun, hsame, he⟩ | ⟨a, q, hrun, ha⟩
  · obtain ⟨e', hrefuses, he'⟩ := hh e he
    refine .inl ⟨e', q, ?_, hsame, he'⟩
    rw [run_tryCatch, hrun]
    dsimp only
    rw [hrefuses, run_refuse]
  · exact .inr ⟨a, q, by rw [run_tryCatch, hrun], ha⟩

/-- What an operation comes to is known by running it. -/
theorem run_eq (h : Ends x p E R) : Ends x p (fun e => (x.run p).1 = .error (.refused e))
    fun a q => x.run p = (.ok a, q) ∧ R a q := by
  rcases h with ⟨e, q, hrun, hsame, -⟩ | ⟨a, q, hrun, ha⟩
  · exact .inl ⟨e, q, hrun, hsame, by rw [hrun]⟩
  · exact .inr ⟨a, q, hrun, hrun, ha⟩

end Ends

/-! ## Parts of an issue -/

theorem ends_activeTenant (tenantId : String) (e : ProtocolError) (p : Provider) :
    Ends (activeTenant tenantId e) p (fun e' => e' = e ∧ p.store.activeTenant? tenantId = none)
      fun t q => p.store.activeTenant? tenantId = some t ∧ p = q :=
  .provider (.orRefuse _ e p)

theorem ends_enabledClient (tenantId clientId : String) (e : ProtocolError) (p : Provider) :
    Ends (enabledClient tenantId clientId e) p
      (fun e' => e' = e ∧ p.store.enabledClient? tenantId clientId = none)
      fun c q => p.store.enabledClient? tenantId clientId = some c ∧ p = q :=
  .provider (.orRefuse _ e p)

theorem ends_loadedKeys (p : Provider) :
    Ends loadedKeys p (fun _ => True) fun _ q => SameBut [.keys] p q := by
  have hsame := touches_loadedKeys p
  rw [run_loadedKeys] at hsame
  rw [Ends, run_loadedKeys]
  cases hfresh : p.keys.filter fun l => l.isFresh p.now p.config.keyCacheTtl with
  | some l => exact .inr ⟨l, p, rfl, .refl _ p⟩
  | none =>
    rw [hfresh] at hsame
    dsimp only at hsame ⊢
    cases hload : p.loadKeys with
    | error e => exact .inl ⟨e, p, rfl, .refl _ p, trivial⟩
    | ok l =>
      rw [hload] at hsame
      exact .inr ⟨l, _, rfl, hsame⟩

theorem ends_currentKey (p : Provider) :
    Ends currentKey p (fun _ => True) fun _ q => SameBut [.keys] p q :=
  .bind (ends_loadedKeys p) (fun _ _ => trivial) fun _ q hsame =>
    ⟨hsame, .imp (.provider (.orRefuse _ _ q)) (fun _ _ => trivial) fun _ _ h => h.2 ▸ hsame⟩

theorem ends_publishedKeys (p : Provider) :
    Ends publishedKeys p (fun _ => True) fun _ q => SameBut [.keys] p q :=
  .map (ends_loadedKeys p) (fun _ _ => trivial) fun _ _ hsame => hsame

theorem ends_verifyToken (tenantId token : String) (p : Provider) :
    Ends (verifyToken tenantId token) p (fun _ => True) fun _ q => SameBut [.keys] p q := by
  rcases run_readToken token p with ⟨keyId, t, ht, hheader, hread⟩ | ⟨reason, hread⟩
  · rcases ends_publishedKeys p with ⟨e, q, hs, hsame, -⟩ | ⟨s, q, hs, hsame⟩
    · refine .inl ⟨e, q, ?_, hsame, trivial⟩
      rw [verifyToken, run_bind, hread]
      dsimp only
      rw [run_bind, hs]
    · rcases run_verifyToken tenantId hread hs with ⟨c, -, hrun⟩ | ⟨-, reason, hrun⟩
      · exact .inr ⟨c, q, hrun, hsame⟩
      · exact .inl ⟨_, q, hrun, hsame, trivial⟩
  · refine .inl ⟨.invalidToken reason, p, ?_, .refl _ p, trivial⟩
    rw [verifyToken, run_bind, hread]

theorem ends_anonymousCaller (tenantId token : String) (p : Provider) :
    Ends (anonymousCaller tenantId token) p (fun _ => True) fun _ q => SameBut [.keys] p q := by
  refine .bind (E := fun _ => True) (.tryCatch (ends_verifyToken tenantId token p)
    fun _ _ => ⟨_, rfl, trivial⟩) (fun _ _ => trivial) fun c q hsame => ⟨hsame, ?_⟩
  split
  · exact .pure hsame
  · exact .refuse trivial

theorem ends_freshUuid (p : Provider) :
    Ends freshUuid p (fun _ => False) fun _ q => SameBut [.keys] p q :=
  .inr ⟨_, _, rfl, Touches.freshUuid p⟩

theorem ends_freshHandle (p : Provider) :
    Ends freshHandle p (fun _ => False) fun _ q => SameBut [.keys] p q :=
  .inr ⟨_, _, rfl, Touches.freshHandle p⟩

theorem ends_emit (event : AuditEvent) (p : Provider) :
    Ends (emit event) p (fun _ => False) fun _ q => SameBut [.keys] p q :=
  .inr ⟨_, _, rfl, Touches.emit event p⟩

theorem ends_createGrant (g : RefreshGrant) (p : Provider) :
    Ends (createRecord g) p
      (fun e => p.store.refreshGrants.find? p.now g.refreshToken ≠ none ∧
        e = .storage (.duplicate (Expiring.kind RefreshGrant) g.refreshToken))
      fun _ q => p.store.refreshGrants.find? p.now g.refreshToken = none ∧
        q.store = { p.store with refreshGrants := p.store.refreshGrants.put g } := by
  rw [Ends, run_createGrant]
  cases hc : p.store.refreshGrants.create p.now g with
  | error e =>
    obtain ⟨hheld, rfl⟩ := Records.create_eq_error.mp hc
    exact .inl ⟨_, p, rfl, .refl _ p, hheld, rfl⟩
  | ok t =>
    obtain ⟨hfree, rfl⟩ := Records.create_eq_ok.mp hc
    exact .inr ⟨(), _, rfl, hfree, rfl⟩

end Op

/-- The instant some seconds from now, if it is in range. -/
def Provider.after? (p : Provider) (seconds : Int) : Option Instant :=
  (Span.ofSeconds? seconds).bind p.now.add?

-- The greatest number of 64 bits leads out of range from every instant.
example (p : Provider) : p.after? (2 ^ 63 - 1) = none := rfl

/-- The refusal of a lifetime that leads out of range. -/
def ProtocolError.lifetimeOutOfRange (ttl : Int) : ProtocolError :=
  .serverError ("token lifetime " ++ Decimal.ofInt ttl ++ "s is out of range")

/-- The refusal of claims that cannot be signed. -/
def ProtocolError.cannotSign : ProtocolError :=
  .tokenSigning "the key cannot sign"

/-- Whether the header of a token names a key, for RS256. -/
def TokenKey.IsNamedBy (k : TokenKey) (token : String) : Prop :=
  ∃ t, Jws.ofText? token = some t ∧ t.readHeader = .ok ⟨.rs256, some k.keyId⟩

theorem TokenKey.isNamedBy_of_sign? {k : TokenKey} {c : TokenClaims} {t : Jws}
    (h : k.sign? c = some t) : k.IsNamedBy t.text :=
  ⟨t, Jws.ofText?_of_create? h, Jws.readHeader_of_sign? h⟩

/-- A key cannot sign: its modulus has fewer than 2048 bits, or more than 8192. -/
def TokenKey.OutOfSize (k : TokenKey) : Prop :=
  Rsa.bitLength k.privateKey.modulus < 2048 ∨ 8192 < Rsa.bitLength k.privateKey.modulus

theorem TokenKey.outOfSize_of_sign? {k : TokenKey} {c : TokenClaims} (h : k.sign? c = none) :
    k.OutOfSize := by
  by_contra hfits
  have hsize : Rsa.signatureSize k.privateKey.modulus = true := by
    simp only [OutOfSize, not_or, Nat.not_lt] at hfits
    simpa [Rsa.signatureSize] using hfits
  rw [sign?, Jws.create?] at h
  simp [Rsa.sign?, hsize] at h

theorem Provider.after?_sameBut {ps : List Part} (h : SameBut ps p q) (hclock : .clock ∉ ps)
    (seconds : Int) : q.after? seconds = p.after? seconds := by
  rw [after?, after?, h.now hclock]

namespace Op

theorem ends_expiry (ttl : Int) (p : Provider) :
    Ends (expiry ttl) p (fun e => e = .lifetimeOutOfRange ttl ∧ p.after? ttl = none)
      fun t q => p.after? ttl = some t ∧ p = q :=
  .provider (.orRefuse _ _ p)

theorem ends_sign (k : TokenKey) (c : TokenClaims) (p : Provider) :
    Ends (sign k c) p (fun e => e = .cannotSign ∧ k.OutOfSize)
      fun token q => k.IsNamedBy token ∧ p = q :=
  .map (.orRefuse _ _ p) (fun _ h => ⟨h.1, TokenKey.outOfSize_of_sign? h.2⟩)
    fun _ _ h => ⟨TokenKey.isNamedBy_of_sign? h.1, h.2⟩

theorem ends_freshClaims (subject tenantId clientId : String) (type : TokenType) (ttl : Int)
    (p : Provider) :
    Ends (freshClaims subject tenantId clientId type ttl) p
      (fun e => e = .lifetimeOutOfRange ttl ∧ p.after? ttl = none)
      fun _ q => p.after? ttl ≠ none ∧ SameBut [.keys] p q := by
  refine .bind (ends_expiry ttl p) (fun _ h => h) fun t q ht => ?_
  obtain ⟨ht, rfl⟩ := ht
  refine ⟨.refl _ _, .bind (ends_freshUuid _) (fun _ h => h.elim) fun jti r hsame => ?_⟩
  refine ⟨hsame, .provider (.pure ⟨?_, hsame⟩)⟩
  rw [ht]
  nofun

theorem ends_idToken (k : TokenKey) (c : TokenClaims) (p : Provider) :
    Ends (idToken k c) p (fun e => e = .cannotSign ∧ k.OutOfSize)
      fun token q => (∀ s ∈ token, k.IsNamedBy s) ∧ SameBut [.keys] p q := by
  rw [idToken]
  split
  · refine .bind (ends_freshUuid p) (fun _ h => h.elim) fun jti q hsame => ?_
    refine ⟨hsame, .map (ends_sign k _ q) (fun _ h => h) ?_⟩
    rintro token r ⟨hnamed, rfl⟩
    exact ⟨fun s hs => Option.some.inj hs ▸ hnamed, hsame⟩
  · exact .pure ⟨fun _ h => absurd h (Option.not_mem_none _), .refl _ p⟩

end Op

/-! ## Who is permitted tokens -/

/-- A call that issues tokens. -/
inductive IssueCall where
  | endUser (tenantId clientId userId scope : String) (refreshCount : Nat)
  | service (tenantId clientId : String) (scope : Option String)
  | anonymous (tenantId clientId callerToken : String)

namespace IssueCall

/-- What a call runs. -/
def op : IssueCall → Op TokenResponse
  | endUser tenantId clientId userId scope refreshCount =>
    issueEndUser tenantId clientId userId scope refreshCount
  | service tenantId clientId scope => issueService tenantId clientId scope
  | anonymous tenantId clientId callerToken => issueAnonymous tenantId clientId callerToken

/-- The tenant in which tokens are asked for. -/
def tenantId : IssueCall → String
  | endUser tenantId .. | service tenantId .. | anonymous tenantId .. => tenantId

/-- The client for which tokens are asked for. -/
def clientId : IssueCall → String
  | endUser _ clientId .. | service _ clientId .. | anonymous _ clientId .. => clientId

/-- For how many seconds an access token lives. -/
def lifetime (p : Provider) (client : Client) : IssueCall → Int
  | endUser .. => client.endUserTokenTtlSeconds.getD p.config.tokens.defaultTokenTtl
  | service .. | anonymous .. => p.config.tokens.defaultTokenTtl

/-- For how many seconds a refresh token lives, if there is one: only an end user gets it, and
only while the client may refresh once more. -/
def refreshLifetime? (p : Provider) (client : Client) : IssueCall → Option Int
  | endUser _ _ _ _ refreshCount =>
    if refreshCount < client.maxRefreshTokenCount then
      some (client.refreshTokenTtlSeconds.getD p.config.tokens.defaultRefreshTokenTtl)
    else none
  | service .. | anonymous .. => none

/-- Whether a refresh grant is the one that a call asks for. -/
def AsksFor (g : RefreshGrant) : IssueCall → Prop
  | endUser tenantId clientId userId scope refreshCount => g.tenantId = tenantId ∧
    g.clientId = clientId ∧ g.userId = userId ∧ g.scope = scope ∧ g.refreshCount = refreshCount
  | service .. | anonymous .. => False

/-- Whether the subject of a call may have tokens: a user has to be enabled, a client that acts
for itself has to be a service account with the scopes that it asks for, and an anonymous user
is created for a service account that may do so, where the tenant allows it. -/
def Admits (p : Provider) (client : Client) : IssueCall → Prop
  | endUser tenantId _ userId _ _ =>
    ∃ user, p.store.user? tenantId userId = some user ∧ user.enabled = true
  | service _ _ scope => client.isServiceAccount = true ∧
    ∃ granted, serviceScope (p.store.grantedScopes client) scope = .ok granted
  | anonymous tenantId _ callerToken =>
    (∃ tenant, p.store.tenant? tenantId = some tenant ∧ tenant.allowAnonymousUsers = true) ∧
      ∃ caller, ((anonymousCaller tenantId callerToken).run p).1 = .ok caller

end IssueCall

namespace Provider

/-- Tokens are permitted to a client in a tenant, and there is a key to sign them with. -/
structure Permits (p : Provider) (call : IssueCall) (client : Client) (k : TokenKey) : Prop where
  tenant : ∃ tenant, p.store.tenant? call.tenantId = some tenant ∧ tenant.isActive = true
  stored : p.store.client? call.clientId = some client
  bound : client.tenantId = call.tenantId
  enabled : client.enabled = true
  admits : call.Admits p client
  key : (currentKey.run p).1 = .ok k

/-- Why no tokens are issued. -/
inductive Declines (p : Provider) (call : IssueCall) : ProtocolError → Prop where
  /-- They are not permitted, or there is no key. -/
  | notPermitted {e : ProtocolError} (h : ∀ client k, ¬p.Permits call client k) : Declines p call e
  /-- The expiry of the access token is out of range. -/
  | lifetime {client : Client} {k : TokenKey} (h : p.Permits call client k)
      (hrange : p.after? (call.lifetime p client) = none) :
      Declines p call (.lifetimeOutOfRange (call.lifetime p client))
  /-- The key is too short to sign, or too long. -/
  | signing {client : Client} {k : TokenKey} (h : p.Permits call client k)
      (hrange : p.after? (call.lifetime p client) ≠ none) (hsize : k.OutOfSize) :
      Declines p call .cannotSign
  /-- The expiry of the refresh token is out of range. -/
  | refreshLifetime {client : Client} {k : TokenKey} {ttl : Int} (h : p.Permits call client k)
      (hrange : p.after? (call.lifetime p client) ≠ none)
      (hrefresh : call.refreshLifetime? p client = some ttl) (hnone : p.after? ttl = none) :
      Declines p call (.lifetimeOutOfRange ttl)
  /-- The handle of the refresh token is that of another one. -/
  | handle {client : Client} {k : TokenKey} {ttl : Int} {handle : String}
      (h : p.Permits call client k) (hrange : p.after? (call.lifetime p client) ≠ none)
      (hrefresh : call.refreshLifetime? p client = some ttl) (hsome : p.after? ttl ≠ none)
      (hheld : p.store.refreshGrants.find? p.now handle ≠ none) :
      Declines p call (.storage (.duplicate (Expiring.kind RefreshGrant) handle))

/-- What comes of the refresh token of a call: one grant is stored for it, if there is one, and
the store of `p` changes in nothing else to that of `q`. -/
def Grants (p : Provider) (call : IssueCall) (client : Client) (token : Option String)
    (q : Provider) : Prop :=
  match call.refreshLifetime? p client with
  | none => token = none ∧ q.store = p.store
  | some ttl => ∃ g, call.AsksFor g ∧ p.after? ttl = some g.expiresAt ∧
    p.store.refreshGrants.find? p.now g.refreshToken = none ∧ token = some g.refreshToken ∧
    q.store = { p.store with refreshGrants := p.store.refreshGrants.put g }

/-- Tokens are issued, and the store changes from that of `p` to that of `q`. -/
structure Issues (p : Provider) (call : IssueCall) (client : Client) (k : TokenKey)
    (response : TokenResponse) (q : Provider) : Prop where
  permits : p.Permits call client k
  inRange : p.after? (call.lifetime p client) ≠ none
  /-- The signed tokens name the key that signed them. -/
  signed : ∀ token ∈ response.signedTokens, k.IsNamedBy token
  grants : p.Grants call client response.refreshToken q

end Provider

/-! ## Keys that sign -/

namespace Op

/-- The key that signs has not expired, and it is a key of the store. -/
theorem key_of_currentKey {k : TokenKey} (h : (currentKey.run p).1 = .ok k) :
    p.now < k.expiresAt ∧ (p.KeysStored → ∃ key,
      p.store.signingKeys.get? k.keyId = some key ∧ key.expiresAt = k.expiresAt) := by
  obtain ⟨l, hl, hk⟩ := currentKey_eq_ok (Prod.ext h rfl)
  have hlater : p.now.before k.expiresAt = true := by simpa using List.find?_some hk
  refine ⟨hlater, fun hstored => ?_⟩
  have hreloads := (touches_loadedKeys.sameBut_run hl).reloads (by decide) (by decide)
  rw [keys_of_loadedKeys hl] at hreloads
  exact storedIn_of_reloads hstored hreloads k (List.mem_of_find?_eq_some hk)

/-- Keys that were just read are read again if they are not fresh, and are the same. -/
theorem run_loadedKeys_again {l : LoadedKeys} (h : loadedKeys.run p = (.ok l, q)) :
    ∃ r, loadedKeys.run q = (.ok l, r) := by
  have hsame := touches_loadedKeys.sameBut_run h
  rw [run_loadedKeys q, keys_of_loadedKeys h, Option.filter_some]
  by_cases hfresh : l.isFresh q.now q.config.keyCacheTtl = true
  · rw [if_pos hfresh]
    exact ⟨q, rfl⟩
  · rw [if_neg hfresh, hsame.loadKeys_eq (by decide) (by decide)]
    rw [hsame.now (by decide), hsame.config] at hfresh
    rw [run_loadedKeys] at h
    cases hkeys : p.keys.filter fun l => l.isFresh p.now p.config.keyCacheTtl with
    | some l' =>
      rw [hkeys] at h
      obtain rfl := Except.ok.inj (Prod.mk.inj h).1
      exact absurd (Option.filter_eq_some_iff.mp hkeys).2 hfresh
    | none =>
      rw [hkeys] at h
      cases hload : p.loadKeys with
      | error e =>
        rw [hload] at h
        cases (Prod.mk.inj h).1
      | ok l' =>
        rw [hload] at h
        obtain rfl := Except.ok.inj (Prod.mk.inj h).1
        exact ⟨_, rfl⟩

/-- The caller that may create anonymous users has a token for it that is accepted. -/
theorem anonymousCaller_eq_ok {tenantId token : String} {c : TokenClaims}
    (h : (anonymousCaller tenantId token).run p = (.ok c, q)) :
    (verifyToken tenantId token).run p = (.ok c, q) ∧ c.tokenType = .serviceAccount ∧
      c.hasScope Scope.createAnonymousUser = true := by
  obtain ⟨d, r, hverify, hrest⟩ := bind_eq_ok.mp h
  have hverified := eq_ok_of_tryCatch (fun e => by cases e <;> exact fails_throw _) hverify
  split at hrest
  · rename_i hpermitted
    obtain ⟨hd, rfl⟩ := Prod.mk.inj hrest
    obtain rfl := Except.ok.inj hd
    simp only [Bool.and_eq_true, decide_eq_true_eq] at hpermitted
    exact ⟨hverified, hpermitted⟩
  · cases (Prod.mk.inj hrest).1

/-- The verification of a token does not change which key signs. -/
theorem currentKey_of_anonymousCaller {tenantId token : String} {c : TokenClaims}
    (h : (anonymousCaller tenantId token).run p = (.ok c, q)) :
    (currentKey.run q).1 = (currentKey.run p).1 := by
  obtain ⟨s, t, hpublished, -⟩ := verifyToken_eq_ok.mp (anonymousCaller_eq_ok h).1
  obtain ⟨l, r, hl, hlast⟩ := bind_eq_ok.mp hpublished
  obtain rfl : r = q := (Prod.mk.inj hlast).2
  obtain ⟨r', hagain⟩ := run_loadedKeys_again hl
  rw [run_currentKey hl, run_currentKey hagain,
    (touches_loadedKeys.sameBut_run hl).now (by decide)]

end Op

/-! ## The three issues -/

section

variable {call : IssueCall} {client : Client} {k : TokenKey}

theorem Provider.Permits.activeTenant? (h : p.Permits call client k) :
    p.store.activeTenant? call.tenantId ≠ none := by
  obtain ⟨tenant, htenant, hactive⟩ := h.tenant
  rw [Store.activeTenant?, Option.filter_eq_some_iff.mpr ⟨htenant, hactive⟩]
  nofun

theorem Provider.Permits.enabledClient? (h : p.Permits call client k) :
    p.store.enabledClient? call.tenantId call.clientId = some client :=
  Option.filter_eq_some_iff.mpr ⟨h.stored, by simp [h.bound, h.enabled]⟩

/-- Tokens are permitted when every check is passed. -/
theorem Provider.permits_of_checks {tenant : Tenant}
    (htenant : p.store.activeTenant? call.tenantId = some tenant)
    (hclient : p.store.enabledClient? call.tenantId call.clientId = some client)
    (hadmits : call.Admits p client) (hkey : (currentKey.run p).1 = .ok k) :
    p.Permits call client k := by
  obtain ⟨hstored, hbound⟩ := Option.filter_eq_some_iff.mp hclient
  simp only [Bool.and_eq_true, beq_iff_eq] at hbound
  exact ⟨⟨tenant, Option.filter_eq_some_iff.mp htenant⟩, hstored, hbound.1, hbound.2, hadmits, hkey⟩

namespace Provider.Declines

variable {e : ProtocolError}

theorem of_tenant (h : p.store.activeTenant? call.tenantId = none) : p.Declines call e :=
  .notPermitted fun _ _ hp => hp.activeTenant? h

theorem of_client (h : p.store.enabledClient? call.tenantId call.clientId = none) :
    p.Declines call e := by
  refine .notPermitted fun _ _ hp => ?_
  rw [hp.enabledClient?] at h
  cases h

theorem of_admits (h : ∀ client, p.store.enabledClient? call.tenantId call.clientId = some client →
    ¬call.Admits p client) : p.Declines call e :=
  .notPermitted fun client _ hp => h client hp.enabledClient? hp.admits

theorem of_key {f : Fault} (h : (currentKey.run p).1 = .error f) : p.Declines call e := by
  refine .notPermitted fun _ _ hp => ?_
  rw [hp.key] at h
  cases h

end Provider.Declines

namespace Op

/-- The claims of an access token are made, and signed. -/
theorem Ends.signing (hpermits : p.Permits call client k) (hsame : SameBut [.keys] p q)
    {subject tenantId clientId : String} {type : TokenType} {ttl : Int}
    (httl : ttl = call.lifetime p client) {d : TokenClaims → TokenClaims}
    {rest : TokenClaims → String → Op β} {S : β → Provider → Prop}
    (hrest : ∀ c token r, SameBut [.keys] p r → p.after? (call.lifetime p client) ≠ none →
      k.IsNamedBy token → Ends (rest c token) r (p.Declines call) S) :
    Ends (freshClaims subject tenantId clientId type ttl >>= fun c =>
      sign k (d c) >>= fun token => rest c token) q (p.Declines call) S := by
  have hafter := Provider.after?_sameBut hsame (by decide) ttl
  refine .bind (ends_freshClaims subject tenantId clientId type ttl q) (fun e h => ?_)
    fun c r h => ?_
  · obtain ⟨rfl, hnone⟩ := h
    rw [hafter] at hnone
    subst httl
    exact .lifetime hpermits hnone
  · obtain ⟨hsome, hfresh⟩ := h
    rw [hafter, httl] at hsome
    refine ⟨hfresh, .bind (ends_sign k (d c) r) (fun e h => ?_) fun token s h => ?_⟩
    · obtain ⟨rfl, hsize⟩ := h
      exact .signing hpermits hsome hsize
    · obtain ⟨hnamed, rfl⟩ := h
      exact ⟨.refl _ _, hrest c token r (hsame.trans hfresh) hsome hnamed⟩

/-- The refresh token of an end user. -/
theorem ends_refreshToken {tenantId clientId userId scope : String} {refreshCount : Nat}
    (hpermits : p.Permits (.endUser tenantId clientId userId scope refreshCount) client k)
    (hrange : p.after? (IssueCall.lifetime p client
      (.endUser tenantId clientId userId scope refreshCount)) ≠ none)
    (hsame : SameBut [.keys] p q) :
    Ends (refreshToken client tenantId userId scope refreshCount) q
      (p.Declines (.endUser tenantId clientId userId scope refreshCount))
      (p.Grants (.endUser tenantId clientId userId scope refreshCount) client) := by
  have hclientId : client.clientId = clientId := Table.key_of_get? hpermits.stored
  rw [refreshToken]
  by_cases hlimit : refreshCount < client.maxRefreshTokenCount
  · have hlifetime : IssueCall.refreshLifetime? p client
        (.endUser tenantId clientId userId scope refreshCount)
        = some (client.refreshTokenTtlSeconds.getD p.config.tokens.defaultRefreshTokenTtl) :=
      if_pos hlimit
    rw [if_pos hlimit]
    refine .bind (ends_freshHandle q) (fun _ h => h.elim) fun handle r hdrawn => ?_
    have hsame := hsame.trans hdrawn
    refine ⟨hdrawn, .provider ?_⟩
    rw [hsame.config]
    refine .bind (ends_expiry _ r) (fun e h => ?_) fun expiresAt _ h => ?_
    · obtain ⟨rfl, hnone⟩ := h
      rw [Provider.after?_sameBut hsame (by decide)] at hnone
      exact .refreshLifetime hpermits hrange hlifetime hnone
    obtain ⟨hexpiry, rfl⟩ := h
    rw [Provider.after?_sameBut hsame (by decide)] at hexpiry
    refine ⟨.refl _ r, .map (ends_createGrant _ r) (fun e h => ?_) fun _ s h => ?_⟩
    · obtain ⟨hheld, rfl⟩ := h
      rw [hsame.store_eq, hsame.now (by decide)] at hheld
      exact .handle hpermits hrange hlifetime (hexpiry ▸ Option.some_ne_none _) hheld
    · obtain ⟨hfree, hstore⟩ := h
      rw [hsame.store_eq, hsame.now (by decide)] at hfree
      rw [hsame.store_eq] at hstore
      rw [Provider.Grants, hlifetime]
      exact ⟨_, ⟨rfl, hclientId, rfl, rfl, rfl⟩, hexpiry, hfree, rfl, hstore⟩
  · have hlifetime : IssueCall.refreshLifetime? p client
        (.endUser tenantId clientId userId scope refreshCount) = none := if_neg hlimit
    rw [if_neg hlimit]
    refine .pure ?_
    rw [Provider.Grants, hlifetime]
    exact ⟨rfl, hsame.store_eq⟩

theorem ends_issueService (tenantId clientId : String) (scope : Option String) (p : Provider) :
    Ends (issueService tenantId clientId scope) p (p.Declines (.service tenantId clientId scope))
      fun response q => ∃ client k,
        p.Issues (.service tenantId clientId scope) client k response q := by
  refine .bind (ends_activeTenant tenantId _ p) (fun _ h => .of_tenant h.2) fun tenant _ h => ?_
  obtain ⟨htenant, rfl⟩ := h
  refine ⟨.refl _ p, .bind (ends_enabledClient tenantId clientId _ p) (fun _ h => .of_client h.2)
    fun client _ h => ?_⟩
  obtain ⟨hclient, rfl⟩ := h
  have honly {c : Client} (hc : p.store.enabledClient? tenantId clientId = some c) : c = client :=
    Option.some.inj (hc.symm.trans hclient)
  refine ⟨.refl _ p, .guard (fun h => .of_admits fun c hc hadmits => ?_) fun hservice => ?_⟩
  · obtain rfl := honly hc
    simp [hadmits.1] at h
  refine .provider (.bind (.ofExcept _ p) (fun _ h => .of_admits fun c hc hadmits => ?_)
    fun granted _ h => ?_)
  · obtain rfl := honly hc
    obtain ⟨-, granted, hgranted⟩ := hadmits
    rw [hgranted] at h
    cases h
  obtain ⟨hscope, rfl⟩ := h
  refine ⟨.refl _ p, .bind (ends_currentKey p).run_eq (fun _ h => .of_key h) fun k q h => ?_⟩
  obtain ⟨hkey, hsame⟩ := h
  have hpermits : p.Permits (.service tenantId clientId scope) client k :=
    Provider.permits_of_checks htenant hclient ⟨by simpa using hservice, granted, hscope⟩
      (congrArg Prod.fst hkey)
  have hlifetime : q.config.tokens.defaultTokenTtl
      = IssueCall.lifetime p client (.service tenantId clientId scope) := by
    rw [hsame.config]
    rfl
  refine ⟨hsame, .provider (.signing hpermits hsame hlifetime
    fun c token r hlast hrange hnamed => .pure ⟨client, k, hpermits, hrange, ?_, rfl, ?_⟩)⟩
  · simpa [TokenResponse.signedTokens, TokenResponse.bearer] using hnamed
  · exact hlast.store_eq

theorem ends_issueAnonymous (tenantId clientId callerToken : String) (p : Provider) :
    Ends (issueAnonymous tenantId clientId callerToken) p
      (p.Declines (.anonymous tenantId clientId callerToken))
      fun response q => ∃ client k,
        p.Issues (.anonymous tenantId clientId callerToken) client k response q := by
  refine .bind (ends_activeTenant tenantId _ p) (fun _ h => .of_tenant h.2) fun tenant _ h => ?_
  obtain ⟨htenant, rfl⟩ := h
  have hstored := (Option.filter_eq_some_iff.mp htenant).1
  refine ⟨.refl _ p, .guard (fun h => .of_admits fun c _ hadmits => ?_) fun hallows => ?_⟩
  · obtain ⟨⟨t, ht, hallows⟩, -⟩ := hadmits
    obtain rfl := Option.some.inj (hstored.symm.trans ht)
    simp [hallows] at h
  refine .bind (ends_anonymousCaller tenantId callerToken p).run_eq
    (fun _ h => .of_admits fun c _ hadmits => ?_) fun caller q h => ?_
  · obtain ⟨-, caller, hcaller⟩ := hadmits
    rw [hcaller] at h
    cases h
  obtain ⟨hcaller, hverified⟩ := h
  refine ⟨hverified, .bind (ends_enabledClient tenantId clientId _ q) (fun _ h => .of_client ?_)
    fun client _ h => ?_⟩
  · rw [← hverified.store_eq]
    exact h.2
  obtain ⟨hclient, rfl⟩ := h
  rw [hverified.store_eq] at hclient
  have hagain := currentKey_of_anonymousCaller hcaller
  refine ⟨.refl _ q, .bind (ends_currentKey q).run_eq (fun _ h => .of_key (hagain ▸ h))
    fun k r h => ?_⟩
  obtain ⟨hkey, hloaded⟩ := h
  have hpermits : p.Permits (.anonymous tenantId clientId callerToken) client k :=
    Provider.permits_of_checks htenant hclient
      ⟨⟨tenant, hstored, by simpa using hallows⟩, caller, congrArg Prod.fst hcaller⟩
      (hagain.symm.trans (congrArg Prod.fst hkey))
  have hsame := hverified.trans hloaded
  have hlifetime : r.config.tokens.defaultTokenTtl
      = IssueCall.lifetime p client (.anonymous tenantId clientId callerToken) := by
    rw [hsame.config]
    rfl
  refine ⟨hloaded, .provider (.bind (ends_freshUuid r) (fun _ h => h.elim)
    fun subject s hdrawn => ?_)⟩
  refine ⟨hdrawn, .signing hpermits (hsame.trans hdrawn) hlifetime
    fun c token t hlast hrange hnamed => ?_⟩
  refine .map (ends_emit _ t) (fun _ h => h.elim) fun _ u hlogged =>
    ⟨client, k, hpermits, hrange, ?_, rfl, ?_⟩
  · simpa [TokenResponse.signedTokens, TokenResponse.bearer] using hnamed
  · exact (hlast.trans hlogged).store_eq

/-- The refresh grant is stored after everything else that can fail. -/
theorem ends_issueEndUser (tenantId clientId userId scope : String) (refreshCount : Nat)
    (p : Provider) :
    Ends (issueEndUser tenantId clientId userId scope refreshCount) p
      (p.Declines (.endUser tenantId clientId userId scope refreshCount))
      fun response q => ∃ client k,
        p.Issues (.endUser tenantId clientId userId scope refreshCount) client k response q := by
  refine .bind (ends_activeTenant tenantId _ p) (fun _ h => .of_tenant h.2) fun tenant _ h => ?_
  obtain ⟨htenant, rfl⟩ := h
  refine ⟨.refl _ p, .bind (ends_enabledClient tenantId clientId _ p) (fun _ h => .of_client h.2)
    fun client _ h => ?_⟩
  obtain ⟨hclient, rfl⟩ := h
  refine ⟨.refl _ p, .provider (.bind (.orRefuse _ _ p)
    (fun _ h => .of_admits fun c _ hadmits => ?_) fun user _ h => ?_)⟩
  · obtain ⟨u, hu, henabled⟩ := hadmits
    rw [Store.enabledUser?, Option.filter_eq_some_iff.mpr ⟨hu, henabled⟩] at h
    cases h.2
  obtain ⟨huser, rfl⟩ := h
  have huser := Option.filter_eq_some_iff.mp huser
  obtain rfl : user.userId = userId := congrArg Prod.snd (Table.key_of_get? huser.1)
  refine ⟨.refl _ p, .bind (ends_currentKey p).run_eq (fun _ h => .of_key h) fun k q h => ?_⟩
  obtain ⟨hkey, hsame⟩ := h
  have hpermits : p.Permits (.endUser tenantId clientId user.userId scope refreshCount) client k :=
    Provider.permits_of_checks htenant hclient ⟨user, huser⟩ (congrArg Prod.fst hkey)
  have hlifetime : client.endUserTokenTtlSeconds.getD q.config.tokens.defaultTokenTtl
      = IssueCall.lifetime p client
        (.endUser tenantId clientId user.userId scope refreshCount) := by
    rw [hsame.config]
    rfl
  refine ⟨hsame, .provider (.signing hpermits hsame hlifetime
    fun c token r hsigned hrange hnamed => ?_)⟩
  refine .bind (ends_idToken k _ r) (fun _ h => ?_) fun id s h => ?_
  · obtain ⟨rfl, hsize⟩ := h
    exact .signing hpermits hrange hsize
  obtain ⟨hid, hdrawn⟩ := h
  refine ⟨hdrawn, .map (ends_refreshToken hpermits hrange (hsigned.trans hdrawn)) (fun _ h => h)
    fun token u hgrants => ⟨client, k, hpermits, hrange, ?_, hgrants⟩⟩
  intro signed hsigned
  rcases List.mem_cons.mp hsigned with rfl | hmem
  · exact hnamed
  · exact hid signed (Option.mem_toList.mp hmem)

/-- The issue of tokens is all or nothing. -/
theorem ends_issue (call : IssueCall) (p : Provider) :
    Ends call.op p (p.Declines call) fun response q => ∃ client k,
      p.Issues call client k response q := by
  cases call with
  | endUser tenantId clientId userId scope refreshCount =>
    exact ends_issueEndUser tenantId clientId userId scope refreshCount p
  | service tenantId clientId scope => exact ends_issueService tenantId clientId scope p
  | anonymous tenantId clientId callerToken =>
    exact ends_issueAnonymous tenantId clientId callerToken p

end Op

end

/-! ## Actions that issue -/

namespace IssueCall

/-- The kind of the tokens that a call issues. -/
def tokenType : IssueCall → TokenType
  | endUser .. => .endUser
  | service .. => .serviceAccount
  | anonymous .. => .anonymousUser

/-- The action that is just a call. -/
def action : IssueCall → Action
  | endUser tenantId clientId userId scope refreshCount =>
    .issueEndUser tenantId clientId userId scope refreshCount
  | service tenantId clientId scope => .issueService tenantId clientId scope
  | anonymous tenantId clientId callerToken => .issueAnonymous tenantId clientId callerToken

theorem step_action (call : IssueCall) (p : Provider) : p.step call.action = (call.op.run p).2 := by
  cases call <;> rfl

theorem answers_action {call : IssueCall} {response : TokenResponse}
    (h : (call.op.run p).1 = .ok response) : Answers p call.tenantId response call.action := by
  cases call with
  | endUser => exact .endUser h
  | service => exact .service h
  | anonymous => exact .anonymous h

end IssueCall

/-- An action is answered with the tokens of a call. Before the call it takes a code or a refresh
grant at most, and after it there is nothing left to do but to log. -/
structure Provider.Serves (p : Provider) (a : Action) (call : IssueCall)
    (response : TokenResponse) : Prop where
  answers : Answers p call.tenantId response a
  /-- The action is the call, or a token request, which brings no anonymous users. -/
  source : a = call.action ∨ call.tokenType ≠ .anonymousUser ∧
    ∃ client request, client.clientId = call.clientId ∧ a = .grant call.tenantId client request
  issued : ∃ s q, SameBut [.codes, .refreshGrants] p s ∧ call.op.run s = (.ok response, q) ∧
    SameBut [] q (p.step a)

section

variable {a : Action} {call : IssueCall} {response : TokenResponse} {tenantId : String}

theorem Provider.serves_action (call : IssueCall) (h : (call.op.run p).1 = .ok response) :
    p.Serves call.action call response :=
  ⟨call.answers_action h, .inl rfl, p, p.step call.action, .refl _ p,
    Prod.ext h (call.step_action p).symm, .refl _ _⟩

/-- Tokens in a tenant are those of one call. -/
theorem Provider.exists_serves (h : Answers p tenantId response a) :
    ∃ call, call.tenantId = tenantId ∧ p.Serves a call response := by
  cases h with
  | @endUser clientId userId scope refreshCount h =>
    exact ⟨_, rfl, serves_action (.endUser tenantId clientId userId scope refreshCount) h⟩
  | @service clientId scope h =>
    exact ⟨_, rfl, serves_action (.service tenantId clientId scope) h⟩
  | @anonymous clientId callerToken h =>
    exact ⟨_, rfl, serves_action (.anonymous tenantId clientId callerToken) h⟩
  | @grant client request h =>
    obtain ⟨g, q, -, hgrant, hlog⟩ := grant_eq_ok (Prod.ext h rfl)
    cases g with
    | authorizationCode =>
      obtain ⟨userId, scope, s, hbefore, hissue⟩ := issueEndUser_of_grantForCode hgrant
      exact ⟨.endUser tenantId client.clientId userId scope 0, rfl, .grant h,
        .inr ⟨nofun, client, request, rfl, rfl⟩, s, q, hbefore.mono (by decide), hissue, hlog⟩
    | refreshToken =>
      obtain ⟨userId, scope, refreshCount, s, hbefore, hissue⟩ :=
        issueEndUser_of_grantForRefresh hgrant
      exact ⟨.endUser tenantId client.clientId userId scope refreshCount, rfl, .grant h,
        .inr ⟨nofun, client, request, rfl, rfl⟩, s, q, hbefore.mono (by decide), hissue, hlog⟩
    | clientCredentials =>
      exact ⟨.service tenantId client.clientId request.scope, rfl, .grant h,
        .inr ⟨nofun, client, request, rfl, rfl⟩, p, q, .refl _ p, hgrant, hlog⟩

/-- Tokens are permitted where they are issued. -/
theorem Provider.Serves.exists_permits (h : p.Serves a call response) :
    ∃ s client k, SameBut [.codes, .refreshGrants] p s ∧ s.Permits call client k := by
  obtain ⟨s, q, hbefore, hrun, -⟩ := h.issued
  rcases ends_issue call s with ⟨e, q', hrun', -⟩ | ⟨response', q', hrun', client, k, hissues⟩
  · cases (Prod.mk.inj (hrun.symm.trans hrun')).1
  · exact ⟨s, client, k, hbefore, hissues.permits⟩

/-- The tokens of a call are of its kind. -/
theorem Provider.Serves.mints {token : String} (h : p.Serves a call response)
    (htoken : token ∈ response.signedTokens) : ∃ k c,
      p.Mints (p.step a) call.tenantId call.tokenType response.expiresIn token k c := by
  obtain ⟨s, q, hbefore, hrun, hafter⟩ := h.issued
  have hminted : ∃ k c,
      s.Mints q call.tenantId call.tokenType response.expiresIn token k c := by
    cases call with
    | endUser => exact mints_of_issueEndUser hrun htoken
    | service =>
      obtain ⟨k, c, hminted, -⟩ := mints_of_issueService hrun htoken
      exact ⟨k, c, hminted⟩
    | anonymous => exact mints_of_issueAnonymous hrun htoken
  obtain ⟨k, c, hminted⟩ := hminted
  exact ⟨k, c, hminted.within (hbefore.mono (by decide)) (hafter.mono (by decide))⟩

end

/-- An issue is refused for a reason and leaves the store alone, or tokens are issued where they
are permitted, with a key that has not expired, and at most a refresh grant is stored. -/
theorem issuance_all_or_nothing (p : Provider) (call : IssueCall) :
    (∃ e q, call.op.run p = (.error (.refused e), q) ∧ q.store = p.store ∧ p.Declines call e) ∨
    ∃ response q client k, call.op.run p = (.ok response, q) ∧
      p.Issues call client k response q ∧ p.now < k.expiresAt ∧
      (p.KeysStored → ∃ key, p.store.signingKeys.get? k.keyId = some key ∧
        p.now < key.expiresAt) := by
  rcases ends_issue call p with ⟨e, q, hrun, hsame, he⟩ | ⟨response, q, hrun, client, k, hissues⟩
  · exact .inl ⟨e, q, hrun, hsame.store_eq, he⟩
  · obtain ⟨hlive, hstored⟩ := key_of_currentKey hissues.permits.key
    refine .inr ⟨response, q, client, k, hrun, hissues, hlive, fun h => ?_⟩
    obtain ⟨key, hkey, hexpiry⟩ := hstored h
    exact ⟨key, hkey, hexpiry ▸ hlive⟩

end OpenIdProvider
