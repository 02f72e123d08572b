import OpenIdProvider.Proofs.Operation

/-!
# Footprints

The parts of the state that each operation of the provider may change, whether it
succeeds or not: `touches_authorize` and its like. None of them sets the clock or
changes an entity.
-/

namespace OpenIdProvider.Op

/-! ## Keys -/

/-- The keys in use are fresh, or they are read from the store, or that fails. -/
theorem run_loadedKeys (p : Provider) : loadedKeys.run p
    = match p.keys.filter fun l => l.isFresh p.now p.config.keyCacheTtl with
      | some l => (.ok l, p)
      | none => match p.loadKeys with
        | .ok l => (.ok l, { p with
            keys := some l
            log := p.log ++ [keysLoadedEvent p.config.keys.rootTenantId l.signing.length] })
        | .error e => (.error (.refused e), p) := by
  rw [loadedKeys, run_bind, run_provider]
  dsimp only
  cases p.keys.filter fun l => l.isFresh p.now p.config.keyCacheTtl with
  | some l => rfl
  | none =>
    dsimp only
    rw [run_bind, run_ofExcept, Provider.loadKeys]
    cases LoadedKeys.load (p.store.signingKeysOf p.config.keys.rootTenantId) p.now p.grace <;> rfl

theorem touches_loadedKeys : Touches [.keys] loadedKeys := by
  intro p
  rw [run_loadedKeys]
  cases p.keys.filter fun l => l.isFresh p.now p.config.keyCacheTtl with
  | some l => exact .refl _ p
  | none =>
    cases hload : p.loadKeys with
    | error e => exact .refl _ p
    | ok l =>
      exact { SameBut.refl _ p with
        keys := fun h => absurd List.mem_cons_self h
        reloads := fun _ _ => .inr (.inr ⟨l, hload, rfl⟩) }

theorem touches_currentKey : Touches [.keys] currentKey :=
  .bind touches_loadedKeys fun _ => .bind .provider fun _ => .orRefuse _ _

theorem touches_publishedKeys : Touches [.keys] publishedKeys :=
  .bind touches_loadedKeys fun _ => .pure _

theorem touches_invalidateKeys : Touches [.keys] invalidateKeys :=
  fun p => { SameBut.refl _ p with
    keys := fun h => absurd List.mem_cons_self h
    reloads := fun _ _ => .inr (.inl rfl) }

variable {p q : Provider} {l : LoadedKeys}

/-- The key that signs, once the keys in use are known. -/
theorem run_currentKey (h : loadedKeys.run p = (.ok l, q)) :
    currentKey.run p = (match l.current? p.now with
      | some t => .ok t
      | none => .error (.refused .noSigningKey), q) := by
  have hnow : q.now = p.now := (touches_loadedKeys.sameBut_run h).now (by decide)
  rw [currentKey, run_bind, h]
  dsimp only
  rw [run_bind, run_provider]
  dsimp only
  rw [run_orRefuse, hnow]
  cases l.current? p.now <;> rfl

theorem run_publishedKeys (h : loadedKeys.run p = (.ok l, q)) :
    publishedKeys.run p = (.ok l.published, q) := by
  rw [publishedKeys, run_bind, h]
  rfl

theorem run_currentKey_of_error {e : Fault} (h : loadedKeys.run p = (.error e, q)) :
    currentKey.run p = (.error e, q) := by
  rw [currentKey, run_bind, h]

theorem run_publishedKeys_of_error {e : Fault} (h : loadedKeys.run p = (.error e, q)) :
    publishedKeys.run p = (.error e, q) := by
  rw [publishedKeys, run_bind, h]

/-- A key that signs is that of the keys in use. -/
theorem currentKey_eq_ok {k : TokenKey} (h : currentKey.run p = (.ok k, q)) :
    ∃ l, loadedKeys.run p = (.ok l, q) ∧ l.current? p.now = some k := by
  rcases hl : loadedKeys.run p with ⟨e | l, r⟩
  · rw [run_currentKey_of_error hl] at h
    cases (Prod.mk.inj h).1
  · rw [run_currentKey hl] at h
    obtain ⟨hk, rfl⟩ := Prod.mk.inj h
    cases hcurrent : l.current? p.now with
    | none =>
      rw [hcurrent] at hk
      cases hk
    | some t =>
      rw [hcurrent] at hk
      obtain rfl := Except.ok.inj hk
      exact ⟨l, rfl, hcurrent⟩

/-- Keys that are published are those of the keys in use. -/
theorem publishedKeys_eq_ok {s : KeySet} (h : publishedKeys.run p = (.ok s, q)) :
    ∃ l, loadedKeys.run p = (.ok l, q) ∧ l.published = s := by
  rcases hl : loadedKeys.run p with ⟨e | l, r⟩
  · rw [run_publishedKeys_of_error hl] at h
    cases (Prod.mk.inj h).1
  · rw [run_publishedKeys hl] at h
    obtain ⟨hs, rfl⟩ := Prod.mk.inj h
    exact ⟨l, rfl, Except.ok.inj hs⟩

/-! ## Authorization -/

theorem touches_beginLogin (tenantId : String) (r : AuthorizationRequest) (a : AcceptedRequest) :
    Touches [.pendingLogins] (beginLogin tenantId r a) :=
  .bind .provider fun _ => .bind .freshHandle fun _ => .bind (.later _) fun _ =>
    .bind (.ofExcept _) fun _ => .bind (.createRecord keptIn_pendingLogins _) fun _ =>
      .bind (.emit _) fun _ => .pure _

theorem touches_rejectRequest (tenantId : String) (r : AuthorizationRequest)
    (e : AuthorizationError) : Touches [] (rejectRequest tenantId r e) :=
  .bind (.emit _) fun _ => .bind .provider fun _ => .bind (.ofExcept _) fun _ => .pure _

theorem touches_authorize (tenantId : String) (r : AuthorizationRequest) :
    Touches [.pendingLogins] (authorize tenantId r) := by
  refine .bind .provider fun p => ?_
  split
  · exact touches_beginLogin _ _ _
  · exact (touches_rejectRequest _ _ _).mono (List.nil_subset _)

theorem touches_completeLogin (token userId : String) :
    Touches [.pendingLogins, .codes] (completeLogin token userId) := by
  refine .bind ((Touches.takeRecord keptIn_pendingLogins token).mono (by decide)) fun pending => ?_
  split
  · exact .bind .provider fun p => .guard <| .bind .freshHandle fun _ => .bind (.later _) fun _ =>
      .bind (.ofExcept _) fun _ =>
        .bind ((Touches.createRecord keptIn_codes _).mono (by decide)) fun _ =>
          .bind (.emit _) fun _ => .pure _
  · exact .refuse _

theorem touches_redeem (tenantId clientId code : String) (redirectUri verifier : Option String) :
    Touches [.codes] (redeem tenantId clientId code redirectUri verifier) := by
  refine .bind (.takeRecord keptIn_codes code) fun c => ?_
  split
  · exact .guard <| .guard <| .bind (.ofExcept _) fun _ => .pure _
  · exact .refuse _

/-! ## Authentication of clients -/

theorem touches_useAssertion (u : AssertionUse) : Touches [.assertionUses] (useAssertion u) := by
  refine .bind .provider fun p => ?_
  split
  · exact .bind (.setRecords keptIn_assertionUses _) fun _ => .pure _
  · exact .pure _

theorem touches_acceptsAssertion (assertion clientId tenantId : String) :
    Touches [.assertionUses] (acceptsAssertion assertion clientId tenantId) := by
  refine .bind .provider fun p => ?_
  split
  · exact .pure _
  · refine .bind (touches_useAssertion _) fun first => ?_
    split <;> exact .pure _

theorem touches_checkCredentials (tenantId : String) (c : Credentials) :
    Touches [.assertionUses] (checkCredentials tenantId c) := by
  cases c with
  | secret clientId clientSecret method => exact .bind .provider fun _ => .pure _
  | assertion clientId assertion =>
    exact .bind (touches_acceptsAssertion _ _ _) fun _ => .pure _

theorem touches_authenticate (tenantId : String) (c : Credentials) :
    Touches [.assertionUses] (authenticate tenantId c) := by
  refine .bind (touches_checkCredentials _ _) fun accepted => .bind .provider fun p => ?_
  split
  · exact .bind (.emit _) fun _ => .pure _
  · exact .bind (.emit _) fun _ => .refuse _

/-! ## Issuance and verification -/

theorem touches_sign (k : TokenKey) (c : TokenClaims) : Touches [] (sign k c) :=
  .bind (.orRefuse _ _) fun _ => .pure _

theorem touches_expiry (ttl : Int) : Touches [] (expiry ttl) :=
  .bind .provider fun _ => .orRefuse _ _

theorem touches_activeTenant (tenantId : String) (e : ProtocolError) :
    Touches [] (activeTenant tenantId e) :=
  .bind .provider fun _ => .orRefuse _ _

theorem touches_enabledClient (tenantId clientId : String) (e : ProtocolError) :
    Touches [] (enabledClient tenantId clientId e) :=
  .bind .provider fun _ => .orRefuse _ _

theorem touches_freshClaims (subject tenantId clientId : String) (type : TokenType) (ttl : Int) :
    Touches [] (freshClaims subject tenantId clientId type ttl) :=
  .bind (touches_expiry ttl) fun _ => .bind .freshUuid fun _ => .bind .provider fun _ => .pure _

theorem touches_idToken (k : TokenKey) (c : TokenClaims) : Touches [] (idToken k c) := by
  rw [idToken]
  split
  · exact .bind .freshUuid fun _ => .bind (touches_sign _ _) fun _ => .pure _
  · exact .pure _

theorem touches_refreshToken (client : Client) (tenantId userId scope : String)
    (refreshCount : Nat) :
    Touches [.refreshGrants] (refreshToken client tenantId userId scope refreshCount) := by
  rw [refreshToken]
  split
  · exact .bind .freshHandle fun _ => .bind .provider fun _ =>
      .bind ((touches_expiry _).mono (List.nil_subset _)) fun _ =>
        .bind (.createRecord keptIn_refreshGrants _) fun _ => .pure _
  · exact .pure _

theorem touches_issueEndUser (tenantId clientId userId scope : String) (refreshCount : Nat) :
    Touches [.refreshGrants, .keys] (issueEndUser tenantId clientId userId scope refreshCount) :=
  .bind ((touches_activeTenant _ _).mono (List.nil_subset _)) fun _ =>
    .bind ((touches_enabledClient _ _ _).mono (List.nil_subset _)) fun _ =>
      .bind .provider fun _ => .bind (.orRefuse _ _) fun _ =>
        .bind (touches_currentKey.mono (by decide)) fun _ => .bind .provider fun _ =>
          .bind ((touches_freshClaims _ _ _ _ _).mono (List.nil_subset _)) fun _ =>
            .bind ((touches_sign _ _).mono (List.nil_subset _)) fun _ =>
              .bind ((touches_idToken _ _).mono (List.nil_subset _)) fun _ =>
                .bind ((touches_refreshToken _ _ _ _ _).mono (by decide)) fun _ => .pure _

theorem touches_issueService (tenantId clientId : String) (scope : Option String) :
    Touches [.keys] (issueService tenantId clientId scope) :=
  .bind ((touches_activeTenant _ _).mono (List.nil_subset _)) fun _ =>
    .bind ((touches_enabledClient _ _ _).mono (List.nil_subset _)) fun _ =>
      .guard <| .bind .provider fun _ => .bind (.ofExcept _) fun _ =>
        .bind touches_currentKey fun _ => .bind .provider fun _ =>
          .bind ((touches_freshClaims _ _ _ _ _).mono (List.nil_subset _)) fun _ =>
            .bind ((touches_sign _ _).mono (List.nil_subset _)) fun _ => .pure _

theorem touches_readToken (token : String) : Touches [] (readToken token) := by
  rw [readToken]
  split
  · split
    · exact .refuse _
    · split
      · exact .refuse _
      · split
        · exact .pure _
        · exact .refuse _
  · exact .refuse _

theorem touches_verifyToken (tenantId token : String) :
    Touches [.keys] (verifyToken tenantId token) := by
  refine .bind ((touches_readToken token).mono (List.nil_subset _)) fun x => ?_
  refine .bind touches_publishedKeys fun keys => ?_
  split
  · split
    · refine .bind .provider fun p => ?_
      split
      · exact .refuse _
      · split
        · exact .refuse _
        · split
          · exact .refuse _
          · exact .pure _
    · exact .refuse _
  · exact .refuse _

theorem touches_anonymousCaller (tenantId token : String) :
    Touches [.keys] (anonymousCaller tenantId token) := by
  refine .bind (.tryCatch (touches_verifyToken _ _) fun e => ?_) fun caller => ?_
  · cases e
    · exact .refuse _
    · exact .throw _
  · split
    · exact .pure _
    · exact .refuse _

theorem touches_issueAnonymous (tenantId clientId callerToken : String) :
    Touches [.keys] (issueAnonymous tenantId clientId callerToken) :=
  .bind ((touches_activeTenant _ _).mono (List.nil_subset _)) fun _ =>
    .guard <| .bind (touches_anonymousCaller _ _) fun _ =>
      .bind ((touches_enabledClient _ _ _).mono (List.nil_subset _)) fun _ =>
        .bind touches_currentKey fun _ => .bind .provider fun _ => .bind .freshUuid fun _ =>
          .bind ((touches_freshClaims _ _ _ _ _).mono (List.nil_subset _)) fun _ =>
            .bind ((touches_sign _ _).mono (List.nil_subset _)) fun _ =>
              .bind (.emit _) fun _ => .pure _

/-! ## Grants -/

theorem touches_grantForCode (tenantId : String) (client : Client) (r : TokenRequest) :
    Touches [.codes, .refreshGrants, .keys] (grantForCode tenantId client r) :=
  .bind (.orRefuse _ _) fun _ => .bind (.orRefuse _ _) fun _ =>
    .bind ((touches_redeem _ _ _ _ _).mono (by decide)) fun _ =>
      (touches_issueEndUser _ _ _ _ _).mono (by decide)

theorem touches_restoreGrant (g : RefreshGrant) (e : Fault) :
    Touches [.refreshGrants] (restoreGrant g e) := by
  cases e with
  | refused e =>
    rw [restoreGrant]
    split
    · exact .bind (.tryCatch (.createRecord keptIn_refreshGrants g) fun _ => .pure _)
        fun _ => .refuse _
    · exact .refuse _
  | outOfRange => exact .throw _

theorem touches_grantForRefresh (tenantId : String) (client : Client) (r : TokenRequest) :
    Touches [.refreshGrants, .keys] (grantForRefresh tenantId client r) :=
  .bind (.orRefuse _ _) fun _ => .bind .provider fun _ => .bind (.orRefuse _ _) fun _ =>
    .bind (.ofExcept _) fun _ =>
      .bind ((Touches.takeRecord keptIn_refreshGrants _).mono (by decide)) fun _ =>
        .tryCatch (touches_issueEndUser _ _ _ _ _) fun _ =>
          (touches_restoreGrant _ _).mono (by decide)

theorem touches_grantFor (g : GrantType) (tenantId : String) (client : Client) (r : TokenRequest) :
    Touches [.codes, .refreshGrants, .keys] (grantFor g tenantId client r) := by
  cases g with
  | authorizationCode => exact touches_grantForCode _ _ _
  | refreshToken => exact (touches_grantForRefresh _ _ _).mono (by decide)
  | clientCredentials => exact (touches_issueService _ _ _).mono (by decide)

theorem touches_grant (tenantId : String) (client : Client) (r : TokenRequest) :
    Touches [.codes, .refreshGrants, .keys] (grant tenantId client r) := by
  refine .bind (.orRefuse _ _) fun g =>
    .bind (.tryCatch (touches_grantFor _ _ _ _) fun e => ?_) fun _ =>
      .bind (.emit _) fun _ => .pure _
  cases e with
  | refused e => exact .bind (.emit _) fun _ => .refuse _
  | outOfRange => exact .throw _

theorem touches_revoke (tenantId : String) (client : Client) (token : String) :
    Touches [.refreshGrants] (revoke tenantId client token) := by
  refine .bind .provider fun p => ?_
  split
  · exact .pure _
  · dsimp only
    split
    · exact .bind (.emit _) fun _ => .bind (.refuse _) fun _ =>
        .bind (.setRecords keptIn_refreshGrants _) fun _ => .emit _
    · exact .bind (.setRecords keptIn_refreshGrants _) fun _ => .emit _

end OpenIdProvider.Op
