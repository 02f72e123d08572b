import OpenIdProvider.Proofs.AuditTrail

/-!
# The events of a token request

What a token request logs can be told without its secrets (`log_token`): the events follow from
the client and the method that its credentials name, from its kind of grant, and from the error
in the response (`Provider.tokenEvents`).

The one event that could tell more is that keys were loaded, since it shows how far a grant got.
But an operation behind the token endpoint asks for the keys after all that a client can get
wrong (`Op.SignsLast`): it is refused for the client's fault and has logged nothing, or it has
asked for the keys, and from then on only the provider is at fault. So the response shows whether
the keys were asked for.
-/

namespace OpenIdProvider

open Op Http Http.Service

variable {α β : Type} {p q : Provider}

/-! ## Loads of keys -/

/-- What is logged when the keys are asked for. -/
def Provider.keyEvents (p : Provider) : List AuditEvent :=
  match p.keys.filter (fun l => l.isFresh p.now p.config.keyCacheTtl), p.loadKeys with
  | none, .ok l => [keysLoadedEvent p.config.keys.rootTenantId l.signing.length]
  | _, _ => []

theorem Provider.keyEvents_sameBut {ps : List Part} (h : SameBut ps p q) (hclock : .clock ∉ ps)
    (hentities : .entities ∉ ps) (hkeys : .keys ∉ ps) : q.keyEvents = p.keyEvents := by
  rw [keyEvents, keyEvents, h.keys hkeys, h.now hclock, h.config, h.loadKeys_eq hclock hentities]

namespace Op

theorem log_loadedKeys (p : Provider) : (loadedKeys.run p).2.log = p.log ++ p.keyEvents := by
  rw [run_loadedKeys, Provider.keyEvents]
  cases p.keys.filter fun l => l.isFresh p.now p.config.keyCacheTtl with
  | some l => exact (List.append_nil _).symm
  | none =>
    cases p.loadKeys with
    | ok l => rfl
    | error e => exact (List.append_nil _).symm

/-! ## Operations that ask for the keys -/

/-- What a grant is refused with when the client is at fault. -/
inductive RefusesGrant : ProtocolError → Prop
  | code : RefusesGrant (.invalidRequest "code is required")
  | redirectUri : RefusesGrant (.invalidRequest "redirect_uri is required")
  | refreshToken : RefusesGrant (.invalidRequest "refresh_token is required")
  | client : RefusesGrant .notAuthorized
  | grant (reason : String) : RefusesGrant (.invalidGrant reason)
  | scope (reason : String) : RefusesGrant (.invalidScope reason)

/-- An operation that comes before the keys are asked for: it may be refused for the client's
fault, logs nothing, and changes nothing on which the keys depend. -/
structure Prepares (x : Op α) : Prop where
  reports : Reports RefusesGrant (fun _ => False) x
  touches : Touches [.codes, .refreshGrants] x

/-- An operation is refused for the client's fault before it asks for the keys and logs
anything, or it asks for the keys, logs no more than this does, and from then on only the
provider is at fault. -/
structure SignsLast (x : Op α) : Prop where
  outcome : ∀ p,
    (∃ e, (x.run p).1 = .error (.refused e) ∧ RefusesGrant e ∧ (x.run p).2.log = p.log) ∨
      (∀ f, (x.run p).1 = .error f → ∃ e, f = .refused e ∧ e.IsInternal) ∧
        (x.run p).2.log = p.log ++ p.keyEvents

theorem Reports.log_eq {E : ProtocolError → Prop} {x : Op α}
    (hx : Reports E (fun _ => False) x) (p : Provider) : (x.run p).2.log = p.log := by
  obtain ⟨events, hlog, hevents⟩ := hx.logged p
  rw [hlog, List.eq_nil_iff_forall_not_mem.mpr hevents, List.append_nil]

namespace Prepares

theorem provider : Prepares Op.provider :=
  ⟨.provider, .provider⟩

theorem orRefuse (a : Option α) {e : ProtocolError} (he : RefusesGrant e) :
    Prepares (Op.orRefuse a e) :=
  ⟨.orRefuse a he, .orRefuse a e⟩

theorem ofExcept {a : Except ProtocolError α} (ha : ∀ e, a = .error e → RefusesGrant e) :
    Prepares (Op.ofExcept a) :=
  ⟨.ofExcept ha, .ofExcept a⟩

end Prepares

namespace SignsLast

variable {x : Op α} {f : α → Op β}

theorem refuse {e : ProtocolError} (he : RefusesGrant e) : SignsLast (Op.refuse e : Op α) :=
  ⟨fun _ => .inl ⟨e, rfl, he, rfl⟩⟩

theorem bind (hx : Prepares x) (hf : ∀ a, SignsLast (f a)) : SignsLast (x >>= f) := by
  refine ⟨fun p => ?_⟩
  have hlog := hx.reports.log_eq p
  have hrefused := hx.reports.refused p
  have hsame := hx.touches p
  rw [run_bind]
  rcases hr : x.run p with ⟨fault | a, q⟩
  · rw [hr] at hlog hrefused
    obtain ⟨e, rfl, he⟩ := hrefused fault rfl
    exact .inl ⟨e, rfl, he, hlog⟩
  · rw [hr] at hlog hsame
    have hkeys := Provider.keyEvents_sameBut hsame (by decide) (by decide) (by decide)
    rw [← hlog, ← hkeys]
    exact (hf a).outcome q

theorem guard {c : Prop} [Decidable c] {e : ProtocolError} (he : RefusesGrant e)
    (hx : SignsLast x) :
    SignsLast (if c then (Op.refuse e : Op PUnit) >>= fun _ => x else x) := by
  split
  · exact bind ⟨.refuse he, .refuse e⟩ fun _ => hx
  · exact hx

/-- Once the keys are asked for, only the provider is at fault. -/
theorem currentKey {f : TokenKey → Op β}
    (hf : ∀ k, Reports ProtocolError.IsInternal (fun _ => False) (f k)) :
    SignsLast (Op.currentKey >>= f) := by
  have hx : Reports ProtocolError.IsInternal AuditEvent.IsKeyLoad (Op.currentKey >>= f) :=
    .bind (reports_currentKey (fun _ => id) fun _ => id) fun k =>
      (hf k).imp (fun _ => id) fun _ => False.elim
  refine ⟨fun p => .inr ⟨hx.refused p, ?_⟩⟩
  have hlog := log_loadedKeys p
  have hcurrent (l : LoadedKeys) : Reports ProtocolError.IsInternal (fun _ => False)
      (Op.provider >>= fun p => Op.orRefuse (l.current? p.now) .noSigningKey) :=
    .bind .provider fun _ => .orRefuse _ rfl
  rw [Op.currentKey, bind_assoc, run_bind]
  rcases hr : loadedKeys.run p with ⟨fault | l, q⟩
  · rw [hr] at hlog
    exact hlog
  · rw [hr] at hlog
    rw [← hlog]
    exact Reports.log_eq (.bind (hcurrent l) hf) q

/-- A handler that refuses with what it caught hides nothing and adds nothing. -/
theorem tryCatch {h : Fault → Op α} (hx : SignsLast x)
    (hh : ∀ e p, ((h (.refused e)).run p).1 = .error (.refused e) ∧
      ((h (.refused e)).run p).2.log = p.log) : SignsLast (MonadExcept.tryCatch x h) := by
  refine ⟨fun p => ?_⟩
  have hcases := hx.outcome p
  rw [run_tryCatch]
  rcases hr : x.run p with ⟨fault | a, q⟩
  · rw [hr] at hcases
    have hhandled (e : ProtocolError) : fault = .refused e →
        ((h fault).run q).1 = .error (.refused e) ∧ ((h fault).run q).2.log = q.log := by
      rintro rfl
      exact hh e q
    rcases hcases with ⟨e, he, hrefuses, hlog⟩ | ⟨hinternal, hlog⟩
    · obtain ⟨herror, hsame⟩ := hhandled e (Except.error.inj he)
      exact .inl ⟨e, herror, hrefuses, hsame.trans hlog⟩
    · obtain ⟨e, rfl, he⟩ := hinternal fault rfl
      obtain ⟨herror, hsame⟩ := hhandled e rfl
      refine .inr ⟨fun f hf => ⟨e, ?_, he⟩, hsame.trans hlog⟩
      exact (Except.error.inj (herror.symm.trans hf)).symm
  · rw [hr] at hcases
    exact hcases

end SignsLast

/-! ## Grants -/

theorem prepares_activeTenant (tenantId : String) {e : ProtocolError} (he : RefusesGrant e) :
    Prepares (activeTenant tenantId e) :=
  ⟨reports_activeTenant tenantId he, (touches_activeTenant tenantId e).mono (List.nil_subset _)⟩

theorem prepares_enabledClient (tenantId clientId : String) {e : ProtocolError}
    (he : RefusesGrant e) : Prepares (enabledClient tenantId clientId e) :=
  ⟨reports_enabledClient tenantId clientId he,
    (touches_enabledClient tenantId clientId e).mono (List.nil_subset _)⟩

theorem refusesGrant_of_checkRedemption {challenge method verifier : Option String}
    {e : ProtocolError} (h : Pkce.checkRedemption challenge method verifier = .error e) :
    RefusesGrant e := by
  unfold Pkce.checkRedemption at h
  split at h
  · split at h
    · rw [Pkce.check] at h
      split at h
      · exact Except.error.inj h ▸ .grant _
      · split at h
        · exact Except.error.inj h ▸ .grant _
        · split at h
          · exact Except.error.inj h ▸ .grant _
          · cases h
    · exact Except.error.inj h ▸ .grant _
  · exact Except.error.inj h ▸ .grant _
  · exact Except.error.inj h ▸ .grant _
  · cases h

theorem refusesGrant_of_serviceScope {granted : List String} {requested : Option String}
    {e : ProtocolError} (h : serviceScope granted requested = .error e) : RefusesGrant e := by
  rw [serviceScope] at h
  split at h
  · split at h
    · exact Except.error.inj h ▸ .scope _
    · cases h
  · cases h

theorem refusesGrant_of_narrowedScope {g : RefreshGrant} {requested : Option String}
    {e : ProtocolError} (h : narrowedScope g requested = .error e) : RefusesGrant e := by
  rw [narrowedScope] at h
  split at h
  · cases h
  · split at h
    · exact Except.error.inj h ▸ .scope _
    · cases h

theorem prepares_redeem (tenantId clientId code : String) (redirectUri verifier : Option String) :
    Prepares (redeem tenantId clientId code redirectUri verifier) := by
  refine ⟨.bind (.takeRecord _) fun c => ?_,
    (touches_redeem tenantId clientId code redirectUri verifier).mono (by decide)⟩
  split
  · exact .guard (.grant _) <| .guard (.grant _) <|
      .bind (.ofExcept fun _ => refusesGrant_of_checkRedemption) fun _ => .pure _
  · exact .refuse (.grant _)

theorem signsLast_issueEndUser (tenantId clientId userId scope : String) (refreshCount : Nat) :
    SignsLast (issueEndUser tenantId clientId userId scope refreshCount) :=
  .bind (prepares_activeTenant tenantId (.grant _)) fun _ =>
    .bind (prepares_enabledClient tenantId clientId (.grant _)) fun _ =>
      .bind .provider fun _ => .bind (.orRefuse _ (.grant _)) fun _ =>
        .currentKey fun _ => .bind .provider fun _ =>
          .bind (reports_freshClaims (fun _ => id) ..) fun _ =>
            .bind (reports_sign (fun _ => id) ..) fun _ =>
              .bind (reports_idToken (fun _ => id) ..) fun _ =>
                .bind (reports_refreshToken (fun _ => id) ..) fun _ => .pure _

theorem signsLast_issueService (tenantId clientId : String) (scope : Option String) :
    SignsLast (issueService tenantId clientId scope) :=
  .bind (prepares_activeTenant tenantId .client) fun _ =>
    .bind (prepares_enabledClient tenantId clientId .client) fun _ =>
      .guard .client <| .bind .provider fun _ =>
        .bind (.ofExcept fun _ => refusesGrant_of_serviceScope) fun _ =>
          .currentKey fun _ => .bind .provider fun _ =>
            .bind (reports_freshClaims (fun _ => id) ..) fun _ =>
              .bind (reports_sign (fun _ => id) ..) fun _ => .pure _

theorem signsLast_grantForCode (tenantId : String) (client : Client) (r : TokenRequest) :
    SignsLast (grantForCode tenantId client r) :=
  .bind (.orRefuse _ .code) fun _ => .bind (.orRefuse _ .redirectUri) fun _ =>
    .bind (prepares_redeem ..) fun _ => signsLast_issueEndUser ..

/-- A refresh grant that is put back is refused as before, and nothing is logged. -/
theorem run_restoreGrant (g : RefreshGrant) (e : ProtocolError) (p : Provider) :
    ((restoreGrant g (.refused e)).run p).1 = .error (.refused e) ∧
      ((restoreGrant g (.refused e)).run p).2.log = p.log := by
  rw [restoreGrant]
  split
  · rw [run_bind, run_tryCatch, run_createRecord]
    cases (Kept.records p.store).create p.now g <;> exact ⟨rfl, rfl⟩
  · exact ⟨rfl, rfl⟩

theorem signsLast_grantForRefresh (tenantId : String) (client : Client) (r : TokenRequest) :
    SignsLast (grantForRefresh tenantId client r) :=
  .bind (.orRefuse _ .refreshToken) fun _ => .bind .provider fun _ =>
    .bind (.orRefuse _ (.grant _)) fun g =>
      .bind (.ofExcept fun _ => refusesGrant_of_narrowedScope) fun _ =>
        .bind ⟨.takeRecord _, (Touches.takeRecord keptIn_refreshGrants _).mono (by decide)⟩ fun _ =>
          .tryCatch (signsLast_issueEndUser ..) (run_restoreGrant g)

theorem signsLast_grantFor (g : GrantType) (tenantId : String) (client : Client)
    (r : TokenRequest) : SignsLast (grantFor g tenantId client r) := by
  cases g with
  | authorizationCode => exact signsLast_grantForCode ..
  | refreshToken => exact signsLast_grantForRefresh ..
  | clientCredentials => exact signsLast_issueService ..

end Op

/-! ## The events of a token request -/

/-- Why a request uses no credentials. -/
def Credentials.refusals : List ProtocolError :=
  [.invalidRequest "malformed Basic credentials",
    .invalidRequest "client_id does not match credentials",
    .invalidRequest "client_id is required with client_secret",
    .invalidRequest "unsupported client_assertion_type",
    .invalidClient "client authentication required",
    .invalidRequest "multiple client authentication methods"]

theorem Credentials.mem_refusals_of_extract {a i s x t : Option String} {e : ProtocolError}
    (h : extract a i s x t = .error e) : e ∈ refusals := by
  unfold extract at h
  split at h
  · rw [ofBasic] at h
    split at h
    · obtain rfl := Except.error.inj h
      decide
    · split at h
      · cases h
      · obtain rfl := Except.error.inj h
        decide
  · unfold ofPost at h
    split at h
    · cases h
    · obtain rfl := Except.error.inj h
      decide
  · rw [ofAssertion] at h
    split at h
    · cases h
    · obtain rfl := Except.error.inj h
      decide
  · obtain rfl := Except.error.inj h
    decide
  · obtain rfl := Except.error.inj h
    decide

/-- What a grant is refused with is neither why a request uses no credentials nor why a client is
not authenticated. -/
theorem Op.RefusesGrant.ne {e : ProtocolError} (h : RefusesGrant e) :
    e ∉ authenticationFailed :: Credentials.refusals := by
  cases h with
  | grant reason => simp [authenticationFailed, Credentials.refusals]
  | scope reason => simp [authenticationFailed, Credentials.refusals]
  | _ => decide

theorem Op.RefusesGrant.isServerError_eq {e : ProtocolError} (h : RefusesGrant e) :
    e.isServerError = false := by
  cases h <;> rfl

theorem ProtocolError.IsInternal.ne {e : ProtocolError} (h : e.IsInternal) :
    e ∉ authenticationFailed :: Credentials.refusals := by
  intro he
  have hall : ∀ e ∈ authenticationFailed :: Credentials.refusals, e.isServerError = false := by
    decide
  cases h.symm.trans (hall e he)

/-- The response to a token request that ends in tokens or in an error. -/
inductive TokenAnswer : Option ProtocolError → Response → Prop
  | tokens (tokens : TokenResponse) : TokenAnswer none (tokenResponse tokens)
  | error (e : ProtocolError) : TokenAnswer (some e) (errorResponse e)

/-- The events of a token request that shows credentials: they follow from the client and the
method that these name, from the kind of grant, and from the error in the response. -/
def Provider.tokenEvents (p : Provider) (tenantId clientId : String) (m : ClientAuthMethod)
    (grantType : String) (error : Option ProtocolError) : List AuditEvent :=
  if error = some authenticationFailed then [loginEvent tenantId clientId m false]
  else loginEvent tenantId clientId m true :: match GrantType.ofName? grantType with
    | none => []
    | some g => (if error.all ProtocolError.isServerError then p.keyEvents else [])
        ++ [grantEvent g tenantId clientId error]

variable {tenantId : String}

/-- The outcome of an operation that asks for the keys last tells whether it has asked for them,
and is not mistaken for an earlier refusal. -/
theorem Op.SignsLast.logged {x : Op α} (hx : SignsLast x) (p : Provider) :
    (∃ a, (x.run p).1 = .ok a ∧ (x.run p).2.log = p.log ++ p.keyEvents) ∨
      ∃ e, (x.run p).1 = .error (.refused e) ∧ e ∉ authenticationFailed :: Credentials.refusals ∧
        (x.run p).2.log = p.log ++ (if e.isServerError then p.keyEvents else []) := by
  rcases hx.outcome p with ⟨e, he, hrefuses, hlog⟩ | ⟨hinternal, hlog⟩
  · refine .inr ⟨e, he, hrefuses.ne, ?_⟩
    rw [hrefuses.isServerError_eq, hlog]
    exact (List.append_nil _).symm
  · cases hrun : (x.run p).1 with
    | ok a => exact .inl ⟨a, rfl, hlog⟩
    | error f =>
      obtain ⟨e, rfl, he⟩ := hinternal f hrun
      refine .inr ⟨e, rfl, he.ne, ?_⟩
      rw [if_pos (show e.isServerError = true from he), hlog]

/-- A grant of a known kind logs what the error in its response tells. -/
theorem Op.log_grant {g : GrantType} {r : TokenRequest}
    (hg : GrantType.ofName? r.grantType = some g) (client : Client) (p : Provider) :
    ∃ error response q, (answering (grant tenantId client r >>= fun tokens =>
        pure (tokenResponse tokens))).run p = (.ok response, q) ∧ TokenAnswer error response ∧
      (∀ e ∈ error, e ∉ authenticationFailed :: Credentials.refusals) ∧
      q.log = p.log ++ ((if error.all ProtocolError.isServerError then p.keyEvents else [])
        ++ [grantEvent g tenantId client.clientId error]) := by
  have hlogged := (signsLast_grantFor g tenantId client r).logged p
  rw [run_answering, run_bind, grant, run_bind, run_orRefuse, hg]
  dsimp only
  rw [run_bind, run_tryCatch]
  rcases hrun : (grantFor g tenantId client r).run p with ⟨f | tokens, q⟩
  · rw [hrun] at hlogged
    obtain ⟨_, hok, -⟩ | ⟨e, he, hne, hlog⟩ := hlogged
    · cases hok
    · obtain rfl := Except.error.inj he
      refine ⟨some e, _, _, rfl, .error e, fun e' he' => ?_, ?_⟩
      · obtain rfl := Option.mem_some_iff.mp he'
        exact hne
      · rw [Option.all_some, ← List.append_assoc, ← hlog]
  · rw [hrun] at hlogged
    obtain ⟨_, -, hlog⟩ | ⟨e, he, -⟩ := hlogged
    · refine ⟨none, _, _, rfl, .tokens tokens, fun e' he' => ?_, ?_⟩
      · cases he'
      · rw [Option.all_none, if_pos rfl, ← List.append_assoc, ← hlog]
    · cases he

/-- What a token request logs follows from the client and the method that its credentials name,
from its kind of grant, and from the error in the response. -/
theorem log_token {r : Request} {x : TokenRequest} {c : Credentials}
    (hrequest : tokenRequest? r = some x)
    (hcredentials : (tokenEvidence r x).credentials = .ok c) (tenantId : String) (p : Provider) :
    ∃ error response q, (token tenantId r).run p = (.ok response, q) ∧
      TokenAnswer error response ∧ (∀ e ∈ error, e ∉ Credentials.refusals) ∧
      q.log = p.log ++ p.tokenEvents tenantId c.named c.method x.grantType error := by
  rw [run_token hrequest hcredentials]
  rcases authenticate_cases tenantId c p with ⟨client, q, hrun, hlog, hnamed⟩ | ⟨q, hrun, hlog⟩
  · have hgrant : (answering (Op.authenticate tenantId c >>= fun client =>
        Op.grant tenantId client x >>= fun tokens => pure (tokenResponse tokens))).run p
        = (answering (Op.grant tenantId client x >>= fun tokens =>
            pure (tokenResponse tokens))).run q :=
      answering_congr (by rw [run_bind, hrun])
    rw [hgrant]
    cases hg : GrantType.ofName? x.grantType with
    | none =>
      rw [run_answering, run_bind, grant, run_bind, run_orRefuse, hg]
      refine ⟨some _, _, q, rfl, .error _, fun e he => ?_, ?_⟩
      · obtain rfl := Option.mem_some_iff.mp he
        simp [Credentials.refusals]
      · rw [Provider.tokenEvents, hg, if_neg (by simp [authenticationFailed]), hlog]
    | some g =>
      obtain ⟨error, response, s, hanswer, hshows, hne, hlast⟩ := log_grant hg client q
      have hkeys := Provider.keyEvents_sameBut ((touches_authenticate tenantId c).sameBut_run hrun)
        (by decide) (by decide) (by decide)
      refine ⟨error, response, s, hanswer, hshows,
        fun e he h => hne e he (List.mem_cons_of_mem _ h), ?_⟩
      rw [Provider.tokenEvents, hg, if_neg, hlast, hlog, hkeys, hnamed, List.append_assoc]
      · rfl
      · rintro rfl
        exact hne _ rfl List.mem_cons_self
  · rw [run_answering, run_bind, hrun]
    refine ⟨some authenticationFailed, _, q, rfl, .error _, fun e he => ?_, ?_⟩
    · obtain rfl := Option.mem_some_iff.mp he
      decide
    · rw [Provider.tokenEvents, if_pos rfl, hlog]

end OpenIdProvider
