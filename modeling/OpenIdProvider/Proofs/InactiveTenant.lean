import OpenIdProvider.Proofs.Authentication
import OpenIdProvider.Proofs.Issuance

/-!
# Inactive tenants

A tenant that is missing, disabled or marked for deletion is refused at every endpoint that
serves its clients (`Provider.ShutsOut`, `inactive_tenant_refused`). Each endpoint has its own
check, and that of an authorization request is the odd one out: it asks whether the tenant is
enabled, and the mark makes no difference to it (`AuthorizationRequest.check_mark`). So a tenant
that is enabled and marked gets its logins, and nothing that comes after them.

`Http.Service.Concludes` says that a request is answered and that no record is created with it.
-/

namespace OpenIdProvider

open Op Provider

variable {p q : Provider} {tenantId : String}

theorem ProtocolError.le_status (e : ProtocolError) : 400 ≤ e.status := by
  cases e <;> simp [status]

/-! ## Requests to a tenant -/

namespace Http

/-- A request goes to an endpoint of a tenant. -/
def Request.GoesTo (r : Request) (tenantId : String) (endpoint : TenantEndpoint) : Prop :=
  ∃ segment, Route.ofPath? r.path = some (.tenant segment endpoint) ∧
    Route.tenantId? segment = some tenantId

example : (Request.create "POST" "/T%31/oidc/token" [] "").GoesTo "T1" .token :=
  ⟨"T%31", by decide +kernel, by decide +kernel⟩

/-- A response tells of an error. -/
def Response.IsError (response : Response) : Prop :=
  400 ≤ response.status

namespace Service

/-- A request is answered, and no record is created: keys may be read, and the use of an
assertion may be kept. -/
def Concludes (x : Op Response) (p : Provider) (good : Response → Prop) : Prop :=
  ∃ response q, x.run p = (.ok response, q) ∧ SameBut [.assertionUses, .keys] p q ∧ good response

variable {α β : Type} {x : Op Response} {good : Response → Prop} {r : Request}
  {endpoint : TenantEndpoint}

theorem isError_errorResponse (e : ProtocolError) : (errorResponse e).IsError :=
  e.le_status

theorem isError_of_status {response : Response} (h : response.status = 405) :
    response.IsError := by
  rw [Response.IsError, h]
  decide

theorem concludes_pure {response : Response} (h : good response) :
    Concludes (pure response) p good :=
  ⟨response, p, rfl, .refl _ p, h⟩

/-- An operation that ends is answered with its result or its refusal. -/
theorem concludes_answering {E : ProtocolError → Prop} {R : Response → Provider → Prop}
    (hx : Ends x p E R) (herror : ∀ e, E e → good (errorResponse e))
    (hresult : ∀ response q, R response q → SameBut [.keys] p q ∧ good response) :
    Concludes (answering x) p good := by
  rcases hx with ⟨e, q, hrun, hsame, he⟩ | ⟨response, q, hrun, hR⟩
  · refine ⟨errorResponse e, q, ?_, hsame.mono (by decide), herror e he⟩
    rw [run_answering, hrun]
  · obtain ⟨hsame, hgood⟩ := hresult response q hR
    refine ⟨response, q, ?_, hsame.mono (by decide), hgood⟩
    rw [run_answering, hrun]

/-- An operation that has no result is answered with its refusal. -/
theorem concludes_answering_refused {E : ProtocolError → Prop}
    (hx : Ends x p E fun _ _ => False) : Concludes (answering x) p Response.IsError :=
  concludes_answering hx (fun e _ => isError_errorResponse e) fun _ _ h => h.elim

theorem concludes_withParameters {form : Except Response (List Form.Pair)}
    {f : List Form.Pair → Op Response} (herror : ∀ response, form = .error response → good response)
    (hok : ∀ ps, form = .ok ps → Concludes (answering (f ps)) p good) :
    Concludes (withParameters form f) p good := by
  cases form with
  | error response => exact concludes_pure (herror response rfl)
  | ok ps => exact hok ps rfl

/-- A request with a method that the endpoint has not gets an error, and others get what the
endpoint answers. -/
theorem concludes_answer (h : r.GoesTo tenantId endpoint)
    (hmethod : r.method ∉ endpoint.methods → ∀ response : Response, response.status = 405 →
      good response)
    (hrest : r.method ∈ endpoint.methods → Concludes (atTenant tenantId r endpoint) p good) :
    Concludes (answer r) p good := by
  obtain ⟨segment, hpath, htenant⟩ := h
  rw [answer, hpath]
  dsimp only
  split
  · rename_i hcontains
    rw [atRoute, htenant]
    exact hrest (List.contains_iff_mem.mp hcontains)
  · rename_i hcontains
    exact concludes_pure (hmethod (mt List.contains_iff_mem.mpr hcontains) _ rfl)

theorem isError_of_formParameters {known : List String} {response : Response}
    (h : formParameters known r = .error response) : response.IsError := by
  rw [formParameters] at h
  split at h
  · obtain rfl := Except.error.inj h
    show 400 ≤ notAForm.status
    decide
  · split at h
    · cases h
    · obtain rfl := Except.error.inj h
      show 400 ≤ 422
      decide

theorem isError_of_queryParameters {known : List String} {response : Response}
    (h : queryParameters known r = .error response) : response.IsError := by
  rw [queryParameters] at h
  split at h
  · cases h
  · obtain rfl := Except.error.inj h
    exact Nat.le_refl 400

/-! ## Endpoints that ask for an active tenant -/

section

variable (hinactive : p.store.activeTenant? tenantId = none)

include hinactive

theorem ends_requireTenant :
    Ends (requireTenant tenantId) p (fun _ => True) fun _ _ => False := by
  refine .map (ends_activeTenant tenantId _ p) (fun _ _ => trivial) fun tenant q h => ?_
  rw [hinactive] at h
  cases h.1

/-- What asks for the tenant first is refused. -/
theorem concludes_requireTenant {f : Unit → Op Response} :
    Concludes (answering (requireTenant tenantId >>= f)) p Response.IsError :=
  concludes_answering_refused <|
    .bind (ends_requireTenant hinactive) (fun _ h => h) fun _ _ h => h.elim

/-- A call that issues tokens in the tenant is refused. -/
theorem ends_issue_refused (call : IssueCall) (h : call.tenantId = tenantId) :
    Ends call.op p (p.Declines call) fun _ _ => False := by
  refine (ends_issue call p).imp (fun _ he => he) fun response q hissues => ?_
  obtain ⟨client, k, hissues⟩ := hissues
  exact hissues.permits.activeTenant? (h ▸ hinactive)

theorem concludes_anonymousToken (r : Request) :
    Concludes (anonymousToken tenantId r) p Response.IsError := by
  refine concludes_withParameters (fun _ => isError_of_formParameters) fun ps _ => ?_
  refine concludes_answering_refused (E := fun _ => True) ?_
  refine .bind (.orRefuse _ _ p) (fun _ _ => trivial) fun caller _ h => ?_
  obtain ⟨-, rfl⟩ := h
  refine ⟨.refl _ p, .guard (fun _ => trivial) fun _ => ?_⟩
  exact .bind (ends_issue_refused hinactive (.anonymous tenantId _ caller) rfl)
    (fun _ _ => trivial) fun _ _ h => h.elim

/-- No client of the tenant is authenticated. -/
theorem refused_client (e : ClientEvidence) : ∃ error q,
    (e.client tenantId).run p = (.error (.refused error), q) ∧
      SameBut [.assertionUses, .keys] p q := by
  obtain ⟨q, honly, ⟨client, hclient, -⟩ | ⟨-, error, hrun⟩⟩ := e.run_client tenantId p
  · obtain ⟨tenant, htenant⟩ := ((hclient client).mpr rfl).tenant
    rw [Store.activeTenant?, Option.filter_eq_some_iff.mpr htenant] at hinactive
    cases hinactive
  · exact ⟨error, q, hrun, honly.sameBut.mono (by decide)⟩

theorem concludes_handlingWith {form : Except Response (List Form.Pair)}
    {accept : List Form.Pair → Op (Client × α)} {respond : β → Response}
    {handle : Client → α → Op β} {evidence : List Form.Pair → ClientEvidence}
    {rest : List Form.Pair → Client → Op (Client × α)}
    (hform : ∀ response, form = .error response → response.IsError)
    (haccept : ∀ ps, accept ps = (evidence ps).client tenantId >>= rest ps) :
    Concludes (handlingWith form accept respond handle) p Response.IsError := by
  refine concludes_withParameters hform fun ps _ => ?_
  obtain ⟨error, q, hrun, hsame⟩ := refused_client hinactive (evidence ps)
  refine ⟨errorResponse error, q, ?_, hsame, isError_errorResponse error⟩
  rw [run_answering, haccept, run_bind, run_bind, hrun]

theorem concludes_token (r : Request) :
    Concludes (token tenantId r) p Response.IsError := by
  rw [token_eq]
  exact concludes_handlingWith hinactive (fun _ => isError_of_formParameters) fun ps => rfl

theorem concludes_revoke (r : Request) :
    Concludes (revoke tenantId r) p Response.IsError := by
  rw [revoke_eq]
  exact concludes_handlingWith hinactive (fun _ => isError_of_formParameters) fun ps => rfl

/-- Every endpoint but those for browsers and for users answers with an error. -/
theorem concludes_atTenant (r : Request) (hauthorize : endpoint ≠ .authorize)
    (huserInfo : endpoint ≠ .userInfo) :
    Concludes (atTenant tenantId r endpoint) p Response.IsError := by
  cases endpoint with
  | configuration => exact concludes_requireTenant hinactive
  | keySet => exact concludes_requireTenant hinactive
  | token => exact concludes_token hinactive r
  | revoke => exact concludes_revoke hinactive r
  | anonymousToken => exact concludes_anonymousToken hinactive r
  | authorize => exact absurd rfl hauthorize
  | userInfo => exact absurd rfl huserInfo

end

/-- The userinfo endpoint creates no record, whatever the tenant. -/
theorem concludes_userInfo (tenantId : String) (r : Request) (p : Provider) :
    Concludes (userInfo tenantId r) p fun _ => True := by
  have herror (e : UserInfoError) (q : Provider) :
      ∃ response s, (userInfoError e).run q = (.ok response, s) ∧ SameBut [.keys] q s :=
    ⟨_, _, rfl, Touches.freshUuid q⟩
  rw [userInfo]
  cases r.bearer? with
  | none =>
    obtain ⟨response, q, hrun, hsame⟩ := herror .missingToken p
    exact ⟨response, q, hrun, hsame.mono (by decide), trivial⟩
  | some token =>
    rcases ends_verifyToken tenantId token p with ⟨e, q, hrun, hsame, -⟩ | ⟨c, q, hrun, hsame⟩
    · by_cases hserver : e.isServerError = true
      · refine ⟨errorResponse e, q, ?_, hsame.mono (by decide), trivial⟩
        dsimp only
        rw [run_tryCatch, run_bind, hrun]
        dsimp only
        rw [if_pos hserver]
        rfl
      · obtain ⟨response, s, hinfo, hdrawn⟩ := herror .invalidToken q
        refine ⟨response, s, ?_, (hsame.trans hdrawn).mono (by decide), trivial⟩
        dsimp only
        rw [run_tryCatch, run_bind, hrun]
        dsimp only
        rw [if_neg hserver, hinfo]
    · refine ⟨.document c.userInfo, q, ?_, hsame.mono (by decide), trivial⟩
      dsimp only
      rw [run_tryCatch, run_bind, hrun]
      rfl

end Service

end Http

/-! ## Authorization -/

namespace AuthorizationRequest

variable {r : AuthorizationRequest} {s : Store} {a : AcceptedRequest}

/-- The error of a request to a tenant that is not enabled. -/
def refusal (r : AuthorizationRequest) : AuthorizationError :=
  if r.scope? = none then .missingScope
  else if r.responseType ≠ some "code" then .unsupportedResponseType
  else .invalidTenant

theorem check_of_not_enabled (r : AuthorizationRequest)
    (h : (s.tenant? tenantId).any Tenant.enabled = false) :
    r.check s tenantId = .error r.refusal := by
  rw [check, refusal]
  cases hscope : r.scope? with
  | none => rfl
  | some scope =>
    by_cases htype : r.responseType = some "code"
    · simp only [htype, h, ne_eq, not_true_eq_false, Bool.not_false, if_true, if_false,
        reduceCtorEq]
      rfl
    · simp only [htype, ne_eq, not_false_eq_true, if_true, if_false, reduceCtorEq]
      rfl

/-- A request is accepted for an enabled tenant only. -/
theorem exists_enabled_of_check (h : r.check s tenantId = .ok a) :
    ∃ t, s.tenant? tenantId = some t ∧ t.enabled = true := by
  cases henabled : (s.tenant? tenantId).any Tenant.enabled with
  | true => exact (Option.any_eq_true _ _).mp henabled
  | false =>
    rw [check_of_not_enabled r henabled] at h
    cases h

/-- Whether a tenant is marked for deletion makes no difference to a request. -/
theorem check_mark {t : Tenant} (h : s.tenant? tenantId = some t) (marked : Bool) :
    r.check { s with tenants := s.tenants.put { t with markedForDelete := marked } } tenantId
      = r.check s tenantId := by
  have hid : t.tenantId = tenantId := Table.key_of_get? h
  have hput : Store.tenant?
      { s with tenants := s.tenants.put { t with markedForDelete := marked } } tenantId
      = some { t with markedForDelete := marked } := by
    rw [Store.tenant?, Table.get?_put]
    exact if_pos hid.symm
  rw [check, check, hput, h]
  rfl

end AuthorizationRequest

namespace Http.Service

variable {r : Request}

/-- The authorization request in the query of a request. -/
def authorizationRequest? (r : Request) : Option AuthorizationRequest :=
  (queryParameters AuthorizationRequest.names r).toOption.map fun ps =>
    Id.run (AuthorizationRequest.ofFields fun name => ps.lookup name)

/-- The response that sends the user somewhere. -/
def redirectTo (location : Url) : Response :=
  ⟨302, [("location", location.text), ("cache-control", "no-store")], .empty⟩

/-- How a request to begin a login is refused: the user is sent to the login page with the error
of the request. Only when there is no request to read, or no page to send the user to, the
response itself tells of the error. -/
inductive RefusesLogin (loginUrl tenantId : String) (r : Request) : Response → Prop where
  | redirect {request : AuthorizationRequest} {location : Url}
      (hrequest : authorizationRequest? r = some request)
      (hlocation : Redirect.loginError loginUrl tenantId request request.refusal = .ok location) :
      RefusesLogin loginUrl tenantId r (redirectTo location)
  | error {response : Response} (herror : response.IsError)
      (hnone : ∀ request location, r.method ∈ TenantEndpoint.authorize.methods →
        authorizationRequest? r = some request →
        Redirect.loginError loginUrl tenantId request request.refusal ≠ .ok location) :
      RefusesLogin loginUrl tenantId r response

theorem concludes_authorize (r : Request)
    (hdisabled : (p.store.tenant? tenantId).any Tenant.enabled = false) :
    Concludes (authorize tenantId r) p (RefusesLogin p.config.loginUrl tenantId r) := by
  refine concludes_withParameters (fun response h => ?_) fun ps hps => ?_
  · refine .error (isError_of_queryParameters h) fun request location _ hrequest => ?_
    rw [authorizationRequest?, h] at hrequest
    cases hrequest
  · -- The request that the parameters make.
    let request : AuthorizationRequest :=
      Id.run (AuthorizationRequest.ofFields fun name => ps.lookup name)
    have hrequest : authorizationRequest? r = some request := by
      rw [authorizationRequest?, hps]
      rfl
    have hrun : (Op.authorize tenantId request).run p
        = (rejectRequest tenantId request request.refusal).run p := by
      rw [Op.authorize, run_bind, run_provider]
      dsimp only
      rw [request.check_of_not_enabled hdisabled]
    have hsame : SameBut [.assertionUses, .keys] p
        { p with log := p.log ++ [rejectionEvent tenantId request request.refusal] } :=
      (Touches.emit _).sameBut_run (run_emit _ p)
    rw [run_rejectRequest] at hrun
    cases hlocation : Redirect.loginError p.config.loginUrl tenantId request request.refusal with
    | ok location =>
      rw [hlocation] at hrun
      refine ⟨redirectTo location, _, ?_, hsame, .redirect hrequest hlocation⟩
      rw [run_answering, run_bind, hrun]
      rfl
    | error error =>
      rw [hlocation] at hrun
      refine ⟨errorResponse error, _, ?_, hsame, .error (isError_errorResponse error) ?_⟩
      · rw [run_answering, run_bind, hrun]
      · intro request' location _ hrequest' h
        obtain rfl := Option.some.inj (hrequest.symm.trans hrequest')
        rw [hlocation] at h
        cases h

end Http.Service

/-! ## Records -/

/-- A refresh grant that is handed out comes with tokens in its tenant, unless nothing changes
among the grants. -/
theorem answers_of_handedOut {a : Action} {g : RefreshGrant} (h : a.handedOut? p = some g) :
    (∃ response, Answers p g.tenantId response a) ∨
      (p.step a).store.refreshGrants = p.store.refreshGrants := by
  obtain ⟨response, hanswer, -⟩ := Option.bind_eq_some_iff.mp h
  rcases redeems_of_answer hanswer with ⟨c, hc⟩ | ⟨g', hg'⟩ | ⟨-, -, hsame⟩
  · obtain ⟨client, request, -, rfl, -⟩ := hc.redeems
    obtain ⟨-, htenant, -⟩ := handedOut?_of_issues hanswer hc.issues h
    rw [htenant]
    exact .inl ⟨response, .grant (answer?_grant.mp hanswer)⟩
  · obtain ⟨client, request, scope, rfl, -, -, hissues⟩ := hg'.redeems
    obtain ⟨-, htenant, -⟩ := handedOut?_of_issues hanswer hissues h
    rw [htenant]
    exact .inl ⟨response, .grant (answer?_grant.mp hanswer)⟩
  · exact .inr hsame

section

variable {a : Action} {response : TokenResponse}
  (hinactive : p.store.activeTenant? tenantId = none)

include hinactive

/-- No tokens are issued in the tenant, by whatever action. -/
theorem not_answers : ¬Answers p tenantId response a := by
  intro h
  obtain ⟨call, hcall, hserves⟩ := exists_serves h
  obtain ⟨q, client, k, hbefore, hpermits⟩ := hserves.exists_permits
  obtain ⟨tenant, htenant⟩ := hpermits.tenant
  rw [hcall, Store.tenant?, (hbefore.entities (by decide)).tenants] at htenant
  rw [Store.activeTenant?, Store.tenant?, Option.filter_eq_some_iff.mpr htenant] at hinactive
  cases hinactive

/-- A refresh grant in the tenant was there before. -/
theorem refreshGrants_of_inactive {token : String} {g : RefreshGrant}
    (h : (p.step a).store.refreshGrants.get? token = some g) (htenant : g.tenantId = tenantId) :
    p.store.refreshGrants.get? token = some g := by
  rcases refreshGrants_step h with hold | hstores
  · exact hold
  rcases hstores.source with ha | hhanded
  · subst ha htenant
    rcases hrun : (issueEndUser g.tenantId g.clientId g.userId g.scope g.refreshCount).run p with
      ⟨e | response, q⟩
    · rw [step, hrun] at h
      exact bringsNone_issueEndUser _ _ _ _ _ _ _ _ _ _ hrun h
    · exact absurd (.endUser (congrArg Prod.fst hrun)) (not_answers hinactive)
  · subst htenant
    rcases answers_of_handedOut hhanded with ⟨response, hanswers⟩ | hsame
    · exact absurd hanswers (not_answers hinactive)
    · exact hsame ▸ h

/-- A tenant that is not active and is enabled is marked for deletion. -/
theorem markedForDelete_of_enabled {t : Tenant} (h : p.store.tenant? tenantId = some t)
    (henabled : t.enabled = true) : t.markedForDelete = true := by
  rw [Store.activeTenant?, h, Option.filter_eq_none_iff] at hinactive
  have hnot := hinactive t rfl
  simpa [Tenant.isActive, henabled] using hnot

end

/-- A login in a tenant was begun before, or the tenant is enabled. -/
theorem pendingLogins_of_not_enabled {a : Action} {token : String} {pending : PendingLogin}
    (hdisabled : (p.store.tenant? tenantId).any Tenant.enabled = false)
    (h : (p.step a).store.pendingLogins.get? token = some pending)
    (htenant : pending.tenantId = tenantId) :
    p.store.pendingLogins.get? token = some pending := by
  rcases pendingLogins_step h with hold | hbegins
  · exact hold
  · obtain ⟨r, accepted, -, -, -, hcheck, -⟩ := hbegins.accepted
    obtain ⟨t, ht, henabled⟩ := AuthorizationRequest.exists_enabled_of_check hcheck
    rw [← htenant, ht, Option.any_some, henabled] at hdisabled
    cases hdisabled

/-- A code in a tenant was issued before, or it comes from a login in the tenant. -/
theorem codes_of_pendingLogins {a : Action} {code : String} {c : AuthorizationCode}
    (h : (p.step a).store.codes.get? code = some c) (htenant : c.tenantId = tenantId) :
    p.store.codes.get? code = some c ∨ ∃ pending userId, a = .completeLogin pending.token userId ∧
      p.store.pendingLogins.get? pending.token = some pending ∧ pending.tenantId = tenantId := by
  rcases codes_step h with hold | hissues
  · exact .inl hold
  · obtain ⟨pending, userId, location, ha, hcompletes, hc, -⟩ := hissues.completed
    rw [hc] at htenant
    exact .inr ⟨pending, userId, ha, (Records.find?_eq_some.mp hcompletes.held).1, htenant⟩

/-! ## The tenant is shut out -/

open Http Http.Service

/-- How a tenant is shut out. -/
structure Provider.ShutsOut (p : Provider) (tenantId : String) : Prop where
  /-- A request to the tenant is answered with an error, and creates no record. -/
  requests : ∀ r endpoint, r.GoesTo tenantId endpoint → endpoint ≠ .authorize →
    endpoint ≠ .userInfo → Concludes (answer r) p Response.IsError
  /-- A user's token that was issued before may be read, and this creates no record. -/
  userInfo : ∀ r, r.GoesTo tenantId .userInfo → Concludes (answer r) p fun _ => True
  /-- A request to begin a login is refused, and creates no record, if the tenant is not
  enabled. -/
  logins : (p.store.tenant? tenantId).any Tenant.enabled = false → ∀ r,
    r.GoesTo tenantId .authorize →
      Concludes (answer r) p (RefusesLogin p.config.loginUrl tenantId r)
  /-- No action brings a login in the tenant if this is not enabled. -/
  pendingLogins : (p.store.tenant? tenantId).any Tenant.enabled = false → ∀ a token pending,
    (p.step a).store.pendingLogins.get? token = some pending → pending.tenantId = tenantId →
      p.store.pendingLogins.get? token = some pending
  /-- If it is enabled, then it is marked for deletion, and the mark makes no difference to a
  request to begin a login. -/
  marked : ∀ t, p.store.tenant? tenantId = some t → t.enabled = true →
    t.markedForDelete = true ∧ ∀ (r : AuthorizationRequest) (marked : Bool),
      r.check { p.store with
          tenants := p.store.tenants.put { t with markedForDelete := marked } } tenantId
        = r.check p.store tenantId
  /-- A call that issues tokens in the tenant is refused, and changes nothing in the store. -/
  calls : ∀ call : IssueCall, call.tenantId = tenantId →
    ∃ e q, call.op.run p = (.error (.refused e), q) ∧ q.store = p.store
  /-- No action issues tokens in the tenant. -/
  tokens : ∀ a response, ¬Answers p tenantId response a
  /-- No action brings a refresh grant of the tenant. -/
  grants : ∀ a token g, (p.step a).store.refreshGrants.get? token = some g →
    g.tenantId = tenantId → p.store.refreshGrants.get? token = some g
  /-- Only the completion of a login that had begun brings a code of the tenant. -/
  codes : ∀ a code c, (p.step a).store.codes.get? code = some c → c.tenantId = tenantId →
    p.store.codes.get? code = some c ∨ ∃ pending userId,
      a = .completeLogin pending.token userId ∧
        p.store.pendingLogins.get? pending.token = some pending ∧ pending.tenantId = tenantId

/-- **Inactive tenants are refused.** A tenant that is missing, disabled or marked for deletion is
shut out: every endpoint of its clients answers with an error, no tokens are issued, and no
record is created. A login begins only if the tenant is enabled, and so marked for deletion; the
user is sent to the login page with an error if it is not. -/
theorem inactive_tenant_refused (hinactive : p.store.activeTenant? tenantId = none) :
    p.ShutsOut tenantId where
  requests r endpoint hto hauthorize huserInfo :=
    concludes_answer hto (fun _ _ => isError_of_status)
      fun _ => concludes_atTenant hinactive r hauthorize huserInfo
  userInfo r hto :=
    concludes_answer hto (fun _ _ _ => trivial) fun _ => concludes_userInfo tenantId r p
  logins hdisabled r hto := by
    refine concludes_answer hto (fun hmethod response hstatus => ?_)
      fun _ => concludes_authorize r hdisabled
    exact .error (isError_of_status hstatus) fun _ _ h => absurd h hmethod
  pendingLogins hdisabled a token pending := pendingLogins_of_not_enabled hdisabled
  marked t ht henabled :=
    ⟨markedForDelete_of_enabled hinactive ht henabled, fun r marked => r.check_mark ht marked⟩
  calls call hcall := by
    rcases ends_issue_refused hinactive call hcall with ⟨e, q, hrun, hsame, -⟩ | ⟨_, _, -, h⟩
    · exact ⟨e, q, hrun, hsame.store_eq⟩
    · exact h.elim
  tokens a response := not_answers hinactive
  grants a token g := refreshGrants_of_inactive hinactive
  codes a code c := codes_of_pendingLogins

namespace InactiveSample

/-- The tenant is marked for deletion, and stays enabled. -/
def marked : Provider :=
  { RefreshSample.provider with
    store := { RefreshSample.provider.store with
      tenants := Table.empty.put
        { Tenant.create "T1" LoginSample.now with markedForDelete := true } } }

end InactiveSample

open InactiveSample RefreshSample in
/-- A tenant that is enabled and marked for deletion gets a login, and no tokens for it. -/
theorem marked_tenant_gets_logins_only :
    marked.store.activeTenant? "T1" = none ∧
      (∃ pending location,
        ((authorize "T1" request).run marked).1 = .ok (.login pending location)) ∧
      (∀ a response, ¬Answers marked "T1" response a) ∧
      ∀ r, r.GoesTo "T1" .token → Concludes (answer r) marked Response.IsError := by
  have hinactive : marked.store.activeTenant? "T1" = none := rfl
  have hshut : marked.ShutsOut "T1" := inactive_tenant_refused hinactive
  have hlogin : LoginSample.isLogin ((authorize "T1" request).run marked).1 = true := by
    decide +kernel
  exact ⟨hinactive, LoginSample.exists_of_isLogin hlogin, hshut.tokens,
    fun r hto => hshut.requests r .token hto (by decide) (by decide)⟩

end OpenIdProvider
