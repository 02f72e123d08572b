import OpenIdProvider.Proofs.AnonymousUsers

/-!
# Responses agree with their tokens

What a response says of its tokens, the tokens say themselves (`TokenResponse.Agrees`): how long
they live, which scopes they have and whether there is an ID token. The claims of an access token
are fresh ones (`TokenClaims.AnswersTo`), with the personal data of an end user and with a scope;
an ID token has the same claims but for its identifier and the scope. Each issue has a lemma of
its own, and all tokens of a response name the key that signs (`response_agrees_with_tokens`).
-/

namespace OpenIdProvider

open Op Provider

variable {p q s : Provider} {call : IssueCall} {k : TokenKey} {c : TokenClaims}
  {r : TokenResponse} {ttl : Int}

/-! ## Claims of an access token -/

namespace TokenClaims

/-- Claims of a token that a call asks for, and that lives for some seconds. -/
structure AnswersTo (c : TokenClaims) (p : Provider) (call : IssueCall) (ttl : Int) : Prop where
  issuer_eq : c.issuer = p.config.issuer call.tenantId
  audience_eq : c.audience = .single call.clientId
  tenantId_eq : c.tenantId = call.tenantId
  clientId_eq : c.clientId = call.clientId
  tokenType_eq : c.tokenType = call.tokenType
  /-- The expiry is that many seconds after the issue, also from within a leap second. -/
  lifetime : 0 ≤ ttl → ttl = c.expiresAt - c.issuedAt
  inRange : c.InRange
  /-- Personal data are those of an end user. -/
  impersonal : call.tokenType ≠ .endUser → c.personalMembers = []

namespace AnswersTo

theorem of_freshClaims {subject : String} (hsame : SameBut [.keys] p s)
    (h : (freshClaims subject call.tenantId call.clientId call.tokenType ttl).run s = (.ok c, q)) :
    c.AnswersTo p call ttl := by
  obtain ⟨expiresAt, jti, hexpiry, rfl⟩ := freshClaims_eq_ok h
  refine ⟨?_, rfl, rfl, rfl, rfl, fun httl => ?_,
    ⟨expiresAt.isInt64_second, s.now.isInt64_second⟩, fun _ => rfl⟩
  · rw [← hsame.config]
    rfl
  · obtain ⟨d, hd, hadd⟩ := Option.bind_eq_some_iff.mp hexpiry
    have hsecond := Instant.second_of_add? httl hd hadd
    show ttl = expiresAt.second - s.now.second
    omega

theorem withUser (h : c.AnswersTo p call ttl) (htype : call.tokenType = .endUser) (u : User) :
    (c.withUser u).AnswersTo p call ttl :=
  { h with impersonal := fun hne => absurd htype hne }

theorem withScope (h : c.AnswersTo p call ttl) (scope : String) :
    (c.withScope scope).AnswersTo p call ttl :=
  { h with }

end AnswersTo

end TokenClaims

/-! ## Responses -/

/-- A response and its tokens agree, where `c` are the claims of the access token and `k` is the
key that signs. -/
structure TokenResponse.Agrees (r : TokenResponse) (p : Provider) (call : IssueCall)
    (k : TokenKey) (c : TokenClaims) : Prop where
  saidBy : c.SaidBy r.accessToken
  answersTo : c.AnswersTo p call r.expiresIn
  expiresIn_eq : ∃ client, p.store.enabledClient? call.tenantId call.clientId = some client ∧
    r.expiresIn = call.lifetime p client
  scope_eq : r.scope = c.scope
  current : (currentKey.run p).1 = .ok k
  /-- All signed tokens name the key, for RS256. -/
  named : ∀ token ∈ r.signedTokens, k.IsNamedBy token
  idToken_iff : r.idToken.isSome ↔ call.tokenType = .endUser ∧ c.hasScope Scope.openid = true
  /-- The ID token has an identifier of its own and no scope. -/
  idToken : ∀ token, r.idToken = some token →
    ∃ jti, TokenClaims.SaidBy { c with jti, scope := none } token
  refreshToken : call.tokenType ≠ .endUser → r.refreshToken = none

theorem TokenKey.IsNamedBy.of_signed {token : String}
    (h : (k.sign? c).map Jws.text = some token) : k.IsNamedBy token := by
  obtain ⟨t, ht, rfl⟩ := Option.map_eq_some_iff.mp h
  exact isNamedBy_of_sign? ht

/-- An answer with an access token alone agrees with it. -/
theorem TokenResponse.Agrees.bearer {token : String} {scope : Option String} {client : Client}
    (htype : call.tokenType ≠ .endUser)
    (hclient : p.store.enabledClient? call.tenantId call.clientId = some client)
    (httl : ttl = call.lifetime p client) (hk : (currentKey.run p).1 = .ok k)
    (hc : c.AnswersTo p call ttl) (hsign : (k.sign? c).map Jws.text = some token)
    (hscope : scope = c.scope) : (TokenResponse.bearer token ttl scope).Agrees p call k c where
  saidBy := .of_signed hsign hc.inRange
  answersTo := hc
  expiresIn_eq := ⟨client, hclient, httl⟩
  scope_eq := hscope
  current := hk
  named t ht := by
    obtain rfl : t = token := List.mem_singleton.mp ht
    exact .of_signed hsign
  idToken_iff := iff_of_false nofun fun h => htype h.1
  idToken := nofun
  refreshToken _ := rfl

/-! ## The three issues -/

section

variable {tenantId clientId : String}

theorem agrees_of_issueService {scope : Option String}
    (h : (issueService tenantId clientId scope).run p = (.ok r, q)) :
    ∃ k c, r.Agrees p (.service tenantId clientId scope) k c := by
  obtain ⟨client, granted, k, c, p₁, p₂, hclient, -, hk, hc, hsign, hr⟩ := steps_of_issueService h
  have hanswers : c.AnswersTo p (.service tenantId clientId scope) _ :=
    .of_freshClaims (touches_currentKey.sameBut_run hk) hc
  have htype : TokenType.serviceAccount ≠ .endUser := nofun
  refine ⟨k, c.withScope granted, ?_⟩
  rw [hr]
  exact .bearer htype hclient rfl (congrArg Prod.fst hk) (hanswers.withScope granted)
    (sign_eq_ok hsign) rfl

theorem agrees_of_issueAnonymous {callerToken : String}
    (h : (issueAnonymous tenantId clientId callerToken).run p = (.ok r, q)) :
    ∃ k c, r.Agrees p (.anonymous tenantId clientId callerToken) k c := by
  obtain ⟨client, caller, subject, k, c, p₁, p₂, p₃, p₄, p₅, hclient, hcaller, hk, hdrawn, hc,
    hsign, -, hr⟩ := steps_of_issueAnonymous h
  have hsame : SameBut [.keys] p p₃ := ((touches_anonymousCaller _ _).sameBut_run hcaller).trans <|
    (touches_currentKey.sameBut_run hk).trans (hdrawn.mono (List.nil_subset _))
  have hanswers : c.AnswersTo p (.anonymous tenantId clientId callerToken) _ :=
    .of_freshClaims hsame hc
  have hscope : c.scope = none := by
    obtain ⟨_, _, _, rfl⟩ := freshClaims_eq_ok hc
    rfl
  have htype : TokenType.anonymousUser ≠ .endUser := nofun
  refine ⟨k, c, ?_⟩
  rw [hr]
  refine .bearer htype hclient rfl ?_ hanswers (sign_eq_ok hsign) hscope.symm
  exact (currentKey_of_anonymousCaller hcaller).symm.trans (congrArg Prod.fst hk)

theorem agrees_of_issueEndUser {userId scope : String} {refreshCount : Nat}
    (h : (issueEndUser tenantId clientId userId scope refreshCount).run p = (.ok r, q)) :
    ∃ k c, r.Agrees p (.endUser tenantId clientId userId scope refreshCount) k c := by
  obtain ⟨client, user, k, c, p₁, p₂, p₃, p₄, hclient, -, hk, hc, hsign, hid, -, httl, hscope⟩ :=
    steps_of_issueEndUser h
  have hanswers : c.AnswersTo p (.endUser tenantId clientId userId scope refreshCount) _ :=
    .of_freshClaims (touches_currentKey.sameBut_run hk) hc
  have hanswers := (hanswers.withUser rfl user).withScope scope
  have hsigned := sign_eq_ok hsign
  obtain ⟨hid_iff, hid⟩ := idToken_eq_ok hid
  refine ⟨k, (c.withUser user).withScope scope, .of_signed hsigned hanswers.inRange,
    hanswers, ⟨client, hclient, httl⟩, hscope, congrArg Prod.fst hk, fun token htoken => ?_,
    hid_iff.trans (and_iff_right rfl).symm, fun token htoken => ?_, fun hne => absurd rfl hne⟩
  · rcases List.mem_cons.mp htoken with rfl | hmem
    · exact .of_signed hsigned
    · obtain ⟨jti, hsign⟩ := hid token (Option.mem_toList.mp hmem)
      exact .of_signed hsign
  · obtain ⟨jti, hsign⟩ := hid token htoken
    exact ⟨jti, .of_signed hsign hanswers.inRange⟩

end

/-- **Responses agree with their tokens.** When a call brings tokens, at whatever instant, the
response agrees with the claims of the access token and with the key that signs:

* the lifetime that it states is the one between the issue and the expiry of the access token,
  unless it is negative, and the scope that it states is that of the access token;
* both tokens name the current key, for RS256, and the claims name the issuer of the tenant and
  the client as the audience;
* there is an ID token exactly for an end user with the scope `openid`, with the claims of the
  access token but for its identifier and the scope;
* tokens that are not for an end user have no personal data, and no refresh token. -/
theorem response_agrees_with_tokens (h : call.op.run p = (.ok r, q)) :
    ∃ k c, r.Agrees p call k c := by
  cases call with
  | endUser => exact agrees_of_issueEndUser h
  | service => exact agrees_of_issueService h
  | anonymous => exact agrees_of_issueAnonymous h

/-- An end user gets an access token and an ID token that agree with the response. -/
theorem end_user_response_agrees : ∃ r q k c,
    (IssueCall.endUser "T1" "C1" "U1" "openid profile" 0).op.run RefreshSample.provider
      = (.ok r, q) ∧
    r.Agrees RefreshSample.provider (.endUser "T1" "C1" "U1" "openid profile" 0) k c ∧
    r.idToken.isSome ∧ r.expiresIn = c.expiresAt - c.issuedAt := by
  have hissued : (((IssueCall.endUser "T1" "C1" "U1" "openid profile" 0).op.run
      RefreshSample.provider).1.toOption.any fun r => r.idToken.isSome && r.expiresIn == 3600)
      = true := by
    decide +kernel
  rcases hrun : (IssueCall.endUser "T1" "C1" "U1" "openid profile" 0).op.run
      RefreshSample.provider with ⟨e | r, q⟩
  · rw [hrun] at hissued
    cases hissued
  · rw [hrun] at hissued
    simp only [Except.toOption, Option.any_some, Bool.and_eq_true, beq_iff_eq] at hissued
    obtain ⟨k, c, hagrees⟩ := response_agrees_with_tokens hrun
    exact ⟨r, q, k, c, rfl, hagrees, hissued.1, hagrees.answersTo.lifetime (by omega)⟩

end OpenIdProvider
