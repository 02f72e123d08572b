import OpenIdProvider.Proofs.RefreshChain
import OpenIdProvider.Proofs.ScopeTokens

/-!
# Scopes never widen

The scopes of a code are those of the request that it answers, and they were allowed when
the request was accepted (`Provider.Originates`). Tokens for the code have its scopes, and
tokens for a refresh grant have the scopes of the grant or fewer (`scope_of_redeemsGrant`).
So every token that is issued for a code, or along its chain of refresh grants, has scopes
that the request asked for, and fewer and fewer of them (`scope_never_widens`).
-/

namespace OpenIdProvider

open Op Provider

variable {p q : Provider} {a : Action} {as : List Action} {code : String}

/-! ## Checks of scopes -/

/-- A refreshed grant has no other scopes than before. -/
theorem tokens_of_narrowedScope {g : RefreshGrant} {requested : Option String} {scope : String}
    (h : narrowedScope g requested = .ok scope) : Scope.tokens scope ⊆ Scope.tokens g.scope := by
  rw [narrowedScope] at h
  split at h
  · obtain rfl := Except.ok.inj h
    exact List.Subset.refl _
  · split at h
    · cases h
    · rename_i hnone
      obtain rfl := Except.ok.inj h
      rw [Scope.tokens_unwords]
      exact Scope.firstUnknown_eq_none.mp hnone

/-- A request that is accepted asks for scopes that its client may ask for. -/
theorem AuthorizationRequest.allowed_of_check {r : AuthorizationRequest} {s : Store}
    {tenantId : String} {accepted : AcceptedRequest} (h : r.check s tenantId = .ok accepted) :
    s.enabledClient? tenantId accepted.client.clientId = some accepted.client ∧
      ∀ scope, r.scope = some scope →
        Scope.tokens scope ⊆ Scope.allowed accepted.client (s.grantedScopes accepted.client) := by
  obtain ⟨scope, hscope, hclient, -, -, hallowed, -⟩ := check_eq_ok h
  refine ⟨(client?_eq_some hclient).2, fun scope' hscope' => ?_⟩
  obtain rfl := Option.some.inj (hscope'.symm.trans (Option.filter_eq_some_iff.mp hscope).1)
  exact Scope.firstUnknown_eq_none.mp hallowed

/-! ## The request of a code -/

/-- The request that a code answers, in a run: it was accepted for the client and the address
of the code, when its scopes were allowed, and the login that it began brought the code. -/
structure Provider.Originates (p : Provider) (as : List Action) (request : AuthorizationRequest)
    (c : AuthorizationCode) (scope : String) : Prop where
  asks : request.scope = some scope
  answered : ∃ as₁ as₂ pending as₃, as = as₁ ++ .authorize c.tenantId request :: as₂ ++
      .completeLogin pending.token c.userId :: as₃ ∧
    Requested (p.exec as₁) c.tenantId c.clientId c.redirectUri request pending ∧
    LoggedIn (p.exec (as₁ ++ .authorize c.tenantId request :: as₂)) c.tenantId c.userId pending c ∧
    ∃ client, (p.exec as₁).store.enabledClient? c.tenantId c.clientId = some client ∧
      Scope.tokens scope ⊆ Scope.allowed client ((p.exec as₁).store.grantedScopes client)

namespace Provider

theorem Originates.concat {request : AuthorizationRequest} {c : AuthorizationCode}
    {scope : String} (h : p.Originates as request c scope) (a : Action) :
    p.Originates (as ++ [a]) request c scope := by
  obtain ⟨as₁, as₂, pending, as₃, rfl, hrest⟩ := h.answered
  exact ⟨h.asks, as₁, as₂, pending, as₃ ++ [a], by simp, hrest⟩

/-- A code that is held in a run answers a request, and has its scopes. -/
theorem originates_of_codes (hlogins : p.store.pendingLogins = .empty)
    (hcodes : p.store.codes = .empty) {c : AuthorizationCode}
    (h : (p.exec as).store.codes.get? code = some c) :
    ∃ request scope, p.Originates as request c scope ∧
      Scope.tokens c.scope = Scope.tokens scope := by
  obtain ⟨bs, b, as₃, rfl, hissues⟩ := issues_of_codes hcodes h
  obtain ⟨pending, userId, location, rfl, hcompletes, hc, hrun⟩ := hissues.completed
  obtain ⟨hpending, hinTime⟩ := Records.find?_eq_some.mp hcompletes.held
  obtain ⟨as₁, a, as₂, rfl, hbegins⟩ := begins_of_pendingLogins hlogins hpending
  obtain ⟨request, accepted, t, login, rfl, hcheck, hbegun, hauthorize⟩ := hbegins.accepted
  have haccepted := AuthorizationRequest.accepted_of_check hcheck
  obtain ⟨hclient, hallowed⟩ := AuthorizationRequest.allowed_of_check hcheck
  obtain ⟨scope, hscope, hjoined⟩ := haccepted.scope
  -- What the code says it has from the login, and what that says from the request.
  have huser : c.userId = userId := by rw [hc]; rfl
  have htenant : c.tenantId = pending.tenantId := by rw [hc]; rfl
  have hclientId : c.clientId = accepted.client.clientId := by rw [hc, hbegun]; rfl
  have haddress : c.redirectUri = accepted.redirectUri := by rw [hc, hbegun]; rfl
  have hcode : c.scope = accepted.scope := by rw [hc, hbegun]; rfl
  have hsent : Redirect.toClient c.redirectUri c.code pending.state pending.responseMode
      = .ok location := by rw [hc]; exact hcompletes.sent
  subst huser
  refine ⟨request, scope, ⟨hscope, as₁, as₂, pending, as₃, ?_, ?_, ?_, ?_⟩, ?_⟩
  · rw [htenant]
  · rw [htenant, hclientId, haddress]
    exact ⟨⟨accepted, hcheck, rfl, rfl⟩, haccepted.clientId, haccepted.redirectUri, login,
      hauthorize⟩
  · rw [htenant]
    exact ⟨hcompletes.user, hinTime, ⟨location, hrun, hsent⟩, hissues.stored⟩
  · rw [htenant, hclientId]
    exact ⟨accepted.client, hclient, hallowed scope hscope⟩
  · rw [hcode, hjoined, Scope.tokens_unwords]

end Provider

/-! ## Scopes of an answer -/

/-- All scopes of an answer are among some: those that it states, those of its access token,
and those of the refresh grant that comes with it. -/
structure TokenResponse.Within (r : TokenResponse) (p : Provider) (a : Action)
    (allowed : List String) : Prop where
  stated : ∀ scope, r.scope = some scope → Scope.tokens scope ⊆ allowed
  signed : ∃ t c, Jws.ofText? r.accessToken = some t ∧
    t.readPayload TokenClaims.ofJson? = .ok c ∧ c.tokenType = .endUser ∧
    ∀ scope, c.scope = some scope → Scope.tokens scope ⊆ allowed
  stored : ∀ g, a.handedOut? p = some g → Scope.tokens g.scope ⊆ allowed

theorem TokenResponse.Within.mono {r : TokenResponse} {allowed allowed' : List String}
    (h : r.Within p a allowed) (hle : allowed ⊆ allowed') : r.Within p a allowed' := by
  obtain ⟨t, c, ht, hc, htype, hscope⟩ := h.signed
  exact ⟨fun s hs => List.Subset.trans (h.stated s hs) hle,
    ⟨t, c, ht, hc, htype, fun s hs => List.Subset.trans (hscope s hs) hle⟩,
    fun g hg => List.Subset.trans (h.stored g hg) hle⟩

/-- Tokens that are issued with a scope have its scopes. -/
theorem within_of_issues {r : TokenResponse} {kept : Records RefreshGrant}
    {tenantId clientId userId scope : String} {refreshCount : Nat}
    (hanswer : a.answer? p = some r)
    (h : p.IssuesTokens (p.step a) kept tenantId clientId userId scope refreshCount r) :
    r.Within p a (Scope.tokens scope) := by
  have hstated : ∀ s, r.scope = some s → Scope.tokens s ⊆ Scope.tokens scope := by
    intro s hs
    rw [h.carries.scope_eq] at hs
    split at hs
    · cases hs
    · rw [Option.some.inj hs]
      exact List.Subset.refl _
  refine ⟨hstated, ?_, fun g hg => ?_⟩
  · obtain ⟨k, c, htoken, hrange, htype, hscope⟩ := h.carries.signed
    obtain ⟨t, ht, htext⟩ := Option.map_eq_some_iff.mp htoken
    refine ⟨t, c, ?_, TokenClaims.readPayload_of_sign? ht hrange, htype, fun s hs => ?_⟩
    · rw [← htext]
      exact Jws.ofText?_of_create? ht
    · exact hstated s (hscope ▸ hs)
  · obtain ⟨-, -, -, -, hscope, -⟩ := handedOut?_of_issues hanswer h hg
    rw [hscope]
    exact List.Subset.refl _

theorem within_of_redeemsCode {c : AuthorizationCode} {r : TokenResponse}
    (h : RedeemsCode p a c r) : r.Within p a (Scope.tokens c.scope) :=
  within_of_issues h.answered h.issues

theorem within_of_redeemsGrant {g : RefreshGrant} {r : TokenResponse}
    (h : RedeemsGrant p a g r) : r.Within p a (Scope.tokens g.scope) := by
  obtain ⟨client, request, scope, -, -, hscope, hissues⟩ := h.redeems
  exact (within_of_issues h.answered hissues).mono (tokens_of_narrowedScope hscope)

/-! ## Scopes along a chain -/

/-- The scopes of the grants of a chain are among those of one request, and become fewer. -/
structure Chain.Narrows (p : Provider) (code : String) (as : List Action) (k : Chain) : Prop where
  origin : k.grants ≠ [] → ∃ request c scope, c.code = code ∧ p.Originates as request c scope ∧
    ∀ g ∈ k.grants, Scope.tokens g.scope ⊆ Scope.tokens scope
  shrinks : ∀ g ∈ k.grants, ∀ g' ∈ k.grants, g.refreshCount ≤ g'.refreshCount →
    Scope.tokens g'.scope ⊆ Scope.tokens g.scope

/-- The scopes of every chain become fewer. -/
theorem narrows_chain (hlogins : p.store.pendingLogins = .empty)
    (hcodes : p.store.codes = .empty) (hdistinct : p.DrawsDistinct (p.exec as).drawn)
    (code : String) : Chain.Narrows p code as (p.chain code as) := by
  induction as using List.reverseRecOn with
  | nil => exact ⟨fun h => absurd rfl h, fun g hg => absurd hg List.not_mem_nil⟩
  | append_singleton as a ih =>
    have hle := (sameBut_step (p.exec as) a).drawn
    rw [← exec_concat] at hle
    have hk := ih (hdistinct.mono hle)
    have hsound := sound_chain hcodes (hdistinct.mono hle) code
    rw [chain_concat]
    generalize p.chain code as = k at hk hsound ⊢
    rcases k.step_cases code (p.exec as) a with
      hsame | ⟨c, r, hc, rfl, hstep⟩ | ⟨g, r, hg, htoken, hstep⟩
    · rw [hsame]
      refine ⟨fun hne => ?_, hk.shrinks⟩
      obtain ⟨request, c, scope, hcode, horigin, hscopes⟩ := hk.origin hne
      exact ⟨request, c, scope, hcode, horigin.concat a, hscopes⟩
    · -- The chain begins, with the scopes of the code.
      have hnil := hsound.grants_eq_nil hc rfl
      obtain ⟨request, scope, horigin, hscope⟩ := originates_of_codes hlogins hcodes hc.held
      have hfirst : ∀ x ∈ k.grants ++ (a.handedOut? (p.exec as)).toList, x.scope = c.scope := by
        intro x hx
        rcases Chain.mem_handedOut.mp hx with hx | hx
        · rw [hnil] at hx
          cases hx
        · obtain ⟨-, -, -, -, hx, -⟩ := handedOut?_of_issues hc.answered hc.issues hx
          exact hx
      rw [hstep]
      refine ⟨fun _ => ⟨request, c, scope, rfl, horigin.concat a, fun x hx => ?_⟩,
        fun x hx x' hx' _ => ?_⟩
      · rw [hfirst x hx, hscope]
        exact List.Subset.refl _
      · rw [hfirst x hx, hfirst x' hx']
        exact List.Subset.refl _
    · obtain ⟨hmem, hcount, hlength⟩ := hsound.last_of_redeemsGrant hg htoken
      obtain ⟨_, _, scope', -, -, hscope', hissues⟩ := hg.redeems
      have hnew : ∀ x, a.handedOut? (p.exec as) = some x →
          Scope.tokens x.scope ⊆ Scope.tokens g.scope ∧ x.refreshCount = k.grants.length := by
        intro x hx
        obtain ⟨-, -, -, -, hx, hcount'⟩ := handedOut?_of_issues hg.answered hissues hx
        rw [hx, hcount', hcount, hlength]
        exact ⟨tokens_of_narrowedScope hscope', rfl⟩
      -- The grant that is redeemed has the fewest scopes so far.
      have hleast : ∀ x ∈ k.grants, Scope.tokens g.scope ⊆ Scope.tokens x.scope := by
        intro x hx
        have hlt := hsound.count_lt hx
        exact hk.shrinks x hx g hmem (by omega)
      rw [hstep]
      refine ⟨fun _ => ?_, fun x hx x' hx' hcounts => ?_⟩
      · obtain ⟨request, c, scope, hcode, horigin, hscopes⟩ := hk.origin (List.ne_nil_of_mem hmem)
        refine ⟨request, c, scope, hcode, horigin.concat a, fun x hx => ?_⟩
        rcases Chain.mem_handedOut.mp hx with hx | hx
        · exact hscopes x hx
        · exact List.Subset.trans (hnew x hx).1 (hscopes g hmem)
      · rcases Chain.mem_handedOut.mp hx with hold | hx <;>
          rcases Chain.mem_handedOut.mp hx' with hold' | hx'
        · exact hk.shrinks x hold x' hold' hcounts
        · exact List.Subset.trans (hnew x' hx').1 (hleast x hold)
        · have hlt := hsound.count_lt hold'
          rw [(hnew x hx).2] at hcounts
          omega
        · obtain rfl := Option.some.inj (hx.symm.trans hx')
          exact List.Subset.refl _

/-- Unless tokens are issued at the mere word of someone, every refresh grant descends from a
code. -/
theorem exists_chain (hgrants : p.store.refreshGrants = .empty)
    (hdirect : ∀ tenantId clientId userId scope n,
      Action.issueEndUser tenantId clientId userId scope n ∉ as) {token : String}
    {g : RefreshGrant} (h : (p.exec as).store.refreshGrants.get? token = some g) :
    ∃ code, g ∈ (p.chain code as).grants := by
  induction as using List.reverseRecOn generalizing token g with
  | nil =>
    rw [exec_nil, hgrants] at h
    cases h
  | append_singleton as a ih =>
    have hbefore : ∀ {token : String} {g : RefreshGrant},
        (p.exec as).store.refreshGrants.get? token = some g →
          ∃ code, g ∈ (p.chain code as).grants :=
      ih fun _ _ _ _ _ hmem => hdirect _ _ _ _ _ (List.mem_append_left _ hmem)
    simp only [chain_concat]
    rw [exec_concat] at h
    have hkeep : (p.exec as).store.refreshGrants.get? token = some g →
        ∃ code, g ∈ ((p.chain code as).step code (p.exec as) a).grants := by
      intro hheld
      obtain ⟨code, hg⟩ := hbefore hheld
      exact ⟨code, Chain.grants_subset_step code _ _ _ hg⟩
    rcases refreshGrants_step h with hheld | hstores
    · exact hkeep hheld
    rcases hstores.source with rfl | hout
    · exact absurd (List.mem_append_right _ List.mem_cons_self) (hdirect _ _ _ _ _)
    -- The grant comes with the answer to a token request, and joins the chain of that.
    obtain ⟨r, hanswer, -⟩ := Option.bind_eq_some_iff.mp hout
    rcases redeems_of_answer hanswer with ⟨c, hc⟩ | ⟨g', hg'⟩ | ⟨-, -, hsame⟩
    · refine ⟨c.code, ?_⟩
      rw [Chain.step_of_redeemsCode hc]
      exact Chain.mem_handedOut.mpr (.inr hout)
    · obtain ⟨code, hmem⟩ := hbefore hg'.get?_eq
      refine ⟨code, ?_⟩
      rw [Chain.step_of_redeemsGrant hg' (List.mem_map_of_mem hmem)]
      exact Chain.mem_handedOut.mpr (.inr hout)
    · rw [hsame] at h
      exact hkeep h

/-- In every run from empty tables in which the handles that are drawn are all different, when
a token request is answered with `r`:

* for a code, or for a refresh token that descends from it, there is a request that the code
  answers, and all scopes of the answer, and of the refresh grants so far, are among those that
  it asked for, which its client was allowed to ask for then;
* for a refresh token, all scopes of the answer are among those of its refresh grant;
* a refresh grant that comes later in a chain has no other scopes than one that came before;
* unless tokens were issued at the mere word of someone, every refresh token descends from a
  code. -/
theorem scope_never_widens (hlogins : p.store.pendingLogins = .empty)
    (hcodes : p.store.codes = .empty) (hgrants : p.store.refreshGrants = .empty)
    (hdistinct : p.DrawsDistinct (p.exec as).drawn) {r : TokenResponse}
    (hanswer : a.answer? (p.exec as) = some r) :
    (∀ code, (a.presentedCode? = some code ∨
        ∃ token ∈ (p.chain code as).tokens, a.presentedGrant? = some token) →
      ∃ request c scope, c.code = code ∧ p.Originates as request c scope ∧
        r.Within (p.exec as) a (Scope.tokens scope) ∧
        ∀ g ∈ (p.chain code as).grants, Scope.tokens g.scope ⊆ Scope.tokens scope) ∧
    (∀ token, a.presentedGrant? = some token →
      ∃ g, (p.exec as).store.refreshGrants.get? token = some g ∧
        r.Within (p.exec as) a (Scope.tokens g.scope)) ∧
    (∀ code, ∀ g ∈ (p.chain code as).grants, ∀ g' ∈ (p.chain code as).grants,
      g.refreshCount ≤ g'.refreshCount → Scope.tokens g'.scope ⊆ Scope.tokens g.scope) ∧
    ((∀ tenantId clientId userId scope n,
        Action.issueEndUser tenantId clientId userId scope n ∉ as) →
      ∀ token, a.presentedGrant? = some token → ∃ code, token ∈ (p.chain code as).tokens) := by
  have hnarrows := narrows_chain hlogins hcodes hdistinct
  have hsound := sound_chain hcodes hdistinct
  refine ⟨?_, ?_, fun code => (hnarrows code).shrinks, ?_⟩
  · rintro code (hcode | ⟨token, htoken, hpresented⟩)
    · rcases redeems_of_answer hanswer with ⟨c, hc⟩ | ⟨g, hg⟩ | ⟨hnone, -, -⟩
      · obtain rfl := Option.some.inj (hc.presented.1.symm.trans hcode)
        obtain ⟨request, scope, horigin, hscope⟩ := originates_of_codes hlogins hcodes hc.held
        refine ⟨request, c, scope, rfl, horigin, hscope ▸ within_of_redeemsCode hc, ?_⟩
        rw [(hsound c.code).grants_eq_nil hc rfl]
        exact fun g hg => absurd hg List.not_mem_nil
      · rw [hg.presented.2] at hcode
        cases hcode
      · rw [hnone] at hcode
        cases hcode
    · obtain ⟨g, hg, rfl⟩ := redeemed_of_answer hanswer hpresented
      obtain ⟨hmem, -, -⟩ := (hsound code).last_of_redeemsGrant hg htoken
      obtain ⟨request, c, scope, hcode, horigin, hscopes⟩ :=
        (hnarrows code).origin (List.ne_nil_of_mem hmem)
      exact ⟨request, c, scope, hcode, horigin,
        (within_of_redeemsGrant hg).mono (hscopes g hmem), hscopes⟩
  · intro token hpresented
    obtain ⟨g, hg, rfl⟩ := redeemed_of_answer hanswer hpresented
    exact ⟨g, hg.get?_eq, within_of_redeemsGrant hg⟩
  · intro hdirect token hpresented
    obtain ⟨g, hg, rfl⟩ := redeemed_of_answer hanswer hpresented
    obtain ⟨code, hmem⟩ := exists_chain hgrants hdirect hg.get?_eq
    exact ⟨code, List.mem_map_of_mem hmem⟩

section

open RefreshSample

/-- The client gets no other scopes than it asked for, also when it refreshes its tokens. -/
theorem refreshed_scopes_requested :
    provider.store.pendingLogins = .empty ∧ provider.store.codes = .empty ∧
      provider.store.refreshGrants = .empty ∧
      provider.DrawsDistinct (provider.exec opening).drawn ∧
      ∃ r, refresh.answer? (provider.exec opening) = some r ∧
        r.Within (provider.exec opening) refresh ["openid", "profile"] := by
  have hlogins : provider.store.pendingLogins = .empty := rfl
  have hcodes : provider.store.codes = .empty := rfl
  have hgrants : provider.store.refreshGrants = .empty := rfl
  have hdistinct : provider.DrawsDistinct (provider.exec opening).drawn :=
    drawsDistinct (by decide +kernel)
  have hanswered : (refresh.answer? (provider.exec opening)).isSome = true := by decide +kernel
  obtain ⟨r, hanswer⟩ := Option.isSome_iff_exists.mp hanswered
  have htoken : token ∈ (provider.chain RefreshSample.code opening).tokens := by
    decide +kernel
  obtain ⟨request, c, scope, -, horigin, hwithin, -⟩ :=
    (scope_never_widens hlogins hcodes hgrants hdistinct hanswer).1 RefreshSample.code
      (.inr ⟨token, htoken, rfl⟩)
  obtain ⟨as₁, as₂, pending, as₃, hrun, -⟩ := horigin.answered
  have hmem : Action.authorize c.tenantId request ∈ opening := by
    rw [hrun]
    simp
  obtain ⟨-, rfl⟩ : c.tenantId = "T1" ∧ request = RefreshSample.request := by
    simpa [opening] using hmem
  obtain rfl := Option.some.inj horigin.asks
  have htokens : Scope.tokens " openid  profile" = ["openid", "profile"] := by decide +kernel
  exact ⟨hlogins, hcodes, hgrants, hdistinct, r, hanswer, htokens ▸ hwithin⟩

end

end OpenIdProvider
