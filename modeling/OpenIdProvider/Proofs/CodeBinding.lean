import OpenIdProvider.Proofs.Handles
import OpenIdProvider.Proofs.Text

/-!
# What a code is bound to

Whoever redeems a code shows the client, the address and the secret of one request, and
gets the scopes of that request and the user of the login that answered it, no more.

* `Pkce.checkRedemption_eq_ok`: the verifiers that fit what a request sent;
* `Requested`, `LoggedIn`: what a login and a code say of the action that brought them;
* `redeemed_code_bound`: a code that is redeemed comes from one request and one login.
-/

namespace OpenIdProvider

open Op Provider

/-! ## Verifiers -/

namespace Pkce

/-- A verifier of the length and the characters that are allowed, which has a challenge. -/
structure Verifies (verifier challenge : String) : Prop where
  length_le : 43 ≤ verifier.length ∧ verifier.length ≤ 128
  unreserved : ∀ c ∈ verifier.toList, isUnreserved c
  challenge_eq : Pkce.challenge verifier = challenge

theorem utf8Size_of_isUnreserved {c : Char} (h : isUnreserved c) : c.utf8Size = 1 := by
  rw [Char.utf8Size_eq_one_iff, UInt32.le_iff_toNat_le]
  simp only [isUnreserved, Char.isAlphanum, Bool.or_eq_true, decide_eq_true_eq] at h
  rcases h with (((((h | h) | rfl) | rfl) | rfl) | rfl)
  · rcases Bool.or_eq_true_iff.mp h with h | h
    · have hupper : c.val ≤ 'Z'.val := (of_decide_eq_true h).2
      exact Nat.le_trans (UInt32.le_iff_toNat_le.mp hupper) (by decide)
    · have hlower : c.val ≤ 'z'.val := of_decide_eq_true (Bool.and_eq_true_iff.mp h).2
      exact Nat.le_trans (UInt32.le_iff_toNat_le.mp hlower) (by decide)
  · have hdigit : c.val ≤ '9'.val := of_decide_eq_true (Bool.and_eq_true_iff.mp h).2
    exact Nat.le_trans (UInt32.le_iff_toNat_le.mp hdigit) (by decide)
  all_goals decide

/-- Unreserved characters take one byte each. -/
theorem utf8ByteSize_of_unreserved {s : String} (h : ∀ c ∈ s.toList, isUnreserved c) :
    s.utf8ByteSize = s.length := by
  have hlist : ∀ cs : List Char, (∀ c ∈ cs, isUnreserved c) →
      (String.ofList cs).utf8ByteSize = cs.length := by
    intro cs hcs
    induction cs with
    | nil => rfl
    | cons c cs ih =>
      have hc := utf8Size_of_isUnreserved (hcs c List.mem_cons_self)
      have hrest := ih fun x hx => hcs x (List.mem_cons_of_mem _ hx)
      rw [← List.singleton_append, String.ofList_append, String.utf8ByteSize_append, hrest,
        ← String.singleton_eq_ofList, String.utf8ByteSize_singleton, hc, List.length_append]
      rfl
  have hs := hlist s.toList h
  rwa [String.ofList_toList, String.length_toList] at hs

theorem check_eq_ok {verifier codeChallenge : String} :
    check verifier codeChallenge = .ok () ↔ Verifies verifier codeChallenge := by
  rw [check]
  constructor
  · intro h
    split at h
    · cases h
    split at h
    · cases h
    split at h
    · cases h
    rename_i hlength hchars hchallenge
    have hunreserved : ∀ c ∈ verifier.toList, isUnreserved c := by simpa using hchars
    rw [utf8ByteSize_of_unreserved hunreserved] at hlength
    simp only [Bool.or_eq_true, decide_eq_true_eq] at hlength
    exact ⟨by omega, hunreserved, not_not.mp hchallenge⟩
  · rintro ⟨hlength, hunreserved, rfl⟩
    rw [utf8ByteSize_of_unreserved hunreserved, if_neg, if_neg, if_neg]
    · exact not_not.mpr rfl
    · simpa using hunreserved
    · simp only [Bool.or_eq_true, decide_eq_true_eq]
      omega

/-- What is sent when a code is redeemed fits what its request sent: a verifier for a
challenge, and none for none. -/
structure Fits (codeChallenge verifier : Option String) : Prop where
  verifies : ∀ challenge, codeChallenge = some challenge →
    ∃ v, verifier = some v ∧ Verifies v challenge
  absent : codeChallenge = none → verifier = none

theorem checkRedemption_eq_ok {codeChallenge method verifier : Option String}
    (hmethod : ∀ challenge, codeChallenge = some challenge → method = some s256) :
    checkRedemption codeChallenge method verifier = .ok () ↔ Fits codeChallenge verifier := by
  cases codeChallenge with
  | none =>
    cases verifier with
    | none => exact iff_of_true rfl ⟨nofun, fun _ => rfl⟩
    | some v => exact iff_of_false nofun fun h => absurd (h.absent rfl) nofun
  | some challenge =>
    rw [hmethod challenge rfl]
    cases verifier with
    | none => exact iff_of_false nofun fun h => by simpa using h.verifies challenge rfl
    | some v =>
      rw [checkRedemption, if_pos rfl, check_eq_ok]
      refine ⟨fun h => ⟨fun _ hc => ⟨v, rfl, Option.some.inj hc ▸ h⟩, nofun⟩, fun h => ?_⟩
      obtain ⟨w, hw, hverifies⟩ := h.verifies challenge rfl
      exact Option.some.inj hw ▸ hverifies

end Pkce

variable {p : Provider} {as : List Action}

/-! ## Where logins and codes come from -/

namespace Provider

/-- A login that is held in a run was begun in it. -/
theorem begins_of_pendingLogins (hlogins : p.store.pendingLogins = .empty) {token : String}
    {pending : PendingLogin}
    (h : (p.exec as).store.pendingLogins.get? token = some pending) :
    ∃ as₁ a as₂, as = as₁ ++ a :: as₂ ∧ Begins (p.exec as₁) a pending :=
  exists_origin (fun p pending => p.store.pendingLogins.get? token = some pending)
    (fun _ _ _ => pendingLogins_step) (fun _ h => by rw [hlogins] at h; cases h) h

/-- A code that is held in a run was issued in it. -/
theorem issues_of_codes (hcodes : p.store.codes = .empty) {code : String} {c : AuthorizationCode}
    (h : (p.exec as).store.codes.get? code = some c) :
    ∃ as₁ a as₂, as = as₁ ++ a :: as₂ ∧ Issues (p.exec as₁) a c :=
  exists_origin (fun p c => p.store.codes.get? code = some c)
    (fun _ _ _ => codes_step) (fun _ h => by rw [hcodes] at h; cases h) h

end Provider

/-! ## Binding -/

/-- A request to a tenant is accepted for a client and an address, and begins a login. -/
structure Requested (p : Provider) (tenantId clientId redirectUri : String)
    (r : AuthorizationRequest) (pending : PendingLogin) : Prop where
  accepted : ∃ a, r.check p.store tenantId = .ok a ∧ a.client.clientId = clientId ∧
    a.redirectUri = redirectUri
  client : r.clientId = some clientId
  address : r.redirectUri = some redirectUri
  begins : ∃ location, ((authorize tenantId r).run p).1 = .ok (.login pending location)

/-- An enabled user of a tenant completes a login before it expires, and is sent to the
client with a code. -/
structure LoggedIn (p : Provider) (tenantId userId : String) (pending : PendingLogin)
    (c : AuthorizationCode) : Prop where
  user : (p.store.enabledUser? tenantId userId).isSome
  inTime : p.now < pending.expiresAt
  completes : ∃ location, ((completeLogin pending.token userId).run p).1 = .ok location ∧
    Redirect.toClient c.redirectUri c.code pending.state pending.responseMode = .ok location
  stored : (p.step (.completeLogin pending.token userId)).store.codes.get? c.code = some c

/-- In every run from empty tables, a code that is redeemed for a client and an address
comes from a request for them that was accepted and from a login that answered it: of a
user who was enabled then, before the login expired. The code has not expired, it has the
scopes of the request and the user of the login, and the verifier fits the request. -/
theorem redeemed_code_bound {tenantId clientId code : String}
    {redirectUri verifier : Option String} {c : AuthorizationCode}
    (hlogins : p.store.pendingLogins = .empty) (hcodes : p.store.codes = .empty)
    (h : ((redeem tenantId clientId code redirectUri verifier).run (p.exec as)).1 = .ok c) :
    ∃ as₁ r as₂ pending as₃ q,
      as = as₁ ++ .authorize tenantId r :: as₂ ++ .completeLogin pending.token c.userId :: as₃ ∧
      q = p.exec (as₁ ++ .authorize tenantId r :: as₂) ∧
      redirectUri = some c.redirectUri ∧
      Requested (p.exec as₁) tenantId clientId c.redirectUri r pending ∧
      LoggedIn q tenantId c.userId pending c ∧
      (c.code = code ∧ c.tenantId = tenantId ∧ c.clientId = clientId) ∧
      (∃ scope, r.scope = some scope ∧ Scope.tokens c.scope = Scope.tokens scope) ∧
      (∃ t, (Span.ofSeconds? p.config.tokens.authorizationCodeTtl).bind q.now.add? = some t ∧
        (p.exec as).now < t) ∧
      Pkce.Fits r.challenge? verifier := by
  have hredeems := redeems_of_redeem h
  obtain ⟨hheld, hlater⟩ := Records.find?_eq_some.mp hredeems.held
  obtain ⟨bs, b, as₃, rfl, hissues⟩ := issues_of_codes hcodes hheld
  obtain ⟨pending, userId, location, rfl, hcompletes, hc, hrun⟩ := hissues.completed
  obtain ⟨hpending, hinTime⟩ := Records.find?_eq_some.mp hcompletes.held
  obtain ⟨as₁, a, as₂, rfl, hbegins⟩ := begins_of_pendingLogins hlogins hpending
  obtain ⟨r, a, t, login, rfl, hcheck, hbegun, hauthorize⟩ := hbegins.accepted
  have haccepted := AuthorizationRequest.accepted_of_check hcheck
  -- What the code says it has from the login, and what that says from the request.
  have huser : c.userId = userId := by rw [hc]; rfl
  have htenant : pending.tenantId = tenantId := by rw [← hredeems.tenant, hc]; rfl
  have hclient : a.client.clientId = clientId := by rw [← hredeems.client, hc, hbegun]; rfl
  have haddress : a.redirectUri = c.redirectUri := by rw [hc, hbegun]; rfl
  have hscope : c.scope = a.scope := by rw [hc, hbegun]; rfl
  have hchallenge : c.codeChallenge = r.challenge? := by rw [hc, hbegun]; rfl
  have hmethod : c.codeChallengeMethod = r.challengeMethod? := by rw [hc, hbegun]; rfl
  subst huser htenant
  have hsent : Redirect.toClient c.redirectUri c.code pending.state pending.responseMode
      = .ok location := by rw [hc]; exact hcompletes.sent
  refine ⟨as₁, r, as₂, pending, as₃, _, rfl, rfl, hredeems.address, ?_, ?_, ?_, ?_, ?_, ?_⟩
  · exact ⟨⟨a, hcheck, hclient, haddress⟩, hclient ▸ haccepted.clientId,
      haddress ▸ haccepted.redirectUri, login, hauthorize⟩
  · exact ⟨hcompletes.user, hinTime, ⟨location, hrun, hsent⟩, hissues.stored⟩
  · exact ⟨Table.key_of_get? hheld, hredeems.tenant, hredeems.client⟩
  · obtain ⟨scope, hr, ha⟩ := haccepted.scope
    exact ⟨scope, hr, by rw [hscope, ha, Scope.tokens, Scope.tokens, Text.words_unwords_words]⟩
  · exact ⟨c.expiresAt, by rw [← hcompletes.expiry, config_exec], hlater⟩
  · have hproof := hredeems.proof
    rw [hchallenge, hmethod] at hproof
    exact (Pkce.checkRedemption_eq_ok haccepted.method).mp hproof

section

open LoginSample

/-- The client gets the user who logged in and the scopes it asked for. -/
theorem code_bound_to_login :
    provider.store.pendingLogins = .empty ∧ provider.store.codes = .empty ∧
      ∃ c, ((redeem "T1" "C1" code (some redirectUri) (some verifier)).run
          (provider.exec [.authorize "T1" request, .completeLogin token "U1"])).1 = .ok c ∧
        c.userId = "U1" ∧ Scope.tokens c.scope = ["openid", "profile"] ∧
        Pkce.Verifies verifier (Pkce.challenge verifier) := by
  have hredeemed : ((redeem "T1" "C1" code (some redirectUri) (some verifier)).run
      (provider.exec [.authorize "T1" request, .completeLogin token "U1"])).1.isOk = true := by
    decide +kernel
  refine ⟨rfl, rfl, ?_⟩
  cases hrun : ((redeem "T1" "C1" code (some redirectUri) (some verifier)).run
      (provider.exec [.authorize "T1" request, .completeLogin token "U1"])).1 with
  | error e =>
    rw [hrun] at hredeemed
    cases hredeemed
  | ok c =>
    obtain ⟨as₁, r, as₂, pending, as₃, q, has, -, -, -, -, -, ⟨scope, hscope, htokens⟩, -, hfits⟩ :=
      redeemed_code_bound rfl rfl hrun
    have hr : Action.authorize "T1" r
        ∈ [Action.authorize "T1" request, .completeLogin token "U1"] := by rw [has]; simp
    have hu : Action.completeLogin pending.token c.userId
        ∈ [Action.authorize "T1" request, .completeLogin token "U1"] := by rw [has]; simp
    obtain rfl : r = request := by simpa using hr
    obtain ⟨-, huser⟩ : pending.token = token ∧ c.userId = "U1" := by simpa using hu
    obtain rfl := Option.some.inj hscope
    obtain ⟨v, hv, hverifies⟩ := hfits.verifies (Pkce.challenge verifier) (by decide +kernel)
    obtain rfl := Option.some.inj hv
    exact ⟨c, rfl, huser, htokens.trans (by decide +kernel), hverifies⟩

end

end OpenIdProvider
