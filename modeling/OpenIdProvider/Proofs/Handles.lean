import OpenIdProvider.Proofs.Login

/-!
# Handles are used once

The handle of a login and a code leave their tables when they are presented, and nothing
brings a handle back that was drawn before. So no handle is of any use after the first
attempt with it, whether that succeeded or not (`handles_single_use`), as long as the
handles that are drawn are all different (`Provider.DrawsDistinct`).

What a single action brings into the tables is `Begins` and `Issues`; `pendingLogins_step`
and `codes_step` say that it brings nothing else.
-/

namespace OpenIdProvider

open Op Provider

variable {p q : Provider} {a : Action} {as : List Action}

/-! ## What an action brings -/

/-- An action that begins a login: the request for it is accepted. -/
structure Begins (p : Provider) (a : Action) (pending : PendingLogin) : Prop where
  accepted : ∃ r accepted expiresAt location, a = .authorize pending.tenantId r ∧
    r.check p.store pending.tenantId = .ok accepted ∧
    pending = p.pendingLogin pending.tenantId r accepted expiresAt ∧
    ((authorize pending.tenantId r).run p).1 = .ok (.login pending location)
  drawn : (p.step a).drawn = p.drawn + 1

/-- An action that issues a code: the completion of a login. -/
structure Issues (p : Provider) (a : Action) (c : AuthorizationCode) : Prop where
  completed : ∃ pending userId location, a = .completeLogin pending.token userId ∧
    Completes p pending userId c.expiresAt location ∧
    c = p.issuedCode pending userId c.expiresAt ∧
    ((completeLogin pending.token userId).run p).1 = .ok location
  stored : (p.step a).store.codes.get? c.code = some c
  drawn : (p.step a).drawn = p.drawn + 1

theorem Begins.token_eq {pending : PendingLogin} (h : Begins p a pending) :
    pending.token = handleText (p.random p.drawn) := by
  obtain ⟨r, accepted, t, location, -, -, hpending, -⟩ := h.accepted
  rw [hpending, Provider.pendingLogin]

theorem Issues.code_eq {c : AuthorizationCode} (h : Issues p a c) :
    c.code = handleText (p.random p.drawn) := by
  obtain ⟨pending, userId, location, -, -, hc, -⟩ := h.completed
  rw [hc, Provider.issuedCode]

/-- The code that a token request presents, if it gets to that. -/
def TokenRequest.presentedCode? (r : TokenRequest) : Option String :=
  if r.grantType = "authorization_code" then r.redirectUri.bind fun _ => r.code else none

/-- The code that an action presents. -/
def Action.presentedCode? : Action → Option String
  | redeem _ _ code _ _ => some code
  | grant _ _ r => r.presentedCode?
  | _ => none

namespace Op

theorem presentedCode?_of_authorizationCode {r : TokenRequest}
    (h : GrantType.ofName? r.grantType = some .authorizationCode) :
    r.presentedCode? = r.redirectUri.bind fun _ => r.code := by
  rw [GrantType.ofName?] at h
  have hname := List.find?_some h
  have heq : r.grantType = "authorization_code" := (beq_iff_eq.mp hname).symm
  rw [TokenRequest.presentedCode?, if_pos heq]

theorem presentedCode?_of_ne_authorizationCode {r : TokenRequest}
    (h : GrantType.ofName? r.grantType ≠ some .authorizationCode) : r.presentedCode? = none := by
  rw [TokenRequest.presentedCode?, if_neg]
  intro he
  exact h (by rw [he]; rfl)

theorem codes_grantForCode (tenantId : String) (client : Client) (r : TokenRequest)
    (p : Provider) : ((grantForCode tenantId client r).run p).2.store.codes
      = match r.redirectUri.bind fun _ => r.code with
        | some code => p.store.codes.erase code
        | none => p.store.codes := by
  rw [grantForCode, run_bind, run_orRefuse]
  cases r.code with
  | none => cases r.redirectUri <;> rfl
  | some code =>
    dsimp only
    rw [run_bind, run_orRefuse]
    cases r.redirectUri with
    | none => rfl
    | some redirectUri =>
      exact ((Touches.sameBut_bind [.refreshGrants, .keys] _
        (fun c => touches_issueEndUser _ _ _ _ _) p).codes (by decide)).trans (codes_redeem ..)

/-- A token request takes the code that it presents from the table, and no other. -/
theorem codes_grant (tenantId : String) (client : Client) (r : TokenRequest) (p : Provider) :
    ((grant tenantId client r).run p).2.store.codes = match r.presentedCode? with
      | some code => p.store.codes.erase code
      | none => p.store.codes := by
  rw [grant, run_bind, run_orRefuse]
  cases hg : GrantType.ofName? r.grantType with
  | none =>
    rw [presentedCode?_of_ne_authorizationCode (by rw [hg]; nofun)]
  | some g =>
    have hrest : ∀ f : TokenResponse → Op TokenResponse, (∀ x, Touches [] (f x)) →
        ∀ h : Fault → Op TokenResponse, (∀ e, Touches [] (h e)) →
        ((tryCatch (grantFor g tenantId client r) h >>= f).run p).2.store.codes
          = ((grantFor g tenantId client r).run p).2.store.codes := fun f hf h hh =>
      ((Touches.sameBut_bind _ _ hf p).codes (by decide)).trans
        ((Touches.sameBut_tryCatch _ _ hh p).codes (by decide))
    refine (hrest _ (fun x => .bind (.emit _) fun _ => .pure _) _ fun e => ?_).trans ?_
    · cases e with
      | refused e => exact .bind (.emit _) fun _ => .refuse _
      | outOfRange => exact .throw _
    · cases g with
      | authorizationCode =>
        rw [presentedCode?_of_authorizationCode hg]
        exact codes_grantForCode ..
      | refreshToken =>
        rw [presentedCode?_of_ne_authorizationCode (by rw [hg]; nofun)]
        exact (touches_grantForRefresh _ _ _ p).codes (by decide)
      | clientCredentials =>
        rw [presentedCode?_of_ne_authorizationCode (by rw [hg]; nofun)]
        exact (touches_issueService _ _ _ p).codes (by decide)

end Op

namespace Provider

/-- The login of a handle was there before, or the action began it. -/
theorem pendingLogins_step {token : String} {pending : PendingLogin}
    (h : (p.step a).store.pendingLogins.get? token = some pending) :
    p.store.pendingLogins.get? token = some pending ∨ Begins p a pending := by
  have hsame := (sameBut_step p a).pendingLogins
  cases a with
  | authorize tenantId r =>
    rcases run_authorize p tenantId r with
      ⟨x, q, hrun, -, hq⟩ | ⟨accepted, t, location, q, haccepted, hrun, hcreate, hdrawn⟩
    · rw [step, hrun, hq] at h
      exact .inl h
    · rw [step, hrun, Records.get?_of_create hcreate] at h
      split at h
      · obtain rfl := Option.some.inj h
        refine .inr ⟨⟨r, accepted, t, location, rfl, haccepted, rfl, ?_⟩, ?_⟩
        · rw [show (p.pendingLogin tenantId r accepted t).tenantId = tenantId from rfl, hrun]
        · rw [step, hrun, hdrawn]
      · exact .inl h
  | completeLogin token' userId =>
    rw [step, pendingLogins_completeLogin, Table.get?_erase] at h
    split at h
    · cases h
    · exact .inl h
  | purge => exact .inl (Records.get?_purge_eq_some.mp h).1
  | _ => exact .inl (hsame (by simp [Action.parts]) ▸ h)

/-- A code that an action presents leaves the table. -/
theorem codes_of_presentedCode {code : String} (h : a.presentedCode? = some code) :
    (p.step a).store.codes = p.store.codes.erase code := by
  cases a with
  | redeem tenantId clientId code' redirectUri verifier =>
    obtain rfl := Option.some.inj h
    exact codes_redeem ..
  | grant tenantId client r =>
    have hgrant := codes_grant tenantId client r p
    rw [show r.presentedCode? = some code from h] at hgrant
    exact hgrant
  | _ => cases h

/-- A code was there before, or the action issued it. -/
theorem codes_step {code : String} {c : AuthorizationCode}
    (h : (p.step a).store.codes.get? code = some c) :
    p.store.codes.get? code = some c ∨ Issues p a c := by
  cases hcode : a.presentedCode? with
  | some taken =>
    rw [codes_of_presentedCode hcode, Table.get?_erase] at h
    split at h
    · cases h
    · exact .inl h
  | none =>
    have hsame := (sameBut_step p a).codes
    cases a with
    | completeLogin token userId =>
      rcases run_completeLogin p token userId with
        ⟨e, q, hrun, hq⟩ | ⟨pending, t, location, q, rfl, hcompletes, hrun, hcreate, hdrawn⟩
      · rw [step, hrun, hq] at h
        exact .inl h
      · have hstored := h
        obtain rfl := Table.key_of_get? h
        rw [step, hrun, Records.get?_of_create hcreate] at h
        split at h
        · obtain rfl := Option.some.inj h
          exact .inr ⟨⟨pending, userId, location, rfl, hcompletes, rfl, by rw [hrun]⟩,
            hstored, by rw [step, hrun, hdrawn]⟩
        · exact .inl h
    | redeem tenantId clientId code' redirectUri verifier => cases hcode
    | grant tenantId client r =>
      have hgrant := codes_grant tenantId client r p
      rw [show r.presentedCode? = none from hcode] at hgrant
      rw [step, hgrant] at h
      exact .inl h
    | purge => exact .inl (Records.get?_purge_eq_some.mp h).1
    | _ => exact .inl (hsame (by simp [Action.parts]) ▸ h)

/-! ## Handles are new -/

/-- The handles that are drawn until `count` values are drawn are all different. -/
def DrawsDistinct (p : Provider) (count : Nat) : Prop :=
  ∀ i j, p.drawn ≤ i → i < j → j < count → handleText (p.random i) ≠ handleText (p.random j)

/-- Whether a login has a handle, expired or not. -/
def HoldsLogin (p : Provider) (token : String) : Prop :=
  ∃ pending, p.store.pendingLogins.get? token = some pending

/-- Whether a code is kept, expired or not. -/
def HoldsCode (p : Provider) (code : String) : Prop :=
  ∃ c, p.store.codes.get? code = some c

theorem holdsLogin_step {token : String} (h : (p.step a).HoldsLogin token) :
    p.HoldsLogin token ∨
      (token = handleText (p.random p.drawn) ∧ (p.step a).drawn = p.drawn + 1) := by
  obtain ⟨pending, h⟩ := h
  rcases pendingLogins_step h with h' | hbegins
  · exact .inl ⟨pending, h'⟩
  · exact .inr ⟨(Table.key_of_get? h).symm.trans hbegins.token_eq, hbegins.drawn⟩

theorem holdsCode_step {code : String} (h : (p.step a).HoldsCode code) :
    p.HoldsCode code ∨
      (code = handleText (p.random p.drawn) ∧ (p.step a).drawn = p.drawn + 1) := by
  obtain ⟨c, h⟩ := h
  rcases codes_step h with h' | hissues
  · exact .inl ⟨c, h'⟩
  · exact .inr ⟨(Table.key_of_get? h).symm.trans hissues.code_eq, hissues.drawn⟩

theorem find?_of_not_holdsLogin {token : String} (h : ¬ p.HoldsLogin token) (now : Instant) :
    p.store.pendingLogins.find? now token = none := by
  cases hget : p.store.pendingLogins.get? token with
  | none => rw [Records.find?, hget, Option.filter_none]
  | some pending => exact absurd ⟨pending, hget⟩ h

theorem find?_of_not_holdsCode {code : String} (h : ¬ p.HoldsCode code) (now : Instant) :
    p.store.codes.find? now code = none := by
  cases hget : p.store.codes.get? code with
  | none => rw [Records.find?, hget, Option.filter_none]
  | some c => exact absurd ⟨c, hget⟩ h

/-- A handle was drawn between two states. -/
def Drew (p q : Provider) (handle : String) : Prop :=
  ∃ i, p.drawn ≤ i ∧ i < q.drawn ∧ handle = handleText (p.random i)

theorem DrawsDistinct.mono {m n : Nat} (h : p.DrawsDistinct n) (hle : m ≤ n) :
    p.DrawsDistinct m :=
  fun i j hi hij hj => h i j hi hij (Nat.lt_of_lt_of_le hj hle)

theorem Drew.mono {p' q' : Provider} {handle : String} (h : p.Drew q handle)
    (hrandom : p.random = p'.random) (hbegin : p'.drawn ≤ p.drawn) (hend : q.drawn ≤ q'.drawn) :
    p'.Drew q' handle := by
  obtain ⟨i, hi, hq, rfl⟩ := h
  exact ⟨i, Nat.le_trans hbegin hi, Nat.lt_of_lt_of_le hq hend, by rw [hrandom]⟩

/-- A handle is not drawn again after it was drawn. -/
theorem Drew.not_drew {r : Provider} {handle : String} (h : p.Drew q handle)
    (hrandom : q.random = p.random) (hdistinct : p.DrawsDistinct r.drawn) :
    ¬ q.Drew r handle := by
  rintro ⟨j, hj, hr, heq⟩
  obtain ⟨i, hi, hq, rfl⟩ := h
  rw [hrandom] at heq
  exact hdistinct i j hi (Nat.lt_of_lt_of_le hq hj) hr heq

/-- What holds of a handle after a run held ever since the handle was drawn, if an action
brings it about for no handles but those that it draws. -/
theorem holds_of_exec (holds : Provider → String → Prop)
    (hstep : ∀ q a handle, holds (q.step a) handle → holds q handle ∨ q.Drew (q.step a) handle)
    {handle : String} (hdrew : p.Drew q handle) (hrandom : q.random = p.random)
    (hdistinct : p.DrawsDistinct (q.exec as).drawn) (h : holds (q.exec as) handle) :
    holds q handle := by
  induction as using List.reverseRecOn with
  | nil => exact h
  | append_singleton as a ih =>
    rw [exec_concat] at h hdistinct
    have hle := (sameBut_step (q.exec as) a).drawn
    rcases hstep _ _ _ h with h | hagain
    · exact ih (hdistinct.mono hle) h
    · have hrandom' : (q.exec as).random = p.random := (random_exec q as).trans hrandom
      have hdrew' : p.Drew (q.exec as) handle :=
        hdrew.mono rfl (Nat.le_refl _) (drawn_le_exec q as)
      exact absurd hagain (hdrew'.not_drew hrandom' hdistinct)

/-- What a handle once lost is not brought back by a run, if an action brings a handle only
by drawing it. -/
theorem not_holds_exec {holds : Provider → String → Prop}
    (hstep : ∀ q a handle, holds (q.step a) handle →
      holds q handle ∨ (handle = handleText (q.random q.drawn) ∧ (q.step a).drawn = q.drawn + 1))
    {i : Nat} (hi : p.drawn ≤ i) (hq : i < q.drawn) (hrandom : q.random = p.random)
    (hdistinct : p.DrawsDistinct (q.exec as).drawn) (h : ¬ holds q (handleText (p.random i))) :
    ¬ holds (q.exec as) (handleText (p.random i)) := by
  refine fun hholds => h (holds_of_exec holds (fun q a handle hstep' => ?_) ⟨i, hi, hq, rfl⟩
    hrandom hdistinct hholds)
  exact (hstep q a handle hstep').imp_right fun ⟨heq, hdrawn⟩ =>
    ⟨q.drawn, Nat.le_refl _, hdrawn ▸ Nat.lt_succ_self _, heq⟩

end Provider

/-! ## What a success brings -/

/-- A request that begins a login is one that gives its handle away. -/
theorem begins_of_authorize {tenantId : String} {r : AuthorizationRequest}
    {pending : PendingLogin} {location : Url}
    (h : ((authorize tenantId r).run p).1 = .ok (.login pending location)) :
    Begins p (.authorize tenantId r) pending := by
  rcases run_authorize p tenantId r with
    ⟨x, q, hrun, hx, -⟩ | ⟨accepted, t, location', q, haccepted, hrun, -, hdrawn⟩
  · rw [hrun] at h
    exact absurd h (hx pending location)
  · obtain ⟨rfl, rfl⟩ : p.pendingLogin tenantId r accepted t = pending ∧ location' = location := by
      rw [hrun] at h
      simpa using h
    exact ⟨⟨r, accepted, t, location', rfl, haccepted, rfl, h⟩, by rw [step, hrun, hdrawn]⟩

/-- A completion that sends the user to the client issues a code. -/
theorem issues_of_completeLogin {token userId : String} {location : Url}
    (h : ((completeLogin token userId).run p).1 = .ok location) :
    ∃ c, Issues p (.completeLogin token userId) c := by
  rcases run_completeLogin p token userId with
    ⟨e, q, hrun, -⟩ | ⟨pending, t, location', q, rfl, hcompletes, hrun, hcreate, hdrawn⟩
  · rw [hrun] at h
    cases h
  · refine ⟨p.issuedCode pending userId t, ⟨pending, userId, location', rfl, hcompletes, rfl,
      by rw [hrun]⟩, ?_, by rw [step, hrun, hdrawn]⟩
    rw [step, hrun, Records.get?_of_create hcreate]
    exact if_pos rfl

/-! ## A login to run -/

namespace LoginSample

/-- The start of 2024. -/
def now : Instant := ⟨1704067200, 0, by omega, by omega, .inl (by decide)⟩

/-- The address of a client on the user's own machine. -/
def redirectUri : String := "com.example.app:/callback"

/-- A provider with one tenant, one client, which has to use PKCE, and one user. -/
def provider : Provider where
  config := { Config.standard with loginUrl := "com.example.login:/start" }
  grace := ⟨0⟩
  now := now
  store := { Store.empty with
    tenants := Table.empty.put (Tenant.create "T1" now)
    clients := Table.empty.put
      { Client.create "C1" "secret-C1" "T1" .standard now with
        pkceEnabled := true, redirectUris := .ofList [redirectUri] }
    users := Table.empty.put (User.create "T1" "U1") }
  keys := none
  random i := Vector.replicate 32 (UInt8.ofNat i)
  drawn := 0
  log := []

/-- The secret that the client keeps until it redeems its code. -/
def verifier : String := "dBjftJeZ4CVP-mB92K27uhbUJU1p1r_wW1gFWFOEjXk"

/-- The client's request. -/
def request : AuthorizationRequest :=
  (AuthorizationRequest.code "C1" redirectUri " openid  profile").withPkce
    (Pkce.challenge verifier) Pkce.s256

/-- The handle of the login that the request begins. -/
def token : String := handleText (provider.random 0)

/-- The code that the login brings. -/
def code : String := handleText (provider.random 1)

/-- The provider with the login that has begun. -/
def begun : Provider := provider.exec [.authorize "T1" request]

/-- The login is completed, and another client presents the code. -/
def flow : List Action :=
  [.authorize "T1" request, .completeLogin token "U1",
    .redeem "T1" "C2" code (some redirectUri) (some verifier)]

/-- Whether the user is sent to log in. -/
def isLogin : Except Fault AuthorizationOutcome → Bool
  | .ok (.login _ _) => true
  | _ => false

theorem exists_of_isLogin {x : Except Fault AuthorizationOutcome} (h : isLogin x = true) :
    ∃ pending location, x = .ok (.login pending location) := by
  fun_cases isLogin x with
  | case1 pending location => exact ⟨pending, location, rfl⟩
  | case2 => simp_all [isLogin]

theorem begins : ∃ pending, Begins provider (.authorize "T1" request) pending ∧
    pending.token = token := by
  have hlogin : isLogin ((authorize "T1" request).run provider).1 = true := by decide +kernel
  obtain ⟨pending, location, hrun⟩ := exists_of_isLogin hlogin
  have hbegins := begins_of_authorize hrun
  exact ⟨pending, hbegins, hbegins.token_eq⟩

theorem issues : ∃ c, Issues begun (.completeLogin token "U1") c ∧ c.code = code := by
  have hcompleted : ((completeLogin token "U1").run begun).1.isOk = true := by decide +kernel
  cases hrun : ((completeLogin token "U1").run begun).1 with
  | error e =>
    rw [hrun] at hcompleted
    cases hcompleted
  | ok location =>
    obtain ⟨c, hissues⟩ := issues_of_completeLogin hrun
    have hdrawn : begun.drawn = 1 := by decide +kernel
    rw [begun] at hdrawn
    refine ⟨c, hissues, hissues.code_eq.trans ?_⟩
    rw [begun, hdrawn, random_exec, code]

end LoginSample

/-! ## Single use -/

/-- In every run in which the handles that are drawn are all different, a login whose handle
was presented once, and a code that was presented once, by anyone, are refused from then on,
whoever presents them. -/
theorem handles_single_use (hdistinct : p.DrawsDistinct (p.exec as).drawn) :
    (∀ as₁ a as₂ as₃ pending userId, Begins (p.exec as₁) a pending →
      as = as₁ ++ a :: as₂ ++ .completeLogin pending.token userId :: as₃ →
      ∀ userId', ((completeLogin pending.token userId').run (p.exec as)).1
        = .error (.refused (.invalidGrant "login session expired"))) ∧
    (∀ as₁ a as₂ b as₃ c, Issues (p.exec as₁) a c →
      as = as₁ ++ a :: as₂ ++ b :: as₃ → b.presentedCode? = some c.code →
      ∀ tenantId clientId redirectUri verifier,
        ((redeem tenantId clientId c.code redirectUri verifier).run (p.exec as)).1
          = .error (.refused (.invalidGrant "invalid authorization code"))) := by
  -- The handle was drawn at `as₁`, so before `q`, the state after the first attempt with it.
  have hgone : ∀ {holds : Provider → String → Prop},
      (∀ q a handle, holds (q.step a) handle → holds q handle ∨
        (handle = handleText (q.random q.drawn) ∧ (q.step a).drawn = q.drawn + 1)) →
      ∀ as₁ a as₂ b as₃, as = as₁ ++ a :: as₂ ++ b :: as₃ →
      ((p.exec as₁).step a).drawn = (p.exec as₁).drawn + 1 →
      ∀ handle, handle = handleText ((p.exec as₁).random (p.exec as₁).drawn) →
      ¬ holds ((p.exec (as₁ ++ a :: as₂)).step b) handle → ¬ holds (p.exec as) handle := by
    intro holds hstep as₁ a as₂ b as₃ has hdrawn handle hhandle h
    have hexec : p.exec as = ((p.exec (as₁ ++ a :: as₂)).step b).exec as₃ := by
      rw [has, exec_append, exec_cons]
    have hlater : (p.exec as₁).drawn < ((p.exec (as₁ ++ a :: as₂)).step b).drawn := by
      have h₁ := drawn_le_exec ((p.exec as₁).step a) as₂
      have h₂ := (sameBut_step (p.exec (as₁ ++ a :: as₂)) b).drawn
      rw [exec_append, exec_cons] at h₂ ⊢
      omega
    rw [random_exec] at hhandle
    subst hhandle
    rw [hexec]
    refine not_holds_exec hstep (drawn_le_exec p as₁) hlater ?_ (hexec ▸ hdistinct) h
    exact (sameBut_step _ b).random.trans (random_exec _ _)
  constructor
  · intro as₁ a as₂ as₃ pending userId hbegins has userId'
    refine run_completeLogin_of_absent (find?_of_not_holdsLogin ?_ _)
    refine hgone (fun q a handle => holdsLogin_step) as₁ a as₂ _ as₃ has hbegins.drawn _
      hbegins.token_eq ?_
    rintro ⟨x, hx⟩
    rw [step, pendingLogins_completeLogin, Table.get?_erase, if_pos rfl] at hx
    cases hx
  · intro as₁ a as₂ b as₃ c hissues has hcode tenantId clientId redirectUri verifier
    refine run_redeem_of_absent (find?_of_not_holdsCode ?_ _)
    refine hgone (fun q a handle => holdsCode_step) as₁ a as₂ b as₃ has hissues.drawn _
      hissues.code_eq ?_
    rintro ⟨x, hx⟩
    rw [codes_of_presentedCode hcode, Table.get?_erase, if_pos rfl] at hx
    cases hx

section

open LoginSample

/-- A login that was completed cannot be completed again, and a code that another client
presented is lost for the client it was issued to. -/
theorem presented_handles_spent :
    provider.DrawsDistinct (provider.exec flow).drawn ∧
      (∀ userId, ((completeLogin token userId).run (provider.exec flow)).1
        = .error (.refused (.invalidGrant "login session expired"))) ∧
      ((redeem "T1" "C1" code (some redirectUri) (some verifier)).run (provider.exec flow)).1
        = .error (.refused (.invalidGrant "invalid authorization code")) := by
  have hdistinct : provider.DrawsDistinct (provider.exec flow).drawn := by
    intro i j hi hij hj
    have hdrawn : (provider.exec flow).drawn = 2 := by decide +kernel
    obtain rfl : i = 0 := by omega
    obtain rfl : j = 1 := by omega
    decide +kernel
  obtain ⟨pending, hbegins, htoken⟩ := begins
  obtain ⟨c, hissues, hcode⟩ := issues
  have hused := handles_single_use hdistinct
  refine ⟨hdistinct, fun userId => ?_, ?_⟩
  · rw [← htoken]
    exact hused.1 [] _ [] _ pending "U1" hbegins (by rw [htoken]; rfl) userId
  · rw [← hcode]
    refine hused.2 [.authorize "T1" request] _ [] _ [] c hissues rfl ?_ _ _ _ _
    exact congrArg some hcode.symm

end

end OpenIdProvider
