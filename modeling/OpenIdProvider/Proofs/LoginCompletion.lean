import OpenIdProvider.Proofs.Handles

/-!
# Completion of logins

A login that was begun stays in its table until it expires or its handle is presented
(`pendingLogin_exec`). Its completion then uses the handle up and brings a code, if the
client's address is a URL (`run_completeLogin_of_held`). A registered address need not be
one, and a request for it is accepted all the same; its login is lost when it is completed
(`accepted_logins_complete`).
-/

namespace OpenIdProvider

open Op Provider

variable {p : Provider} {a : Action} {as : List Action}

/-! ## Addresses that are allowed -/

namespace Redirect

/-- An address that is no URL is allowed only if it is registered as it is. -/
theorem registered_of_isAllowed {registered : List String} {redirectUri : String} {e : UrlError}
    (h : isAllowed registered redirectUri = true) (hparse : Url.parse redirectUri = .error e) :
    redirectUri ∈ registered := by
  rw [isAllowed, hparse, Bool.or_false] at h
  exact List.contains_iff_mem.mp h

/-- At an address that is a URL, the client can be sent anything. -/
theorem toClient_of_parse {redirectUri : String} {u : Url} (h : Url.parse redirectUri = .ok u)
    (code : String) (state : Option String) (mode : ResponseMode) :
    ∃ address, toClient redirectUri code state mode = .ok address := by
  rw [toClient, parseUrl, h]
  cases mode <;> exact ⟨_, rfl⟩

/-- An address that is no URL is the server's error. -/
theorem toClient_of_not_parse {redirectUri : String} {e : UrlError}
    (h : Url.parse redirectUri = .error e) (code : String) (state : Option String)
    (mode : ResponseMode) : toClient redirectUri code state mode
      = .error (.serverError ("invalid URL " ++ redirectUri ++ ": " ++ e.message)) := by
  rw [toClient, parseUrl, h]
  rfl

end Redirect

/-- The address of an accepted request is allowed to its client. -/
theorem AuthorizationRequest.isAllowed_of_check {r : AuthorizationRequest} {s : Store}
    {tenantId : String} {a : AcceptedRequest} (h : r.check s tenantId = .ok a) :
    s.client? a.client.clientId = some a.client ∧
      Redirect.isAllowed a.client.redirectUris.items a.redirectUri = true := by
  obtain ⟨_, -, hclient, hredirect, -⟩ := check_eq_ok h
  obtain ⟨-, henabled⟩ := client?_eq_some hclient
  exact ⟨(Option.filter_eq_some_iff.mp henabled).1, (Option.filter_eq_some_iff.mp hredirect).2⟩

/-- The login of an accepted request is held, and its address is allowed to its client. -/
theorem Op.login_of_authorize {tenantId : String} {r : AuthorizationRequest}
    {pending : PendingLogin} {location : Url}
    (h : ((authorize tenantId r).run p).1 = .ok (.login pending location)) :
    (p.step (.authorize tenantId r)).store.pendingLogins.get? pending.token = some pending ∧
      ∃ client, p.store.client? pending.clientId = some client ∧
        Redirect.isAllowed client.redirectUris.items pending.redirectUri = true := by
  rcases run_authorize p tenantId r with
    ⟨x, q, hrun, hx, -⟩ | ⟨a, t, location', q, hcheck, hrun, hcreate, -⟩
  · rw [hrun] at h
    exact absurd h (hx pending location)
  · obtain ⟨rfl, -⟩ : p.pendingLogin tenantId r a t = pending ∧ location' = location := by
      rw [hrun] at h
      simpa using h
    refine ⟨?_, a.client, AuthorizationRequest.isAllowed_of_check hcheck⟩
    rw [step, hrun, Records.get?_of_create hcreate]
    exact if_pos rfl

/-! ## Logins wait -/

namespace Provider

variable {token : String} {pending : PendingLogin}

/-- An action leaves a login in its place, unless that has expired or the action presents
its handle. -/
theorem pendingLogin_step (h : p.store.pendingLogins.get? token = some pending)
    (hlive : p.now < pending.expiresAt) (ha : ∀ userId, a ≠ .completeLogin token userId) :
    (p.step a).store.pendingLogins.get? token = some pending := by
  have hsame := (sameBut_step p a).pendingLogins
  cases a with
  | authorize tenantId r =>
    rcases run_authorize p tenantId r with
      ⟨x, q, hrun, -, hq⟩ | ⟨accepted, t, location, q, -, hrun, hcreate, -⟩
    · rw [step, hrun, hq, h]
    · -- A live login keeps its handle, so the new one has another.
      have hnew : token ≠ Expiring.key (p.pendingLogin tenantId r accepted t) := by
        rintro rfl
        have hnone := (Records.create_eq_ok.mp hcreate).1
        exact Option.some_ne_none _ ((Records.find?_eq_some.mpr ⟨h, hlive⟩).symm.trans hnone)
      rw [step, hrun, Records.get?_of_create hcreate, if_neg hnew, h]
  | completeLogin token' userId =>
    have hother : token ≠ token' := by
      rintro rfl
      exact ha userId rfl
    rw [step, pendingLogins_completeLogin, Table.get?_erase, if_neg hother, h]
  | purge => exact Records.get?_purge_eq_some.mpr ⟨h, hlive⟩
  | _ => rw [hsame (by simp [Action.parts]), h]

/-- A login stays in its place until it expires or its handle is presented. -/
theorem pendingLogin_exec (h : p.store.pendingLogins.get? token = some pending)
    (hclock : p.ClockForward as) (hlive : (p.exec as).now < pending.expiresAt)
    (has : ∀ userId, .completeLogin token userId ∉ as) :
    (p.exec as).store.pendingLogins.get? token = some pending := by
  induction as generalizing p with
  | nil => exact h
  | cons a as ih =>
    have hnow : p.now < pending.expiresAt := Instant.lt_of_le_of_lt hclock.now_le hlive
    have ha : ∀ userId, a ≠ .completeLogin token userId := by
      rintro userId rfl
      exact has userId List.mem_cons_self
    exact ih (pendingLogin_step h hnow ha) hclock.2 hlive fun userId hmem =>
      has userId (List.mem_cons_of_mem _ hmem)

end Provider

/-! ## Completion -/

/-- The event of a login that was completed. -/
def loginCompleteEvent (pending : PendingLogin) (userId : String) : AuditEvent :=
  { eventType := .loginComplete, tenantId := pending.tenantId, clientId := pending.clientId
    userId }

/-- What the completion of a login that waits for an enabled user does: its handle is used
up, and the code is stored if the client's address is a URL. -/
theorem Op.run_completeLogin_of_held {pending : PendingLogin} {userId : String} {t : Instant}
    (hheld : p.store.pendingLogins.find? p.now pending.token = some pending)
    (huser : (p.store.enabledUser? pending.tenantId userId).isSome)
    (hexpiry : (Span.ofSeconds? p.config.tokens.authorizationCodeTtl).bind p.now.add? = some t)
    (hfresh : p.store.codes.find? p.now (handleText (p.random p.drawn)) = none) :
    (completeLogin pending.token userId).run p
      = match Redirect.toClient pending.redirectUri (handleText (p.random p.drawn)) pending.state
          pending.responseMode with
        | .ok location => (.ok location, { p with
            drawn := p.drawn + 1
            store := { p.store with
              pendingLogins := p.store.pendingLogins.erase pending.token
              codes := p.store.codes.put (p.issuedCode pending userId t) }
            log := p.log ++ [loginCompleteEvent pending userId] })
        | .error e => (.error (.refused e), { p with
            drawn := p.drawn + 1
            store := { p.store with
              pendingLogins := p.store.pendingLogins.erase pending.token } }) := by
  have huser' : ¬ (p.store.enabledUser? pending.tenantId userId).isNone := by
    rw [Option.isNone_iff_eq_none, ← ne_eq, ← Option.isSome_iff_ne_none]
    exact huser
  have hcreate : p.store.codes.create p.now (p.issuedCode pending userId t)
      = .ok (p.store.codes.put (p.issuedCode pending userId t)) :=
    Records.create_eq_ok.mpr ⟨hfresh, rfl⟩
  rw [completeLogin, run_bind, run_takeLogin, hheld]
  dsimp only
  rw [run_bind, run_provider]
  dsimp only
  rw [run_guard]
  refine (if_neg huser').trans ?_
  simp only [run_bind, run_freshHandle, run_later, run_ofExcept, hexpiry]
  cases Redirect.toClient pending.redirectUri (handleText (p.random p.drawn)) pending.state
      pending.responseMode with
  | error e => rfl
  | ok location =>
    simp only [Except.mapError, run_createCode]
    simp only [Provider.issuedCode] at hcreate
    rw [hcreate]
    rfl

/-- When a user may complete a login: it has not expired, the user may log in, and the code
can be stored, with an expiry that is an instant and a handle that no other code has. -/
structure Provider.MayComplete (p : Provider) (pending : PendingLogin) (userId : String)
    (expiresAt : Instant) : Prop where
  live : p.now < pending.expiresAt
  user : (p.store.enabledUser? pending.tenantId userId).isSome
  expiry : (Span.ofSeconds? p.config.tokens.authorizationCodeTtl).bind p.now.add? = some expiresAt
  fresh : p.store.codes.find? p.now (handleText (p.random p.drawn)) = none

/-- In every run that does not set the clock back, let an authorization request be accepted,
and the handle of its login be presented for the first time by a user who may complete it.
If the client's address is a URL, the user is sent there with one code, which is stored. If
it is none, the client has registered it as it is, the completion fails with a server error,
and the login is lost. -/
theorem accepted_logins_complete {p q : Provider} {as : List Action} {tenantId userId : String}
    {r : AuthorizationRequest} {pending : PendingLogin} {location : Url} {expiresAt : Instant}
    (haccepted : ((authorize tenantId r).run p).1 = .ok (.login pending location))
    (hclock : p.ClockForward (.authorize tenantId r :: as))
    (hfirst : ∀ userId, .completeLogin pending.token userId ∉ as)
    (hexec : p.exec (.authorize tenantId r :: as) = q)
    (hmay : q.MayComplete pending userId expiresAt) :
    (∀ u, Url.parse pending.redirectUri = .ok u →
      ∃ address, Redirect.toClient pending.redirectUri
          (q.issuedCode pending userId expiresAt).code pending.state pending.responseMode
          = .ok address ∧
        ((completeLogin pending.token userId).run q).1 = .ok address ∧
        ((completeLogin pending.token userId).run q).2.store = { q.store with
          pendingLogins := q.store.pendingLogins.erase pending.token
          codes := q.store.codes.put (q.issuedCode pending userId expiresAt) }) ∧
    (∀ e, Url.parse pending.redirectUri = .error e →
      (∃ client, p.store.client? pending.clientId = some client ∧
        pending.redirectUri ∈ client.redirectUris.items) ∧
      ((completeLogin pending.token userId).run q).1 = .error (.refused
        (.serverError ("invalid URL " ++ pending.redirectUri ++ ": " ++ e.message))) ∧
      ((completeLogin pending.token userId).run q).2.store = { q.store with
        pendingLogins := q.store.pendingLogins.erase pending.token }) := by
  obtain ⟨hbegun, client, hclient, hallowed⟩ := login_of_authorize haccepted
  rw [exec_cons] at hexec
  have hlive : ((p.step (.authorize tenantId r)).exec as).now < pending.expiresAt :=
    hexec ▸ hmay.live
  have hkept := pendingLogin_exec hbegun hclock.2 hlive hfirst
  rw [hexec] at hkept
  have hcomplete := run_completeLogin_of_held (Records.find?_eq_some.mpr ⟨hkept, hmay.live⟩)
    hmay.user hmay.expiry hmay.fresh
  refine ⟨fun u hu => ?_, fun e he => ?_⟩
  · obtain ⟨address, haddress⟩ := Redirect.toClient_of_parse hu
      (q.issuedCode pending userId expiresAt).code pending.state pending.responseMode
    rw [show Redirect.toClient pending.redirectUri (handleText (q.random q.drawn)) pending.state
      pending.responseMode = .ok address from haddress] at hcomplete
    exact ⟨address, haddress, by rw [hcomplete], by rw [hcomplete]⟩
  · rw [Redirect.toClient_of_not_parse he] at hcomplete
    exact ⟨⟨client, hclient, Redirect.registered_of_isAllowed hallowed he⟩, by rw [hcomplete],
      by rw [hcomplete]⟩

/-! ## An address that is a URL, and one that is none -/

namespace CompletionSample

/-- A provider with one tenant, one user, and one client with one registered address. -/
def provider (redirectUri : String) : Provider :=
  { LoginSample.provider with
    store := { LoginSample.provider.store with
      clients := Table.empty.put
        { Client.create "C1" "secret-C1" "T1" .standard LoginSample.now with
          redirectUris := .ofList [redirectUri] } } }

/-- The client's request. -/
def request (redirectUri : String) : AuthorizationRequest :=
  .code "C1" redirectUri "openid"

/-- The handle of the login that the request begins. -/
def token : String := handleText ((provider "").random 0)

/-- Five minutes after the request. -/
def expiresAt : Instant := ⟨1704067500, 0, by omega, by omega, .inl (by decide)⟩

/-- The login that the request begins. -/
def pending (redirectUri : String) : PendingLogin :=
  { token, clientId := "C1", tenantId := "T1", redirectUri, scope := "openid"
    responseType := "code", responseMode := .query, codeChallenge := none
    codeChallengeMethod := none, state := none
    createdAt := LoginSample.now, expiresAt }

/-- The login of an answer. -/
def login? : Except Fault AuthorizationOutcome → Option PendingLogin
  | .ok (.login pending _) => some pending
  | _ => none

theorem eq_of_login? {x : Except Fault AuthorizationOutcome} {pending : PendingLogin}
    (h : login? x = some pending) : ∃ location, x = .ok (.login pending location) := by
  fun_cases login? x with
  | case1 pending' location =>
    obtain rfl := Option.some.inj h
    exact ⟨location, rfl⟩
  | case2 => simp_all [login?]

theorem login?_url : login? ((authorize "T1" (request "app:/cb")).run (provider "app:/cb")).1
    = some (pending "app:/cb") := by
  decide +kernel

theorem login?_noUrl : login? ((authorize "T1" (request "cb")).run (provider "cb")).1
    = some (pending "cb") := by
  decide +kernel

/-- Ten minutes after the login was completed. -/
def codeExpiresAt : Instant := ⟨1704067800, 0, by omega, by omega, .inl (by decide)⟩

/-- The provider with the login that has begun. -/
def begun (redirectUri : String) : Provider :=
  (provider redirectUri).exec [.authorize "T1" (request redirectUri)]

theorem mayComplete (redirectUri : String) :
    (begun redirectUri).MayComplete (pending redirectUri) "U1" codeExpiresAt := by
  have hsame := sameBut_step (provider redirectUri) (.authorize "T1" (request redirectUri))
  have hnow : (begun redirectUri).now = LoginSample.now := hsame.now (by simp [Action.parts])
  have husers := (hsame.entities (by simp [Action.parts])).users
  have hcodes := hsame.codes (by simp [Action.parts])
  have hconfig := hsame.config
  refine ⟨?_, ?_, ?_, ?_⟩
  · rw [hnow]
    exact (Instant.lt_iff.mpr (.inl (by decide)) : LoginSample.now < expiresAt)
  · rw [Store.enabledUser?, Store.user?, begun, exec_cons, exec_nil, husers]
    rfl
  · rw [hnow, begun, exec_cons, exec_nil, hconfig]
    rfl
  · rw [begun, exec_cons, exec_nil, hcodes]
    rfl

theorem clockForward (redirectUri : String) :
    (provider redirectUri).ClockForward [.authorize "T1" (request redirectUri)] := by
  refine ⟨?_, trivial⟩
  rw [(sameBut_step (provider redirectUri) _).now (by simp [Action.parts])]
  exact Instant.le_refl _

end CompletionSample

section

open CompletionSample

/-- The login for an address that is a URL brings a code. The login for a registered address
that is none is begun as well, and lost. -/
theorem login_completed_or_lost :
    login? ((authorize "T1" (request "app:/cb")).run (provider "app:/cb")).1
        = some (pending "app:/cb") ∧
      (begun "app:/cb").MayComplete (pending "app:/cb") "U1" codeExpiresAt ∧
      (∃ address, ((completeLogin token "U1").run (begun "app:/cb")).1 = .ok address) ∧
      login? ((authorize "T1" (request "cb")).run (provider "cb")).1 = some (pending "cb") ∧
      (begun "cb").MayComplete (pending "cb") "U1" codeExpiresAt ∧
      ((completeLogin token "U1").run (begun "cb")).1 = .error (.refused
        (.serverError "invalid URL cb: relative URL without a base")) ∧
      ((completeLogin token "U1").run (begun "cb")).2.store.pendingLogins.get? token = none := by
  refine ⟨login?_url, mayComplete _, ?_, login?_noUrl, mayComplete _, ?_⟩
  · obtain ⟨location, haccepted⟩ := eq_of_login? login?_url
    have hcompletes := (accepted_logins_complete haccepted (clockForward _) (fun _ => nofun) rfl
      (mayComplete _)).1
    obtain ⟨u, hu⟩ : ∃ u, Url.parse "app:/cb" = .ok u := ⟨_, rfl⟩
    obtain ⟨address, -, hanswer, -⟩ := hcompletes u hu
    exact ⟨address, hanswer⟩
  · obtain ⟨location, haccepted⟩ := eq_of_login? login?_noUrl
    have hlost := (accepted_logins_complete haccepted (clockForward _) (fun _ => nofun) rfl
      (mayComplete _)).2
    have hparse : Url.parse "cb" = .error .relativeWithoutBase := rfl
    obtain ⟨-, hanswer, hstore⟩ := hlost _ hparse
    refine ⟨hanswer, ?_⟩
    have herased := Table.get?_erase (begun "cb").store.pendingLogins token token
    rw [if_pos rfl] at herased
    exact (congrArg (fun s : Store => s.pendingLogins.get? token) hstore).trans herased

end

end OpenIdProvider
