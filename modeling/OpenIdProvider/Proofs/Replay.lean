import Mathlib.Algebra.GroupWithZero.Nat
import OpenIdProvider.Proofs.Jws
import OpenIdProvider.Proofs.Records
import OpenIdProvider.Proofs.Run

/-!
# Assertions are not replayed

The identifier of an assertion that passed the checks of its claims, its client and its
tenant is kept until the assertion expires, so no assertion with that identifier is
accepted before (`assertion_use_protects`), and no assertion is ever accepted twice.

The invariant of a run is `Provider.Protects`: the store holds a use of the identifier
that expires no earlier. Only a call that keeps its use begins this protection: one that
is itself refused as a replay does not (`refused_use_protects_not`).
-/

namespace OpenIdProvider

open Provider

/-! ## Calls that present an assertion -/

/-- An assertion, the client that it is presented for, and the client's tenant. -/
structure Presented where
  assertion : String
  clientId : String
  tenantId : String

/-- The assertion with which an action authenticates a client. -/
def Action.presented? : Action → Option Presented
  | validateAssertion assertion clientId tenantId => some ⟨assertion, clientId, tenantId⟩
  | authenticate tenantId (.assertion clientId assertion) =>
    let named := clientId <|> (AssertionClaims.peek? assertion).bind (·.subject)
    some ⟨assertion, named.getD "", tenantId⟩
  | _ => none

/-- Whether the assertion that an action presents is accepted. -/
def Action.Accepted (p : Provider) : Action → Prop
  | validateAssertion assertion clientId tenantId =>
    ((Op.acceptsAssertion assertion clientId tenantId).run p).1 = .ok true
  | authenticate tenantId (.assertion clientId assertion) =>
    ∃ c, ((Op.authenticate tenantId (.assertion clientId assertion)).run p).1 = .ok c
  | _ => False

/-- Whether the assertion that an action presents passes every check of its claims, its
client and its tenant; its use is then `u`. -/
def Action.Checked (p : Provider) (a : Action) (u : AssertionUse) : Prop :=
  ∃ x ∈ a.presented?, ∃ c, p.assertionUse? x.assertion x.clientId x.tenantId = some (c, u)

/-- Whether an action that passes every check is not refused as a replay. -/
def Action.Uses (p : Provider) (a : Action) (u : AssertionUse) : Prop :=
  a.Checked p u ∧ p.store.assertionUses.find? p.now u.jti = none

namespace Op

/-- An assertion's use is kept if it is the first one, and only then its signature counts. -/
theorem run_acceptsAssertion (assertion clientId tenantId : String) (p : Provider) :
    (acceptsAssertion assertion clientId tenantId).run p
      = match p.assertionUse? assertion clientId tenantId with
        | none => (.ok false, p)
        | some (c, u) => match p.store.assertionUses.create p.now u with
          | .ok t => (.ok (AssertionClaims.isSignedWith assertion c.clientSecret),
              { p with store := { p.store with assertionUses := t } })
          | .error _ => (.ok false, p) := by
  simp only [acceptsAssertion, run_bind, run_provider]
  cases p.assertionUse? assertion clientId tenantId with
  | none => rfl
  | some x =>
    obtain ⟨c, u⟩ := x
    simp only [useAssertion, run_bind, run_provider]
    cases p.store.assertionUses.create p.now u <;> rfl

theorem acceptsAssertion_eq_true {assertion clientId tenantId : String} {p : Provider}
    (h : ((acceptsAssertion assertion clientId tenantId).run p).1 = .ok true) :
    ∃ c u, p.assertionUse? assertion clientId tenantId = some (c, u) ∧
      p.store.assertionUses.find? p.now u.jti = none := by
  rw [run_acceptsAssertion] at h
  split at h
  · cases h
  · rename_i c u hu
    split at h
    · rename_i t ht
      exact ⟨c, u, hu, (Records.create_eq_ok.mp ht).1⟩
    · cases h

end Op

/-- The assertion of an accepted call is accepted by itself. -/
theorem Action.presented_of_accepted {p : Provider} {a : Action} (h : a.Accepted p) :
    ∃ x ∈ a.presented?,
      ((Op.acceptsAssertion x.assertion x.clientId x.tenantId).run p).1 = .ok true := by
  cases a with
  | validateAssertion assertion clientId tenantId => exact ⟨_, rfl, h⟩
  | authenticate tenantId credentials =>
    cases credentials with
    | secret clientId clientSecret method => exact absurd h id
    | assertion clientId assertion =>
      obtain ⟨c, h⟩ := h
      refine ⟨_, rfl, ?_⟩
      simp only [Op.authenticate, Op.checkCredentials, Op.run_bind] at h
      generalize (clientId <|> (AssertionClaims.peek? assertion).bind (·.subject)).getD "" = named
        at h ⊢
      dsimp only
      rcases hr : (Op.acceptsAssertion assertion named tenantId).run p with ⟨e | accepted, q⟩
      · rw [hr] at h
        cases h
      · rw [hr] at h
        cases accepted with
        | true => rfl
        | false =>
          have hnone : ∀ x : Option Client, x.filter (fun _ => false) = none := fun x => by
            cases x <;> rfl
          simp only [Op.run_pure, Op.run_provider, Op.run_bind, hnone, Op.run_emit,
            Op.run_refuse] at h
          cases h
  | _ => exact absurd h id

theorem Action.uses_of_accepted {p : Provider} {a : Action} (h : a.Accepted p) :
    ∃ u, a.Uses p u := by
  obtain ⟨x, hx, h⟩ := presented_of_accepted h
  obtain ⟨c, u, hu, hfirst⟩ := Op.acceptsAssertion_eq_true h
  exact ⟨u, ⟨x, hx, c, hu⟩, hfirst⟩

/-! ## Assertions that clients sign -/

namespace AssertionClaims

/-- An assertion with claims, signed with a client's secret. -/
def sign? (c : AssertionClaims) (clientSecret : String) : Option Jws :=
  Jws.create? (.object [("typ", .string "JWT"), ("alg", .string "HS256")]) c.toJson
    fun message => some (Hmac.code (Utf8.ofString clientSecret) message)

variable {c : AssertionClaims} {clientSecret : String} {t : Jws}

/-- The claims of an assertion that was signed are read from it. -/
theorem peek?_of_sign? (h : c.sign? clientSecret = some t)
    (hexp : ∀ n ∈ c.expiresAt, Json.IsInt64 n) : peek? t.text = some c := by
  rw [peek?, Jws.ofText?_of_create? h]
  simp only [Option.bind_eq_bind, Option.bind_some]
  rw [Jws.readHeader_of_create? h (Jws.writable_header .hs256 none)
      (Jws.ofJson?_header .hs256 none),
    Jws.readPayload_of_create? h (writable_toJson _ hexp) (ofJson?_toJson hexp)]

/-- An assertion is signed with the secret that it was signed with. -/
theorem isSignedWith_of_sign? (h : c.sign? clientSecret = some t)
    (hexp : ∀ n ∈ c.expiresAt, Json.IsInt64 n) : isSignedWith t.text clientSecret = true := by
  have hsignature : t.checkSignature (fun message signature =>
      Secret.equal (Hmac.code (Utf8.ofString clientSecret) message) signature) = .ok () :=
    Jws.checkSignature_of_create? h fun s hs => (Secret.equal_iff _ _).mpr (Option.some.inj hs)
  have hwritable := writable_toJson 125 hexp
  simp only [isSignedWith, Jws.ofText?_of_create? h, hsignature,
    Jws.readHeader_of_create? h (Jws.writable_header .hs256 none) (Jws.ofJson?_header .hs256 none),
    Jws.jsonOf_payload_of_create? h hwritable, Json.isReadable_of_writable _ hwritable,
    registeredClaimsFit_toJson]
  rfl

/-! ## What claims say -/

variable {c : AssertionClaims} {now : Instant}

theorem expiryAfter?_eq_some {second : Int} : c.expiryAfter? now = some second ↔
    c.expiresAt = some second ∧ ∃ t, Instant.ofSeconds? second = some t ∧ now < t := by
  simp only [expiryAfter?, Option.bind_eq_bind, Option.bind_eq_some_iff]
  constructor
  · rintro ⟨n, hn, t, ht, hsecond⟩
    split at hsecond
    · rename_i hbefore
      obtain rfl := Option.some.inj hsecond
      obtain ⟨hts, -⟩ := Instant.ofParts?_eq_some ht
      exact ⟨hts ▸ hn, t, hts ▸ ht, hbefore⟩
    · cases hsecond
  · rintro ⟨hsecond, t, ht, hlater⟩
    obtain ⟨hts, -⟩ := Instant.ofParts?_eq_some ht
    exact ⟨second, hsecond, t, ht, (if_pos hlater).trans (congrArg some hts)⟩

theorem isFrom_iff {clientId tokenEndpoint : String} : c.isFrom clientId tokenEndpoint = true ↔
    c.subject = some clientId ∧ c.issuer = c.subject ∧
      (c.audience = some (.single tokenEndpoint) ∨ c.audience = some (.many [tokenEndpoint])) := by
  have haudience (a : Audience) : a.isExactly tokenEndpoint = true ↔
      a = .single tokenEndpoint ∨ a = .many [tokenEndpoint] := by
    cases a <;> simp [Audience.isExactly]
  simp only [isFrom, Bool.and_eq_true, beq_iff_eq, and_assoc]
  cases c.audience <;> simp [haudience]

end AssertionClaims

/-! ## Uses of assertions -/

/-- What the use of an assertion says of it: its identifier, and its expiry, which is an
instant that has not come. -/
theorem Provider.claims_of_assertionUse? {p : Provider} {assertion clientId tenantId : String}
    {c : Client} {u : AssertionUse}
    (h : p.assertionUse? assertion clientId tenantId = some (c, u)) :
    ∃ claims, AssertionClaims.peek? assertion = some claims ∧ claims.jti = some u.jti ∧
      claims.expiresAt = some u.expiresAtSeconds ∧
      Instant.ofSeconds? u.expiresAtSeconds = some u.expiry ∧ p.now < u.expiry := by
  simp only [assertionUse?, Option.bind_eq_bind, Option.bind_eq_some_iff] at h
  obtain ⟨claims, hclaims, second, hsecond, client, -, jti, hjti, h⟩ := h
  split at h
  · obtain ⟨rfl, rfl⟩ := Prod.mk.inj (Option.some.inj h)
    obtain ⟨hexpires, t, ht, hlater⟩ := AssertionClaims.expiryAfter?_eq_some.mp hsecond
    have heq : AssertionUse.expiry ⟨jti, clientId, tenantId, second⟩ = t := by
      rw [AssertionUse.expiry, ht, Option.getD_some]
    exact ⟨claims, hclaims, hjti, hexpires, heq.symm ▸ ht, heq.symm ▸ hlater⟩
  · cases h

namespace Provider

/-- Whether the store holds a use of an identifier that expires no earlier than `e`. -/
def Protects (p : Provider) (jti : String) (e : Instant) : Prop :=
  ∃ r, p.store.assertionUses.get? jti = some r ∧ e ≤ r.expiry

variable {p : Provider} {jti : String} {e : Instant} {a : Action} {as : List Action}

theorem Protects.find? (h : p.Protects jti e) (hnow : p.now < e) :
    p.store.assertionUses.find? p.now jti ≠ none := by
  obtain ⟨r, hr, he⟩ := h
  rw [Records.find?_eq_some.mpr ⟨hr, Instant.lt_of_lt_of_le hnow he⟩]
  nofun

/-- Once credentials are checked, an authentication only logs what came of it. -/
theorem sameBut_authenticate (tenantId : String) (c : Credentials) (p : Provider) :
    SameBut [] ((Op.checkCredentials tenantId c).run p).2
      ((Op.authenticate tenantId c).run p).2 := by
  refine Op.Touches.sameBut_bind _ _ (fun x => .bind .provider fun q => ?_) p
  split
  · exact .bind (.emit _) fun _ => .pure _
  · exact .bind (.emit _) fun _ => .refuse _

/-- A call does to the uses of assertions what accepting its assertion does. -/
theorem assertionUses_of_presented {x : Presented} (hx : x ∈ a.presented?) :
    (p.step a).store.assertionUses
      = ((Op.acceptsAssertion x.assertion x.clientId x.tenantId).run p).2.store.assertionUses := by
  cases a with
  | validateAssertion assertion clientId tenantId =>
    obtain rfl := Option.some.inj hx
    rfl
  | authenticate tenantId credentials =>
    cases credentials with
    | secret clientId clientSecret method => cases hx
    | assertion clientId assertion =>
      obtain rfl := Option.some.inj hx
      refine ((sameBut_authenticate _ _ p).assertionUses (by decide)).trans ?_
      exact (Op.Touches.sameBut_bind [] _ (fun b => .pure _) p).assertionUses (by decide)
  | _ => cases hx

/-- What an action does to the uses of assertions: nothing, or it keeps one, or it removes
those that have expired. -/
theorem assertionUses_step (p : Provider) (a : Action) :
    (p.step a).store.assertionUses = p.store.assertionUses ∨
      (∃ u, p.store.assertionUses.create p.now u = .ok (p.step a).store.assertionUses) ∨
      (p.step a).store.assertionUses = (p.store.assertionUses.purge p.now).2 := by
  cases hx : a.presented? with
  | some x =>
    rw [assertionUses_of_presented hx, Op.run_acceptsAssertion]
    split
    · exact .inl rfl
    · rename_i c u _
      cases h : p.store.assertionUses.create p.now u with
      | ok t => exact .inr (.inl ⟨u, h⟩)
      | error _ => exact .inl rfl
  | none =>
    have hsame := (sameBut_step p a).assertionUses
    cases a with
    | validateAssertion assertion clientId tenantId => cases hx
    | authenticate tenantId c =>
      cases c with
      | secret clientId clientSecret method =>
        exact .inl ((sameBut_authenticate _ _ p).assertionUses (by decide))
      | assertion clientId assertion => cases hx
    | purge => exact .inr (.inr rfl)
    | _ => exact .inl (hsame (by simp [Action.parts]))

/-- Until its expiry, an action leaves a use in its place. -/
theorem Protects.step (h : p.Protects jti e) (hnow : p.now < e) : (p.step a).Protects jti e := by
  obtain ⟨r, hr, he⟩ := h
  rcases assertionUses_step p a with hsame | ⟨u, hu⟩ | hpurge
  · exact ⟨r, hsame ▸ hr, he⟩
  · have hfind := (Records.create_eq_ok.mp hu).1
    refine ⟨r, ?_, he⟩
    rw [Records.get?_of_create hu, if_neg, hr]
    rintro rfl
    exact Protects.find? ⟨r, hr, he⟩ hnow hfind
  · refine ⟨r, ?_, he⟩
    rw [hpurge]
    exact Records.get?_purge_eq_some.mpr ⟨hr, Instant.lt_of_lt_of_le hnow he⟩

theorem Protects.exec (h : p.Protects jti e) (hclock : p.ClockForward as)
    (hnow : (p.exec as).now < e) : (p.exec as).Protects jti e := by
  induction as generalizing p with
  | nil => exact h
  | cons a as ih =>
    have hlater : p.now < e := Instant.lt_of_le_of_lt (hclock.now_le) hnow
    exact ih (h.step hlater) hclock.2 hnow

/-- A call that keeps the use of an assertion begins its protection. -/
theorem protects_of_uses {u : AssertionUse} (h : a.Uses p u) :
    (p.step a).Protects u.jti u.expiry := by
  obtain ⟨⟨x, hx, c, hu⟩, hfirst⟩ := h
  refine ⟨u, ?_, Instant.le_refl _⟩
  rw [assertionUses_of_presented hx, Op.run_acceptsAssertion, hu]
  simp only [Records.create_eq_ok.mpr ⟨hfirst, rfl⟩, Table.get?_put]
  exact if_pos rfl

/-- While an identifier is protected, no assertion with it is accepted. -/
theorem Protects.not_accepted (h : p.Protects jti e) (hnow : p.now < e)
    {x : Presented} (hx : x ∈ a.presented?) {claims : AssertionClaims}
    (hclaims : AssertionClaims.peek? x.assertion = some claims) (hjti : claims.jti = some jti) :
    ¬ a.Accepted p := by
  intro ha
  obtain ⟨u, ⟨y, hy, c, hu⟩, hfirst⟩ := Action.uses_of_accepted ha
  obtain rfl : x = y := Option.some.inj (hx.symm.trans hy)
  obtain ⟨claims', hclaims', hjti', -⟩ := claims_of_assertionUse? hu
  obtain rfl := Option.some.inj (hclaims.symm.trans hclaims')
  obtain rfl := Option.some.inj (hjti.symm.trans hjti')
  exact h.find? hnow hfirst

end Provider

/-! ## A run with one identifier -/

namespace ReplaySample

/-- The seconds of the sample are written as numerals. -/
instance neZero_seconds : NeZero 1000 := ⟨by decide⟩

/-- A second counted from 2024-01-01T00:00:00Z. -/
def seconds (n : Fin 1000) : Int :=
  1704067200 + n.val

/-- The instant of a second. -/
def instant (n : Fin 1000) : Instant :=
  ⟨seconds n, 0, by unfold seconds; omega, by unfold seconds; omega, .inl (by decide)⟩

/-- A provider with one tenant and one client, to which nothing has happened. -/
def provider : Provider where
  config := .standard
  grace := ⟨0⟩
  now := instant 0
  store := { Store.empty with
    tenants := Table.empty.put (Tenant.create "T1" (instant 0))
    clients := Table.empty.put (Client.create "C1" "secret-C1" "T1" .standard (instant 0)) }
  keys := none
  random _ := default
  drawn := 0
  log := []

/-- The claims of the client's assertion that expires at a second; its identifier is
always the same. -/
def claims (n : Fin 1000) : AssertionClaims where
  issuer := some "C1"
  subject := some "C1"
  audience := some (.single "http://localhost:8080/T1/oidc/token")
  expiresAt := some (seconds n)
  jti := some "j1"

/-- The client's assertion that expires at a second. -/
def assertion (n : Fin 1000) : String :=
  ((claims n).sign? "secret-C1").elim "" Jws.text

/-- The use of this assertion. -/
def use (n : Fin 1000) : AssertionUse :=
  ⟨"j1", "C1", "T1", seconds n⟩

/-- The call that presents this assertion. -/
def call (n : Fin 1000) : Action :=
  .validateAssertion (assertion n) "C1" "T1"

theorem peek?_assertion (n : Fin 1000) :
    AssertionClaims.peek? (assertion n) = some (claims n) ∧
      AssertionClaims.isSignedWith (assertion n) "secret-C1" = true := by
  have hexp : ∀ s ∈ (claims n).expiresAt, Json.IsInt64 s := by
    intro s hs
    obtain rfl := Option.some.inj hs
    simp only [Json.IsInt64, seconds]
    omega
  obtain ⟨t, ht⟩ : ∃ t, (claims n).sign? "secret-C1" = some t := ⟨_, rfl⟩
  rw [assertion, ht]
  exact ⟨AssertionClaims.peek?_of_sign? ht hexp, AssertionClaims.isSignedWith_of_sign? ht hexp⟩

/-- The assertion passes every check until it expires. -/
theorem assertionUse?_assertion {p : Provider} {client : Client} (n now : Fin 1000)
    (hnow : p.now = instant now) (hlater : now < n)
    (hclient : p.store.boundClient? "T1" "C1" = some client) (hconfig : p.config = .standard) :
    p.assertionUse? (assertion n) "C1" "T1" = some (client, use n) := by
  have hexpiry : (claims n).expiryAfter? p.now = some (seconds n) := by
    have hbefore : p.now < instant n := by
      rw [hnow, Instant.lt_iff]
      simp only [instant, seconds]
      omega
    exact AssertionClaims.expiryAfter?_eq_some.mpr
      ⟨rfl, instant n, Instant.ofParts?_parts (instant n), hbefore⟩
  have hfrom : (claims n).isFrom "C1" (p.config.tokenEndpoint "T1") = true := by
    rw [hconfig]
    rfl
  simp only [assertionUse?, (peek?_assertion n).1, hexpiry, hclient, Option.bind_eq_bind,
    Option.bind_some, hfrom]
  rfl

/-- The assertion is accepted if its identifier is not in use. -/
theorem accepted_call {p : Provider} {client : Client} (n now : Fin 1000)
    (hnow : p.now = instant now) (hlater : now < n)
    (hclient : p.store.boundClient? "T1" "C1" = some client)
    (hsecret : client.clientSecret = "secret-C1") (hconfig : p.config = .standard)
    (hfirst : p.store.assertionUses.find? p.now "j1" = none) : (call n).Accepted p := by
  show ((Op.acceptsAssertion _ _ _).run p).1 = _
  rw [Op.run_acceptsAssertion, assertionUse?_assertion n now hnow hlater hclient hconfig]
  have hkept : p.store.assertionUses.create p.now (use n)
      = .ok (p.store.assertionUses.put (use n)) :=
    Records.create_eq_ok.mpr ⟨hfirst, rfl⟩
  simp only [hkept, hsecret, (peek?_assertion n).2]

/-- The provider at a second, with the use of the assertion that expires at second 60. -/
def providerAt (now : Fin 1000) : Provider :=
  { provider with
    now := instant now
    store := { provider.store with assertionUses := Table.empty.put (use 60) } }

theorem find?_providerAt (now : Fin 1000) :
    (providerAt now).store.assertionUses.find? (instant now) "j1"
      = if now < 60 then some (use 60) else none := by
  have hexpiry : (use 60).expiry = instant 60 := by
    rw [AssertionUse.expiry, show Instant.ofSeconds? (use 60).expiresAtSeconds = some (instant 60)
      from Instant.ofParts?_parts (instant 60), Option.getD_some]
  have hget : (providerAt now).store.assertionUses.get? "j1" = some (use 60) := rfl
  have hbefore : (instant now).before (instant 60) = decide (now < 60) := by
    rw [Bool.eq_iff_iff, Instant.before_iff, Instant.lt_iff, decide_eq_true_iff]
    simp only [instant, seconds]
    omega
  rw [Records.find?, hget, Option.filter_some, Expiring.expired, Bool.not_not]
  show (if (instant now).before (use 60).expiry = true then _ else _) = _
  rw [hexpiry, hbefore]
  simp

theorem step_first : provider.step (call 60) = providerAt 0 := by
  rw [call, step, Op.run_acceptsAssertion,
    assertionUse?_assertion 60 0 rfl (by decide) rfl rfl]
  rfl

theorem step_refused : (providerAt 0).step (call 300) = providerAt 0 := by
  rw [call, step, Op.run_acceptsAssertion,
    assertionUse?_assertion 300 0 rfl (by decide) rfl rfl]
  have hfind := find?_providerAt 0
  cases h : (providerAt 0).store.assertionUses.create (providerAt 0).now (use 300) with
  | ok t =>
    have hnone := (Records.create_eq_ok.mp h).1
    rw [if_pos (by decide)] at hfind
    exact absurd (hfind.symm.trans hnone) nofun
  | error e => simp only [h]

end ReplaySample

/-! ## Protection -/

/-- In every run that does not set the clock back, let `a` be a call whose assertion passes
every check of its claims, its client and its tenant, and that is not itself refused as a
replay. Then a later call `b` is refused if it presents an assertion with the same
identifier before the expiry of that of `a`, whoever it is for and however it is signed.
So no assertion is accepted twice. -/
theorem assertion_use_protects {p : Provider} {as bs : List Action} {a b : Action}
    (hclock : p.ClockForward (as ++ a :: bs)) :
    (∀ u x claims, a.Uses (p.exec as) u →
      (p.exec (as ++ a :: bs)).now.second < u.expiresAtSeconds →
      x ∈ b.presented? → AssertionClaims.peek? x.assertion = some claims →
      claims.jti = some u.jti → ¬ b.Accepted (p.exec (as ++ a :: bs))) ∧
    (∀ x y, x ∈ a.presented? → y ∈ b.presented? → x.assertion = y.assertion →
      a.Accepted (p.exec as) → ¬ b.Accepted (p.exec (as ++ a :: bs))) := by
  have hrest := (clockForward_append.mp hclock).2.2
  have hprotects : ∀ u, a.Uses (p.exec as) u → (p.exec (as ++ a :: bs)).now < u.expiry →
      (p.exec (as ++ a :: bs)).Protects u.jti u.expiry := by
    intro u hu hnow
    rw [exec_append] at hnow ⊢
    exact (protects_of_uses hu).exec hrest hnow
  refine ⟨fun u x claims hu hsecond hx hclaims hjti => ?_, fun x y hx hy hsame ha hb => ?_⟩
  · obtain ⟨z, hz, c, huse⟩ := hu.1
    obtain ⟨-, -, -, -, hexpiry, -⟩ := claims_of_assertionUse? huse
    have hnow := (Instant.lt_ofSeconds?_iff hexpiry).mpr hsecond
    exact (hprotects u hu hnow).not_accepted hnow hx hclaims hjti
  · obtain ⟨u, hu⟩ := Action.uses_of_accepted ha
    obtain ⟨v, ⟨z, hz, d, hv⟩, -⟩ := Action.uses_of_accepted hb
    obtain ⟨w, hw, c, huse⟩ := hu.1
    obtain rfl := Option.some.inj (hx.symm.trans hw)
    obtain rfl := Option.some.inj (hy.symm.trans hz)
    obtain ⟨claims, hclaims, hjti, hexp, hexpiry, -⟩ := claims_of_assertionUse? huse
    obtain ⟨claims', hclaims', -, hexp', hexpiry', hlater⟩ := claims_of_assertionUse? hv
    -- One text has one expiry, so the second acceptance falls into the protection by the first.
    obtain rfl := Option.some.inj ((hsame ▸ hclaims).symm.trans hclaims')
    have hseconds := Option.some.inj (hexp.symm.trans hexp')
    rw [← hseconds] at hexpiry'
    have hnow : (p.exec (as ++ a :: bs)).now < u.expiry :=
      Option.some.inj (hexpiry'.symm.trans hexpiry) ▸ hlater
    exact (hprotects u hu hnow).not_accepted hnow hy (hsame ▸ hclaims) hjti hb

section

open ReplaySample

/-- The client's assertion that expires at second 60 is accepted once, and until then
the one that expires at second 300 is not. -/
theorem first_use_protects :
    provider.ClockForward ([] ++ call 60 :: []) ∧ (call 60).Uses provider (use 60) ∧
      (call 60).Accepted provider ∧ ¬ (call 300).Accepted (provider.exec ([] ++ call 60 :: [])) ∧
      ¬ (call 60).Accepted (provider.exec ([] ++ call 60 :: [])) := by
  have hclock : provider.ClockForward ([] ++ call 60 :: []) := by
    refine ⟨?_, trivial⟩
    rw [step_first]
    exact Instant.le_refl _
  have huses : (call 60).Uses provider (use 60) :=
    ⟨⟨_, rfl, _, assertionUse?_assertion 60 0 rfl (by decide) rfl rfl⟩, rfl⟩
  have haccepted : (call 60).Accepted provider :=
    accepted_call 60 0 rfl (by decide) rfl rfl rfl rfl
  have hnow : (provider.exec ([] ++ call 60 :: [])).now.second < (use 60).expiresAtSeconds := by
    rw [List.nil_append, exec_cons, exec_nil, step_first]
    exact (by decide : seconds 0 < seconds 60)
  refine ⟨hclock, huses, haccepted, ?_, ?_⟩
  · exact (assertion_use_protects (b := call 300) hclock).1 _ _ _ huses hnow rfl
      (peek?_assertion 300).1 rfl
  · exact (assertion_use_protects (b := call 60) hclock).2 _ _ rfl rfl rfl haccepted

/-- After a first use that expires at second 60, a second one that would expire at second
300 is refused as a replay, and protects nothing from second 60 on. -/
theorem refused_use_protects_not :
    provider.store.assertionUses = .empty ∧
      provider.ClockForward [call 60, call 300, .setClock (instant 60)] ∧
      (call 300).Checked (provider.exec [call 60]) (use 300) ∧
      (provider.exec [call 60, call 300, .setClock (instant 60)]).now.second
        < (use 300).expiresAtSeconds ∧
      AssertionClaims.peek? (assertion 300) = some (claims 300) ∧
      (claims 300).jti = some (use 300).jti ∧
      (call 300).Accepted (provider.exec [call 60, call 300, .setClock (instant 60)]) := by
  have hexec : provider.exec [call 60, call 300, .setClock (instant 60)] = providerAt 60 := by
    rw [exec_cons, exec_cons, step_first, step_refused]
    rfl
  refine ⟨rfl, ?_, ?_, ?_, (peek?_assertion 300).1, rfl, ?_⟩
  · refine ⟨?_, ?_, ?_, trivial⟩
    · rw [step_first]; exact Instant.le_refl _
    · rw [step_first, step_refused]; exact Instant.le_refl _
    · rw [step_first, step_refused, Instant.le_iff]; decide
  · rw [exec_cons, exec_nil, step_first]
    exact ⟨_, rfl, _, assertionUse?_assertion 300 0 rfl (by decide) rfl rfl⟩
  · rw [hexec]
    exact (by decide : seconds 60 < seconds 300)
  · rw [hexec]
    refine accepted_call 300 60 rfl (by decide) rfl rfl rfl ?_
    exact (find?_providerAt 60).trans (if_neg (by decide))

end

end OpenIdProvider
