import Mathlib.NumberTheory.LucasLehmer
import OpenIdProvider.Proofs.Tokens

/-!
# The lifetime of tokens

A token that lives no longer than expired keys stay published is accepted from its issue to
its expiry, and never from then on (`issued_tokens_verify`): the key that signed it had not
expired when it signed, so it is published at least until the token expires.
-/

namespace OpenIdProvider

open Op Provider

variable {p : Provider}

/-- The grace period of a run is that of its settings. -/
theorem Provider.grace_of_create? {config : Config} {store : Store} {now : Instant}
    {random : Nat → Vector UInt8 32} (h : create? config store now random = some p)
    (as : List Action) :
    Span.ofSeconds? config.keys.gracePeriod = some (p.exec as).grace := by
  obtain ⟨grace, hgrace, hp⟩ := Option.bind_eq_some_iff.mp h
  obtain rfl := Option.some.inj hp
  rw [grace_exec]
  exact hgrace

/-! ## A key that expires before its token -/

namespace TokenSample

/-- A key of two Mersenne primes. -/
def privateKey : Rsa.PrivateKey where
  modulus := mersenne 2203 * mersenne 61
  publicExponent := 65537
  privateExponent := (4335 * Nat.lcm (mersenne 2203 - 1) (mersenne 61 - 1) + 1) / 65537
  prime1 := mersenne 2203
  prime2 := mersenne 61

/-- Its private half. -/
def privateBlock : Pem.Block := ⟨"RSA PRIVATE KEY", KeyMaterial.toPkcs1 privateKey⟩

/-- Its public half. -/
def publicBlock : Pem.Block := ⟨"PUBLIC KEY", KeyMaterial.toSpki privateKey.publicKey⟩

theorem verifies_privateKey : privateKey.Verifies := by
  have hprime1 : privateKey.prime1.Prime := lucas_lehmer_sufficiency 2203 (by simp) (by norm_num)
  have hprime2 : privateKey.prime2.Prime := lucas_lehmer_sufficiency 61 (by simp) (by norm_num)
  have hconsistent : privateKey.consistent = true := by decide +kernel
  have hne : privateKey.prime1 ≠ privateKey.prime2 := by decide +kernel
  exact fun message signature h => Rsa.verify_of_sign? hconsistent hprime1 hprime2 hne rfl h

theorem signatureSize_privateKey : Rsa.signatureSize privateKey.modulus = true := by
  decide +kernel

theorem read_privateBlock : KeyMaterial.privateKey privateBlock.text none = .ok privateKey := by
  have h : KeyMaterial.privateKeyOf? privateBlock.text none = some privateKey := by
    rw [KeyMaterial.privateKeyOf?, Pem.Block.text, String.toList_ofList]
    decide +kernel
  rw [KeyMaterial.privateKey, h]

theorem read_publicBlock : KeyMaterial.publicKey publicBlock.text = .ok privateKey.publicKey := by
  have h : KeyMaterial.publicKeyOf? publicBlock.text = some privateKey.publicKey := by
    rw [KeyMaterial.publicKeyOf?, Pem.Block.text, String.toList_ofList]
    decide +kernel
  rw [KeyMaterial.publicKey, h]

/-- The seconds of the sample are written as numerals. -/
instance neZero_seconds : NeZero 100000 := ⟨by decide⟩

/-- The instant of a second counted from 2024-01-01T00:00:00Z. -/
def instant (n : Fin 100000) : Instant :=
  ⟨1704067200 + n.val, 0, by omega, by omega, .inl (by decide)⟩

/-- The key, stored under an identifier until an instant. -/
def signingKey (keyId : String) (expiresAt : Instant) : SigningKey :=
  { SigningKey.create keyId "root" privateBlock.text expiresAt (instant 0) with
    publicKey := some publicBlock.text }

/-- A provider with one tenant, one service account, and a key that expires after ten
minutes. -/
def opening : Provider where
  config := .standard
  grace := ⟨2592000000000000⟩
  now := instant 0
  store := { Store.empty with
    tenants := Table.empty.put (Tenant.create "T1" (instant 0))
    clients := Table.empty.put (Client.create "C1" "secret-C1" "T1" .serviceAccount (instant 0))
    signingKeys := Table.empty.put (signingKey "K1" (instant 600)) }
  keys := none
  random _ := default
  drawn := 0
  log := []

/-- The service account asks for a token. -/
def issue : Action := .issueService "T1" "C1" none

/-- Another key takes over, the first one expires, and the keys are read again. -/
def turnover : List Action :=
  [.administer (.createSigningKey (signingKey "K2" (instant 86400))), .setClock (instant 1800),
    .invalidateKeys]

theorem read_signingKey (keyId : String) (expiresAt : Instant) :
    TokenKey.ofSigningKey (signingKey keyId expiresAt) = .ok ⟨keyId, expiresAt, privateKey⟩ := by
  rw [TokenKey.ofSigningKey,
    show (signingKey keyId expiresAt).privateKey = privateBlock.text from rfl,
    show (signingKey keyId expiresAt).passphrase = none from rfl, read_privateBlock]
  rfl

theorem usable_signingKey (keyId : String) {expiresAt : Instant} {grace : Span}
    (h : (expiresAt.add? grace).isSome) : (signingKey keyId expiresAt).Usable grace := by
  refine ⟨⟨privateKey, none, read_privateBlock, ?_, verifies_privateKey⟩, h⟩
  rw [WebKey.ofSigningKey, show (signingKey keyId expiresAt).keyCertificate = none from rfl,
    show (signingKey keyId expiresAt).publicKey = some publicBlock.text from rfl]
  dsimp only
  rw [read_publicBlock]
  rfl

theorem rootKeys_opening : opening.rootKeys = [signingKey "K1" (instant 600)] := rfl

theorem allUsable_opening : AllUsable opening.rootKeys opening.grace := by
  intro k hk _
  rw [rootKeys_opening] at hk
  obtain rfl := List.mem_singleton.mp hk
  exact usable_signingKey _ (by decide)

/-- The key signs as long as no other keys are in use. -/
theorem exists_currentKey_sample {p : Provider} (hnone : p.keys = none)
    (hnow : p.now = instant 0) (hgrace : p.grace = opening.grace)
    (hkeys : p.rootKeys = [signingKey "K1" (instant 600)]) :
    ∃ k q, currentKey.run p = (.ok k, q) ∧ k.privateKey = privateKey := by
  have hkey : signingKey "K1" (instant 600) ∈ p.rootKeys := by
    rw [hkeys]
    exact List.mem_cons_self
  have husable : AllUsable p.rootKeys p.grace := by
    rw [hkeys, hgrace]
    exact allUsable_opening
  obtain ⟨l, hload⟩ := LoadedKeys.exists_load husable p.now
  obtain ⟨k, q, hk⟩ := exists_currentKey hnone hload hkey rfl (by rw [hnow]; decide)
  have hused : p.UsesStored [] := ⟨List.nil_subset _, fun l hl => by rw [hnone] at hl; cases hl⟩
  obtain ⟨key, hstored, -, -, hread⟩ := usesStored_of_currentKey hused hk
  have hmem := hstored.stored List.mem_cons_self
  rw [rootKeys_sameBut (touches_currentKey.sameBut_run hk) (by decide), hkeys] at hmem
  obtain rfl := List.mem_singleton.mp hmem
  rw [read_signingKey] at hread
  refine ⟨k, q, hk, ?_⟩
  rw [← Except.ok.inj hread]

/-- The service account gets its token. -/
theorem exists_answers :
    ∃ response, Answers opening "T1" response issue ∧ response.expiresIn = 3600 := by
  obtain ⟨k, q, hk, hprivate⟩ := exists_currentKey_sample rfl rfl rfl rootKeys_opening
  have hactive : opening.store.activeTenant? "T1" = some (Tenant.create "T1" (instant 0)) := rfl
  have henabled : opening.store.enabledClient? "T1" "C1"
      = some (Client.create "C1" "secret-C1" "T1" .serviceAccount (instant 0)) := rfl
  have hexpiry : (Span.ofSeconds? opening.config.tokens.defaultTokenTtl).bind opening.now.add?
      = some (instant 3600) := rfl
  have hsize : Rsa.signatureSize k.privateKey.modulus = true := by
    rw [hprivate]
    exact signatureSize_privateKey
  obtain ⟨response, hresponse, hlife, -⟩ :=
    exists_answers_service hactive henabled rfl hk hexpiry hsize
  exact ⟨response, .service hresponse, hlife⟩

/-- The keys after the turnover. -/
theorem rootKeys_turnover (p : Provider) :
    (p.exec turnover).rootKeys ⊆ signingKey "K2" (instant 86400) :: p.rootKeys := by
  rw [turnover, exec_cons, exec_cons, exec_cons, exec_nil,
    rootKeys_sameBut (sameBut_step _ _) (by decide),
    rootKeys_sameBut (sameBut_step _ _) (by decide)]
  exact rootKeys_createSigningKey p _

theorem now_turnover (p : Provider) : (p.exec turnover).now = instant 1800 := rfl

theorem clockForward_turnover {p : Provider} (h : p.now ≤ instant 1800) :
    p.ClockForward turnover :=
  ⟨Instant.le_refl _, h, Instant.le_refl _, trivial⟩

theorem revokesNoKey_turnover : ∀ a ∈ turnover, a.RevokesNoKey := by
  intro a ha
  simp only [turnover, List.mem_cons, List.not_mem_nil, or_false] at ha
  rcases ha with rfl | rfl | rfl <;> exact nofun

theorem allUsable_turnover :
    AllUsable ((opening.step issue).exec turnover).rootKeys opening.grace := by
  intro k hk ha
  rcases List.mem_cons.mp (rootKeys_turnover _ hk) with rfl | hk
  · exact usable_signingKey _ (by decide)
  · rw [rootKeys_sameBut (sameBut_step opening issue) (by decide)] at hk
    exact allUsable_opening k hk ha

end TokenSample

/-! ## Acceptance until expiry -/

/-- In every run that does not set the clock back and revokes no key, take a signed token
that an action issues for a tenant. There are a key and claims that were signed with it, and
the token lives as long as the response says. If the run goes on in whatever way, the active
signing keys are usable, and the token lives no longer than the grace period, then it is
accepted with these claims until it expires, and refused from then on. -/
theorem issued_tokens_verify {config : Config} {store : Store} {now : Instant}
    {random : Nat → Vector UInt8 32} {as : List Action} {a : Action} {tenantId token : String}
    {response : TokenResponse} (hcreate : create? config store now random = some p)
    (hkept : ∀ b ∈ as ++ [a], b.RevokesNoKey) (hclock : p.ClockForward (as ++ [a]))
    (hanswer : Answers (p.exec as) tenantId response a) (htoken : token ∈ response.signedTokens) :
    ∃ (k : TokenKey) (claims : TokenClaims), (k.sign? claims).map Jws.text = some token ∧
      claims.issuedAt = (p.exec as).now.second ∧
      (0 < response.expiresIn → claims.expiresAt = claims.issuedAt + response.expiresIn) ∧
      ∀ bs q, q = p.exec (as ++ [a] ++ bs) → (∀ b ∈ bs, b.RevokesNoKey) →
        (p.exec (as ++ [a])).ClockForward bs → AllUsable q.rootKeys q.grace →
        0 ≤ claims.expiresAt →
        claims.expiresAt - claims.issuedAt ≤ config.keys.gracePeriod →
        (q.now.second < claims.expiresAt →
          ((verifyToken tenantId token).run q).1 = .ok claims) ∧
        (claims.expiresAt ≤ q.now.second → ∃ reason,
          ((verifyToken tenantId token).run q).1 = .error (.refused (.invalidToken reason))) := by
  obtain ⟨hbefore, hstep⟩ := clockForward_append.mp hclock
  have hstored := (usesStored_of_create? hcreate).exec
    (fun b hb => hkept b (List.mem_append_left _ hb)) hbefore
  obtain ⟨k, claims, hsigns⟩ := signs_of_answers hstored hanswer htoken
  refine ⟨k, claims, hsigns.signed, hsigns.made.issuedAt_eq, hsigns.made.expiresAt_eq, ?_⟩
  intro bs q hq hbs hforward husable hexp hlife
  obtain ⟨t, ht, rfl⟩ := Option.map_eq_some_iff.mp hsigns.signed
  obtain ⟨key, hkey, hactive, hlater, hread⟩ := hsigns.stored
  have hgrace := grace_of_create? hcreate (as ++ [a] ++ bs)
  rw [← hq] at hgrace
  rw [exec_append] at hq
  rw [exec_concat] at hq hforward
  have hrest := hkey.exec hbs hforward
  have hnow := Instant.le_trans hstep.1 hforward.now_le
  rw [← hq] at hrest hnow
  obtain ⟨l, r, hl⟩ := exists_loadedKeys husable
  have hsame := touches_loadedKeys.sameBut_run hl
  have hrnow : r.now = q.now := hsame.now (by decide)
  have hconfig : r.config = (p.exec as).config := by
    rw [hsame.config, hq, config_exec, (sameBut_step _ a).config]
  refine ⟨fun hearly => ?_, fun hlate => ?_⟩
  · -- The key expires after the issue, and the token within the grace period after it.
    obtain ⟨u, hu⟩ := Option.isSome_iff_exists.mp
      (husable key (hrest.stored List.mem_cons_self) hactive).expiry
    have hpublished : q.now < u := by
      have hsecond := Instant.second_le_of_le hnow
      have hissued := hsigns.made.issuedAt_eq
      have hsum := Instant.second_of_add? (by omega) hgrace hu
      rw [Instant.lt_iff] at hlater ⊢
      omega
    obtain ⟨certificates, hfound, hverifies⟩ :=
      find?_of_usesStored hrest husable hactive hread hl hu hpublished
    refine verifyToken_of_found ht hsigns.made.inRange hl hfound hverifies ?_
      hsigns.made.tenantId_eq hexp (hrnow ▸ hearly)
    rw [hsigns.made.issuer_eq, hconfig]
  · exact verifyToken_of_expired ht hsigns.made.inRange hl (hrnow ▸ hlate)

section

open TokenSample

/-- The token of the service account is accepted after the key that signed it has expired and
another one has taken over. -/
theorem token_outlives_key :
    create? .standard opening.store (instant 0) opening.random = some opening ∧
      instant 600 < instant 1800 ∧
      ∃ response token claims, Answers opening "T1" response issue ∧
        token ∈ response.signedTokens ∧
        ((verifyToken "T1" token).run (opening.exec ([issue] ++ turnover))).1 = .ok claims := by
  have hcreate : create? .standard opening.store (instant 0) opening.random = some opening := rfl
  obtain ⟨response, hanswer, hlife⟩ := exists_answers
  have hnow : (opening.step issue).now = instant 0 := (sameBut_step opening issue).now (by decide)
  have hkept : ∀ b ∈ [] ++ [issue], b.RevokesNoKey := by
    intro b hb
    obtain rfl := List.mem_singleton.mp hb
    exact nofun
  have hclock : opening.ClockForward ([] ++ [issue]) := ⟨hnow ▸ Instant.le_refl _, trivial⟩
  obtain ⟨k, claims, -, hissued, hexpires, hlater⟩ :=
    issued_tokens_verify hcreate hkept hclock hanswer List.mem_cons_self
  rw [List.nil_append, exec_cons, exec_nil] at hlater
  have hexec : opening.exec ([issue] ++ turnover) = (opening.step issue).exec turnover := by
    rw [exec_append, exec_cons, exec_nil]
  have hforward : (opening.step issue).ClockForward turnover :=
    clockForward_turnover (by rw [hnow]; decide)
  have husable : AllUsable ((opening.step issue).exec turnover).rootKeys
      ((opening.step issue).exec turnover).grace := by
    rw [grace_exec, (sameBut_step opening issue).grace]
    exact allUsable_turnover
  have hsecond : ((opening.step issue).exec turnover).now.second = 1704067200 + 1800 := by
    rw [now_turnover]
    rfl
  have hissued : claims.issuedAt = 1704067200 := hissued
  rw [hlife] at hexpires
  have hexpiry : claims.expiresAt = claims.issuedAt + 3600 := hexpires (by decide)
  have hgrace : Config.standard.keys.gracePeriod = 2592000 := rfl
  refine ⟨hcreate, by decide, response, response.accessToken, claims, hanswer,
    List.mem_cons_self, ?_⟩
  rw [hexec]
  exact (hlater turnover _ hexec.symm revokesNoKey_turnover hforward husable (by omega)
    (by omega)).1 (by omega)

end

end OpenIdProvider
