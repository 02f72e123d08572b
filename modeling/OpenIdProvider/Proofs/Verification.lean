import Mathlib.Logic.Basic
import OpenIdProvider.Proofs.Footprint

/-!
# Tokens that are accepted

A set of published keys accepts a token (`KeySet.Accepts`) when the token names one of
them and RS256, that very key verifies it, and its claims are those of a token for the
tenant that has not expired. The provider accepts what the keys accept that it publishes
now, and nothing else (`verifyToken_eq_ok`). All other tokens are refused, and those that
do not name RS256 before any key is looked at (`refused_of_algorithmName?_ne`).

The claims are those of the token and name its tenant, so no text is accepted for two
tenants: `verification_sound_and_bound`.
-/

namespace OpenIdProvider

open Op

/-! ## Reading a token -/

/-- A computation that may fail gives a result after its first part has given one. -/
theorem except_bind_eq_ok {ε α β : Type} {x : Except ε α} {f : α → Except ε β} {b : β} :
    (x >>= f) = .ok b ↔ ∃ a, x = .ok a ∧ f a = .ok b := by
  cases x with
  | error e => simp [bind, Except.bind]
  | ok a => simp [bind, Except.bind]

/-- A computation gives a result after a guard when the guard lets it. -/
theorem except_guard_eq_ok {ε α : Type} {c : Prop} [Decidable c] {e : ε} {x : Except ε α} {a : α} :
    (if c then (throw e : Except ε PUnit) >>= fun _ => x else x) = .ok a ↔ ¬c ∧ x = .ok a := by
  by_cases hc : c
  · simp [hc, bind, Except.bind, throw, throwThe, MonadExceptOf.throw]
  · simp [hc]

/-- An algorithm is known by no other name than its own. -/
theorem SignatureAlgorithm.eq_name_of_lookup {s : String} {a : SignatureAlgorithm}
    (h : names.lookup s = some a) : s = a.name := by
  obtain ⟨l₁, l₂, hnames, -⟩ := List.lookup_eq_some_iff.mp h
  have hmem : (s, a) ∈ names := by
    rw [hnames]
    exact List.mem_append_right _ List.mem_cons_self
  obtain ⟨b, -, hb⟩ := List.mem_map.mp hmem
  obtain ⟨rfl, rfl⟩ := Prod.mk.inj hb
  rfl

/-- The algorithm of a header is the one that its member `alg` names. -/
theorem TokenHeader.variant?_of_ofJson? {j : Json} {h : TokenHeader} (hj : ofJson? j = some h) :
    (j.member? "alg").bind (Json.variant? SignatureAlgorithm.names) = some h.algorithm := by
  cases j with
  | object ms =>
    simp only [ofJson?, Option.bind_eq_bind] at hj
    obtain ⟨a, ha, hj⟩ := Option.bind_eq_some_iff.mp hj
    split at hj
    · obtain rfl := Option.some.inj hj
      exact ha
    · cases hj
  | _ => cases hj

namespace Jws

variable {t : Jws}

theorem checkSignature_eq_ok {accepts : Bytes → Bytes → Bool} :
    t.checkSignature accepts = .ok () ↔
      ∃ s, Base64.decodeUrl? t.signature = some s ∧ accepts (Utf8.ofString t.message) s = true := by
  rw [checkSignature]
  cases Base64.decodeUrl? t.signature with
  | none => simp
  | some s =>
    by_cases h : accepts (Utf8.ofString t.message) s = true
    · simp [h]
    · simp [h]

theorem readPayload_eq_ok {α : Type} {f : Json → Option α} {a : α} :
    t.readPayload f = .ok a ↔ ∃ j, jsonOf t.payload = .ok j ∧ f j = some a := by
  rw [readPayload, except_bind_eq_ok]
  refine exists_congr fun j => and_congr_right fun _ => ?_
  cases f j with
  | none => simp [throw, throwThe, MonadExceptOf.throw]
  | some b => simp [pure, Except.pure]

theorem readHeader_eq_ok {h : TokenHeader} :
    t.readHeader = .ok h ↔ ∃ j, jsonOf t.header = .ok j ∧ TokenHeader.ofJson? j = some h := by
  rw [readHeader, except_bind_eq_ok]
  refine exists_congr fun j => and_congr_right fun _ => ?_
  cases TokenHeader.ofJson? j with
  | none => simp [throw, throwThe, MonadExceptOf.throw]
  | some b => simp [pure, Except.pure]

/-- The name of the algorithm in the header of a token, which is all that the member `alg`
has to say. -/
def algorithmName? (t : Jws) : Option String :=
  match jsonOf t.header with
  | .ok j => match j.member? "alg" with
    | some (.string name) => some name
    | some (.object [(name, .null)]) => some name
    | _ => none
  | .error _ => none

/-- A header that is read names its algorithm. -/
theorem algorithmName?_of_readHeader {h : TokenHeader} (hread : t.readHeader = .ok h) :
    t.algorithmName? = some h.algorithm.name := by
  obtain ⟨j, hj, hh⟩ := readHeader_eq_ok.mp hread
  obtain ⟨v, hv, hvariant⟩ := Option.bind_eq_some_iff.mp (TokenHeader.variant?_of_ofJson? hh)
  rw [algorithmName?, hj]
  dsimp only
  rw [hv]
  unfold Json.variant? at hvariant
  split at hvariant
  · exact congrArg some (SignatureAlgorithm.eq_name_of_lookup hvariant)
  · exact congrArg some (SignatureAlgorithm.eq_name_of_lookup hvariant)
  · cases hvariant

example : Jws.algorithmName? ⟨"eyJhbGciOiJub25lIn0", "", ""⟩ = some "none" := by decide +kernel

end Jws

namespace TokenClaims

variable {t : Jws} {key : Rsa.PublicKey} {issuer : String} {c : TokenClaims}

/-- The claims that the payload of a token makes. -/
def ReadFrom (c : TokenClaims) (t : Jws) : Prop :=
  ∃ j, Jws.jsonOf t.payload = .ok j ∧ ofJson? j = some c ∧ registeredClaimsFit j = true

/-- A payload makes no two claims. -/
theorem ReadFrom.eq {d : TokenClaims} (hc : c.ReadFrom t) (hd : d.ReadFrom t) : d = c := by
  obtain ⟨j, hj, hc, -⟩ := hc
  obtain ⟨j', hj', hd, -⟩ := hd
  obtain rfl := Except.ok.inj (hj.symm.trans hj')
  exact Option.some.inj (hd.symm.trans hc)

/-- The claims of a token that has the issuer's signature and is not malformed. -/
theorem ofToken_eq_ok : ofToken t key issuer = .ok c ↔
    t.checkSignature (Rsa.verify key) = .ok () ∧ c.ReadFrom t ∧ 0 ≤ c.expiresAt ∧
      c.issuer = issuer := by
  simp only [ofToken, except_bind_eq_ok, except_guard_eq_ok, Jws.readPayload_eq_ok]
  constructor
  · rintro ⟨⟨⟩, hs, d, ⟨j, hj, hd⟩, j', hj', hfit, hexp, hissuer, hdc⟩
    obtain rfl := Except.ok.inj (hj.symm.trans hj')
    obtain rfl := Except.ok.inj hdc
    exact ⟨hs, ⟨j, hj, hd, by simpa using hfit⟩, Int.not_lt.mp hexp, not_not.mp hissuer⟩
  · rintro ⟨hs, ⟨j, hj, hc, hfit⟩, hexp, hissuer⟩
    exact ⟨(), hs, c, ⟨j, hj, hc⟩, j, hj, by simpa using hfit, Int.not_lt.mpr hexp,
      not_not.mpr hissuer, rfl⟩

end TokenClaims

/-! ## Accepting a token -/

theorem KeySet.find?_eq_some {s : KeySet} {keyId : String} {w : WebKey}
    (h : s.find? keyId = some w) : w ∈ s.keys ∧ w.keyId = keyId :=
  ⟨List.mem_of_find?_eq_some h, by simpa using List.find?_some h⟩

/-- A token names RS256 and the key `w`, which verifies it. -/
structure Jws.SignedWith (t : Jws) (w : WebKey) : Prop where
  header : t.readHeader = .ok ⟨.rs256, some w.keyId⟩
  verified : ∃ key signature, w.publicKey? = some key ∧
    Base64.decodeUrl? t.signature = some signature ∧
    Rsa.verify key (Utf8.ofString t.message) signature = true

/-- Published keys accept a token with some claims, for the tenant of an issuer at an
instant. -/
structure KeySet.Accepts (s : KeySet) (issuer tenantId : String) (now : Instant) (t : Jws)
    (c : TokenClaims) : Prop where
  /-- The first published key of the identifier that the header names has signed the token. -/
  signed : ∃ w, s.find? w.keyId = some w ∧ t.SignedWith w
  readFrom : c.ReadFrom t
  issuer_eq : c.issuer = issuer
  tenantId_eq : c.tenantId = tenantId
  notExpired : now.second < c.expiresAt
  expiresAt_nonneg : 0 ≤ c.expiresAt

/-- The keys accept a token that is read with the key it names. -/
theorem KeySet.accepts_iff {s : KeySet} {issuer tenantId keyId : String} {now : Instant} {t : Jws}
    {c : TokenClaims} (h : t.readHeader = .ok ⟨.rs256, some keyId⟩) :
    s.Accepts issuer tenantId now t c ↔ ∃ w key, s.find? keyId = some w ∧
      w.publicKey? = some key ∧ TokenClaims.ofToken t key issuer = .ok c ∧
      now.second < c.expiresAt ∧ c.tenantId = tenantId := by
  constructor
  · rintro ⟨⟨w, hw, hheader, key, signature, hkey, hsignature, hverify⟩, hread, hissuer, htenant,
      hnow, hexp⟩
    have hkeyId : keyId = w.keyId := by
      simpa using congrArg TokenHeader.keyId (Except.ok.inj (h.symm.trans hheader))
    refine ⟨w, key, hkeyId ▸ hw, hkey, TokenClaims.ofToken_eq_ok.mpr ⟨?_, hread, hexp, hissuer⟩,
      hnow, htenant⟩
    exact Jws.checkSignature_eq_ok.mpr ⟨signature, hsignature, hverify⟩
  · rintro ⟨w, key, hw, hkey, hc, hnow, htenant⟩
    obtain ⟨hsigned, hread, hexp, hissuer⟩ := TokenClaims.ofToken_eq_ok.mp hc
    obtain ⟨signature, hsignature, hverify⟩ := Jws.checkSignature_eq_ok.mp hsigned
    obtain ⟨-, rfl⟩ := KeySet.find?_eq_some hw
    exact ⟨⟨w, hw, h, key, signature, hkey, hsignature, hverify⟩, hread, hissuer, htenant, hnow,
      hexp⟩

namespace Op

variable {p q : Provider} {tenantId token keyId : String} {t : Jws} {c : TokenClaims}

/-- A token is read when it names RS256 and a key, or it is refused at once. -/
theorem run_readToken (token : String) (p : Provider) :
    (∃ keyId t, Jws.ofText? token = some t ∧ t.readHeader = .ok ⟨.rs256, some keyId⟩ ∧
      (readToken token).run p = (.ok (keyId, t), p)) ∨
    (∃ reason, (readToken token).run p = (.error (.refused (.invalidToken reason)), p)) := by
  rw [readToken]
  cases ht : Jws.ofText? token with
  | none => exact .inr ⟨_, rfl⟩
  | some t =>
    dsimp only
    cases hh : t.readHeader with
    | error e => exact .inr ⟨_, rfl⟩
    | ok h =>
      obtain ⟨a, keyId⟩ := h
      dsimp only
      by_cases ha : a = .rs256
      · subst ha
        cases keyId with
        | none => exact .inr ⟨_, rfl⟩
        | some keyId => exact .inl ⟨keyId, t, rfl, hh, rfl⟩
      · rw [if_pos ha]
        exact .inr ⟨_, rfl⟩

theorem readToken_eq_ok : (readToken token).run p = (.ok (keyId, t), q) ↔
    q = p ∧ Jws.ofText? token = some t ∧ t.readHeader = .ok ⟨.rs256, some keyId⟩ := by
  constructor
  · intro h
    rcases run_readToken token p with ⟨keyId', t', ht, hh, hrun⟩ | ⟨reason, hrun⟩
    · rw [hrun] at h
      obtain ⟨hok, rfl⟩ := Prod.mk.inj h
      obtain ⟨rfl, rfl⟩ := Prod.mk.inj (Except.ok.inj hok)
      exact ⟨rfl, ht, hh⟩
    · rw [hrun] at h
      cases (Prod.mk.inj h).1
  · rintro ⟨rfl, ht, hh⟩
    rw [readToken, ht]
    dsimp only
    rw [hh]
    rfl

/-- A token that is read is accepted by the keys that are published, or it is refused. -/
theorem run_verifyToken (tenantId : String) {s : KeySet}
    (hread : (readToken token).run p = (.ok (keyId, t), p))
    (hs : publishedKeys.run p = (.ok s, q)) :
    (∃ c, s.Accepts (p.config.issuer tenantId) tenantId p.now t c ∧
      (verifyToken tenantId token).run p = (.ok c, q)) ∨
    ((∀ c, ¬s.Accepts (p.config.issuer tenantId) tenantId p.now t c) ∧
      ∃ reason, (verifyToken tenantId token).run p
        = (.error (.refused (.invalidToken reason)), q)) := by
  have hsame := touches_publishedKeys.sameBut_run hs
  simp only [KeySet.accepts_iff (readToken_eq_ok.mp hread).2.2]
  rw [verifyToken, run_bind, hread]
  dsimp only
  rw [run_bind, hs]
  dsimp only
  cases hw : s.find? keyId with
  | none => exact .inr ⟨by simp, _, rfl⟩
  | some w =>
    dsimp only
    cases hkey : w.publicKey? with
    | none => exact .inr ⟨by simp [hkey], _, rfl⟩
    | some key =>
      dsimp only
      rw [run_bind, run_provider]
      dsimp only
      rw [hsame.config, hsame.now (by decide)]
      cases hd : TokenClaims.ofToken t key (p.config.issuer tenantId) with
      | error e => exact .inr ⟨by simp [hkey, hd], _, rfl⟩
      | ok d =>
        dsimp only
        by_cases hexp : d.isExpired p.now = true
        · rw [if_pos hexp]
          have hlate : ¬p.now.second < d.expiresAt := Int.not_lt.mpr (of_decide_eq_true hexp)
          exact .inr ⟨by simp [hkey, hd, hlate], _, rfl⟩
        · rw [if_neg hexp]
          have hnow : p.now.second < d.expiresAt := Int.not_le.mp fun h => hexp (decide_eq_true h)
          by_cases htenant : d.tenantId = tenantId
          · rw [if_neg (not_not.mpr htenant)]
            exact .inl ⟨d, ⟨w, key, rfl, hkey, hd, hnow, htenant⟩, rfl⟩
          · rw [if_pos htenant]
            exact .inr ⟨by simp [hkey, hd, htenant], _, rfl⟩

/-- A token is accepted by the keys that are published now, and not otherwise. -/
theorem verifyToken_eq_ok : (verifyToken tenantId token).run p = (.ok c, q) ↔
    ∃ s t, publishedKeys.run p = (.ok s, q) ∧ Jws.ofText? token = some t ∧
      s.Accepts (p.config.issuer tenantId) tenantId p.now t c := by
  constructor
  · intro h
    obtain ⟨⟨keyId, t⟩, p₁, hread, hrest⟩ := bind_eq_ok.mp h
    obtain ⟨s, p₂, hs, -⟩ := bind_eq_ok.mp hrest
    obtain ⟨rfl, ht, -⟩ := readToken_eq_ok.mp hread
    rcases run_verifyToken tenantId hread hs with ⟨d, hd, hrun⟩ | ⟨-, reason, hrun⟩
    · obtain ⟨hdc, rfl⟩ := Prod.mk.inj (hrun.symm.trans h)
      exact ⟨s, t, hs, ht, Except.ok.inj hdc ▸ hd⟩
    · cases (Prod.mk.inj (hrun.symm.trans h)).1
  · rintro ⟨s, t, hs, ht, hc⟩
    obtain ⟨w, -, hheader, -⟩ := hc.signed
    rcases run_verifyToken tenantId (readToken_eq_ok.mpr ⟨rfl, ht, hheader⟩) hs with
      ⟨d, hd, hrun⟩ | ⟨hnot, -⟩
    · rw [hrun, hd.readFrom.eq hc.readFrom]
    · exact absurd hc (hnot c)

/-- A token that does not name RS256 is refused before any key is looked at. -/
theorem refused_of_algorithmName?_ne
    (h : ∀ t, Jws.ofText? token = some t → t.algorithmName? ≠ some "RS256") :
    ∃ reason, (verifyToken tenantId token).run p
      = (.error (.refused (.invalidToken reason)), p) := by
  rcases run_readToken token p with ⟨keyId, t, ht, hheader, -⟩ | ⟨reason, hrun⟩
  · exact absurd (Jws.algorithmName?_of_readHeader hheader) (h t ht)
  · refine ⟨reason, ?_⟩
    rw [verifyToken, run_bind, hrun]

end Op

/-- **Soundness of verification, and the tenant it is bound to.** A token is accepted exactly
when the keys published now accept it: one that its header names has signed it with RS256,
and the claims are those of its payload, of the tenant's issuer, for the tenant, and have
not expired. So a text accepted for two tenants, at whatever times and by whatever keys,
was accepted for the same one, with the same claims; and a text whose header names another
algorithm than RS256, or none at all, is refused and changes nothing. -/
theorem verification_sound_and_bound (tenantId token : String) :
    (∀ p q c, (verifyToken tenantId token).run p = (.ok c, q) ↔
      ∃ s t, publishedKeys.run p = (.ok s, q) ∧ Jws.ofText? token = some t ∧
        s.Accepts (p.config.issuer tenantId) tenantId p.now t c) ∧
    (∀ p p' tenantId' c c', ((verifyToken tenantId token).run p).1 = .ok c →
      ((verifyToken tenantId' token).run p').1 = .ok c' → tenantId' = tenantId ∧ c' = c) ∧
    ((∀ t, Jws.ofText? token = some t → t.algorithmName? ≠ some "RS256") →
      ∀ p, ∃ reason, (verifyToken tenantId token).run p
        = (.error (.refused (.invalidToken reason)), p)) := by
  refine ⟨fun p q c => verifyToken_eq_ok, fun p p' tenantId' c c' h h' => ?_,
    fun h p => refused_of_algorithmName?_ne h⟩
  obtain ⟨s, t, -, ht, hc⟩ := verifyToken_eq_ok.mp (Prod.ext h rfl)
  obtain ⟨s', t', -, ht', hc'⟩ := verifyToken_eq_ok.mp (Prod.ext h' rfl)
  obtain rfl := Option.some.inj (ht.symm.trans ht')
  obtain rfl := hc.readFrom.eq hc'.readFrom
  exact ⟨hc'.tenantId_eq.symm.trans hc.tenantId_eq, rfl⟩

end OpenIdProvider
