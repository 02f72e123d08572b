import OpenIdProvider.Proofs.Rsa
import OpenIdProvider.Proofs.Run

/-!
# Keys in use and keys in the store

The keys in use are always keys of the store, as they were read at some instant
(`Provider.UsesStored`): every action keeps that, as long as no key is revoked
(`UsesStored.step`).

A key is usable (`SigningKey.Usable`) if both of its halves are readable and belong
together. Keys that are usable are always read (`LoadedKeys.exists_load`), and one of them
is published until the grace period after its expiry is over (`KeySet.find?_publish`).

What is published of a key is its public half (`SigningKey.publicHalf_iff`), if the key has to be
published at all (`SigningKey.isPublished?_eq_true_iff`).
-/

namespace OpenIdProvider

/-! ## Usable keys -/

/-- Whether a key verifies all signatures that it makes. -/
def Rsa.PrivateKey.Verifies (k : Rsa.PrivateKey) : Prop :=
  ∀ message signature, Rsa.sign? k message = some signature →
    Rsa.verify k.publicKey message signature = true

/-- A signing key whose halves are readable and belong together, and whose expiry is far
from the last instant. -/
structure SigningKey.Usable (k : SigningKey) (grace : Span) : Prop where
  halves : ∃ privateKey certificates,
    KeyMaterial.privateKey k.privateKey k.passphrase = .ok privateKey ∧
      WebKey.ofSigningKey k = .ok (some (.signing k.keyId privateKey.publicKey certificates)) ∧
      privateKey.Verifies
  expiry : (k.expiresAt.add? grace).isSome

/-- Whether those of some keys that are active and sign tokens are usable. -/
def AllUsable (keys : List SigningKey) (grace : Span) : Prop :=
  ∀ k ∈ keys, k.isActiveJwtSigning = true → k.Usable grace

/-! ## Publication of one key -/

namespace SigningKey

variable {k : SigningKey} {w : WebKey} {now : Instant} {grace : Span}

/-- The public half of a key, as it is published: the key of the certificate, if there is one,
and otherwise the public key. -/
inductive PublicHalf (k : SigningKey) : WebKey → Prop
  | certificate {pem : String} {chain : KeyMaterial.CertificateChain} :
      k.keyCertificate = some pem → KeyMaterial.certificateChain pem = .ok chain →
      k.PublicHalf (.signing k.keyId chain.publicKey (some (WebKey.chainTexts chain)))
  | publicKey {pem : String} {key : Rsa.PublicKey} :
      k.keyCertificate = none → k.publicKey = some pem → KeyMaterial.publicKey pem = .ok key →
      k.PublicHalf (.signing k.keyId key none)

theorem publicHalf_iff : k.PublicHalf w ↔ WebKey.ofSigningKey? k = some w := by
  constructor
  · rintro (⟨hcertificate, hread⟩ | ⟨hbare, hpublic, hread⟩)
    · rw [WebKey.ofSigningKey?, WebKey.ofSigningKey, hcertificate]
      dsimp only
      rw [hread]
      rfl
    · rw [WebKey.ofSigningKey?, WebKey.ofSigningKey, hbare, hpublic]
      dsimp only
      rw [hread]
      rfl
  · intro h
    rw [WebKey.ofSigningKey?, WebKey.ofSigningKey] at h
    cases hcertificate : k.keyCertificate with
    | some pem =>
      cases hread : KeyMaterial.certificateChain pem with
      | error e => simp [hcertificate, hread, bind, Except.bind] at h
      | ok chain =>
        simp only [hcertificate, hread, bind, Except.bind] at h
        obtain rfl := Option.some.inj h
        exact .certificate hcertificate hread
    | none =>
      cases hpublic : k.publicKey with
      | none => simp [hcertificate, hpublic, pure, Except.pure] at h
      | some pem =>
        cases hread : KeyMaterial.publicKey pem with
        | error e => simp [hcertificate, hpublic, hread, bind, Except.bind] at h
        | ok key =>
          simp only [hcertificate, hpublic, hread, bind, Except.bind] at h
          obtain rfl := Option.some.inj h
          exact .publicKey hcertificate hpublic hread

theorem isPublished?_eq_true_iff : k.isPublished? now grace = some true ↔
    k.isActiveJwtSigning = true ∧ ∃ t, k.expiresAt.add? grace = some t ∧ now < t := by
  rw [isPublished?]
  split
  · rename_i hactive
    rw [Option.map_eq_some_iff, and_iff_right hactive]
    rfl
  · rename_i hinactive
    exact iff_of_false (by simp) fun h => hinactive h.1

/-- It cannot be told of a key whether it has to be published exactly when it is active, signs
tokens, and its expiry and the grace period lead out of range. -/
theorem isPublished?_eq_none_iff : k.isPublished? now grace = none ↔
    k.isActiveJwtSigning = true ∧ k.expiresAt.add? grace = none := by
  rw [isPublished?]
  split
  · rename_i hactive
    rw [Option.map_eq_none_iff, and_iff_right hactive]
  · rename_i hinactive
    exact iff_of_false (Option.some_ne_none _) fun h => hinactive h.1

end SigningKey

/-! ## Publication of some keys -/

namespace KeySet

variable {keys : List SigningKey} {now : Instant} {grace : Span}

theorem filterAuxM_eq_some {f : SigningKey → Option Bool} {g : SigningKey → Bool}
    (h : ∀ k ∈ keys, f k = some (g k)) (before : List SigningKey) :
    keys.filterAuxM f before = some ((keys.filter g).reverse ++ before) := by
  induction keys generalizing before with
  | nil => rfl
  | cons k keys ih =>
    have hrest := ih fun k hk => h k (List.mem_cons_of_mem _ hk)
    rw [List.filterAuxM, h k List.mem_cons_self, Option.bind_eq_bind, Option.bind_some, hrest]
    cases hk : g k <;> simp [hk]

theorem isSome_of_filterAuxM {f : SigningKey → Option Bool} {before out : List SigningKey}
    (h : keys.filterAuxM f before = some out) : ∀ k ∈ keys, (f k).isSome := by
  induction keys generalizing before with
  | nil => exact List.forall_mem_nil _
  | cons k keys ih =>
    rw [List.filterAuxM, Option.bind_eq_bind] at h
    obtain ⟨b, hb, hrest⟩ := Option.bind_eq_some_iff.mp h
    intro x hx
    rcases List.mem_cons.mp hx with rfl | hx
    · rw [hb]
      rfl
    · exact ih hrest x hx

/-- Keys are published if it can be told of each whether it has to be. -/
theorem publish?_eq_some (h : ∀ k ∈ keys, (k.isPublished? now grace).isSome) :
    publish? keys now grace = some ⟨(keys.filter fun k =>
      (k.isPublished? now grace).getD false).filterMap WebKey.ofSigningKey?⟩ := by
  have hanswer : ∀ k ∈ keys,
      k.isPublished? now grace = some ((k.isPublished? now grace).getD false) := by
    intro k hk
    obtain ⟨b, hb⟩ := Option.isSome_iff_exists.mp (h k hk)
    rw [hb]
    rfl
  rw [publish?, List.filterM, filterAuxM_eq_some hanswer]
  simp

/-- It can be told of keys that are published whether they have to be. -/
theorem isSome_of_publish? {s : KeySet} (h : publish? keys now grace = some s) :
    ∀ k ∈ keys, (k.isPublished? now grace).isSome := by
  obtain ⟨published, hpublished, -⟩ := Option.bind_eq_some_iff.mp h
  rw [List.filterM, Option.bind_eq_bind] at hpublished
  obtain ⟨out, hout, -⟩ := Option.bind_eq_some_iff.mp hpublished
  exact isSome_of_filterAuxM hout

/-- What is published of some keys: those that have to be, as far as their public halves are
readable. -/
theorem mem_publish? {s : KeySet} (h : publish? keys now grace = some s) {w : WebKey} :
    w ∈ s.keys ↔
      ∃ k ∈ keys, k.isPublished? now grace = some true ∧ WebKey.ofSigningKey? k = some w := by
  have hsome := isSome_of_publish? h
  rw [publish?_eq_some hsome] at h
  obtain rfl := Option.some.inj h
  rw [List.mem_filterMap]
  refine exists_congr fun k => ?_
  rw [List.mem_filter, and_assoc]
  refine and_congr_right fun hk => and_congr_left fun _ => ?_
  obtain ⟨b, hb⟩ := Option.isSome_iff_exists.mp (hsome k hk)
  rw [hb]
  simp

/-- It can be told of keys whose expiry is far from the last instant. -/
theorem isSome_isPublished?
    (h : ∀ k ∈ keys, k.isActiveJwtSigning = true → (k.expiresAt.add? grace).isSome) :
    ∀ k ∈ keys, (k.isPublished? now grace).isSome := by
  intro k hk
  rw [Option.isSome_iff_ne_none]
  intro hnone
  obtain ⟨hactive, hend⟩ := SigningKey.isPublished?_eq_none_iff.mp hnone
  exact Option.isSome_iff_ne_none.mp (h k hk hactive) hend

theorem keyId_ofSigningKey? {k : SigningKey} {w : WebKey} (h : WebKey.ofSigningKey? k = some w) :
    w.keyId = k.keyId := by
  cases SigningKey.publicHalf_iff.mpr h <;> rfl

/-- A key with a readable public half is found in the published set until the grace period
after its expiry is over. -/
theorem find?_publish {s : KeySet} {k : SigningKey} {w : WebKey} {t : Instant}
    (hs : publish? keys now grace = some s) (hdistinct : (keys.map SigningKey.keyId).Nodup)
    (hk : k ∈ keys) (hactive : k.isActiveJwtSigning = true)
    (hw : WebKey.ofSigningKey? k = some w) (ht : k.expiresAt.add? grace = some t)
    (hnow : now < t) : s.find? k.keyId = some w := by
  have hpublished : k.isPublished? now grace = some true :=
    SigningKey.isPublished?_eq_true_iff.mpr ⟨hactive, t, ht, hnow⟩
  have hid := keyId_ofSigningKey? hw
  -- No other key has the identifier, so the first one that has it is the key itself.
  have honly : ∀ v ∈ s.keys, v.keyId = k.keyId → v = w := by
    intro v hv hvid
    obtain ⟨k', hmem, -, hv'⟩ := (mem_publish? hs).mp hv
    have hsame : k' = k :=
      List.inj_on_of_nodup_map hdistinct hmem hk ((keyId_ofSigningKey? hv').symm.trans hvid)
    rw [hsame, hw] at hv'
    exact (Option.some.inj hv').symm
  have hmem : w ∈ s.keys := (mem_publish? hs).mpr ⟨k, hk, hpublished, hw⟩
  rw [find?]
  cases hfind : s.keys.find? fun v => v.keyId == k.keyId with
  | none =>
    have hnone := List.find?_eq_none.mp hfind w hmem
    rw [hid, beq_self_eq_true] at hnone
    exact absurd rfl hnone
  | some v =>
    have hvid : v.keyId = k.keyId := by simpa using List.find?_some hfind
    rw [honly v (List.mem_of_find?_eq_some hfind) hvid]

end KeySet

/-! ## Loading -/

namespace LoadedKeys

variable {keys : List SigningKey} {now : Instant} {grace : Span} {l : LoadedKeys}

/-- Keys are read if each of them is. -/
theorem exists_mapM_ofSigningKey (h : ∀ k ∈ keys, ∃ t, TokenKey.ofSigningKey k = .ok t) :
    ∃ ts, keys.mapM TokenKey.ofSigningKey = .ok ts := by
  induction keys with
  | nil => exact ⟨[], rfl⟩
  | cons k keys ih =>
    obtain ⟨t, ht⟩ := h k List.mem_cons_self
    obtain ⟨ts, hts⟩ := ih fun k hk => h k (List.mem_cons_of_mem _ hk)
    exact ⟨t :: ts, by rw [List.mapM_cons, ht, hts]; rfl⟩

/-- What was read of some keys, one by one. -/
theorem map_of_mapM {ts : List TokenKey} (h : keys.mapM TokenKey.ofSigningKey = .ok ts) :
    keys.map TokenKey.ofSigningKey = ts.map .ok := by
  induction keys generalizing ts with
  | nil =>
    obtain rfl := Except.ok.inj h
    rfl
  | cons k keys ih =>
    rw [List.mapM_cons] at h
    simp only [bind, Except.bind] at h
    split at h
    · cases h
    rename_i t ht
    split at h
    · cases h
    rename_i us hus
    obtain rfl := Except.ok.inj h
    rw [List.map_cons, List.map_cons, ht, ih hus]

theorem exists_of_mem_mapM {ts : List TokenKey} (h : keys.mapM TokenKey.ofSigningKey = .ok ts)
    {t : TokenKey} (ht : t ∈ ts) : ∃ k ∈ keys, TokenKey.ofSigningKey k = .ok t := by
  have hmem : .ok t ∈ keys.map TokenKey.ofSigningKey := by
    rw [map_of_mapM h]
    exact List.mem_map_of_mem ht
  exact List.mem_map.mp hmem

theorem mem_mapM_of_mem {ts : List TokenKey} (h : keys.mapM TokenKey.ofSigningKey = .ok ts)
    {k : SigningKey} (hk : k ∈ keys) : ∃ t ∈ ts, TokenKey.ofSigningKey k = .ok t := by
  have hmem : TokenKey.ofSigningKey k ∈ ts.map .ok := by
    rw [← map_of_mapM h]
    exact List.mem_map_of_mem hk
  obtain ⟨t, ht, hread⟩ := List.mem_map.mp hmem
  exact ⟨t, ht, hread.symm⟩

theorem keyId_ofSigningKey {k : SigningKey} {t : TokenKey}
    (h : TokenKey.ofSigningKey k = .ok t) : t.keyId = k.keyId := by
  rw [TokenKey.ofSigningKey] at h
  simp only [bind, Except.bind] at h
  split at h
  · cases h
  · obtain rfl := Except.ok.inj h
    rfl

theorem expiresAt_ofSigningKey {k : SigningKey} {t : TokenKey}
    (h : TokenKey.ofSigningKey k = .ok t) : t.expiresAt = k.expiresAt := by
  rw [TokenKey.ofSigningKey] at h
  simp only [bind, Except.bind] at h
  split at h
  · cases h
  · obtain rfl := Except.ok.inj h
    rfl

theorem load_eq_ok (h : load keys now grace = .ok l) :
    l.loadedAt = now ∧ KeySet.publish? keys now grace = some l.published ∧
      ∃ ts, (candidates keys now).mapM TokenKey.ofSigningKey = .ok ts ∧
        l.signing = ts.mergeSort fun a b => b.expiresAt ≤ a.expiresAt := by
  rw [load] at h
  split at h
  · rename_i published hpublished
    simp only [bind, Except.bind, Except.mapError] at h
    split at h
    · cases h
    rename_i ts hts
    obtain rfl := Except.ok.inj h
    refine ⟨rfl, hpublished, ts, ?_, rfl⟩
    split at hts
    · cases hts
    · rename_i us hus
      obtain rfl := Except.ok.inj hts
      exact hus
  · cases h

/-- The key that signs is one that could sign when the keys were read, and has not expired. -/
theorem exists_candidate_of_current? (h : load keys now grace = .ok l) {later : Instant}
    {t : TokenKey} (ht : l.current? later = some t) :
    ∃ k ∈ candidates keys now, later < k.expiresAt ∧ TokenKey.ofSigningKey k = .ok t := by
  obtain ⟨-, -, ts, hts, hsigning⟩ := load_eq_ok h
  rw [current?] at ht
  have hmem := List.mem_of_find?_eq_some ht
  have hlater : later.before t.expiresAt = true := by simpa using List.find?_some ht
  rw [hsigning, List.mem_mergeSort] at hmem
  obtain ⟨k, hk, hread⟩ := exists_of_mem_mapM hts hmem
  exact ⟨k, hk, expiresAt_ofSigningKey hread ▸ hlater, hread⟩

theorem exists_of_current? (h : load keys now grace = .ok l) {later : Instant} {t : TokenKey}
    (ht : l.current? later = some t) :
    ∃ k ∈ keys, k.isActiveJwtSigning = true ∧ later < k.expiresAt ∧
      TokenKey.ofSigningKey k = .ok t := by
  obtain ⟨k, hk, hlater, hread⟩ := exists_candidate_of_current? h ht
  obtain ⟨hk, hcandidate⟩ := List.mem_filter.mp hk
  exact ⟨k, hk, (Bool.and_eq_true_iff.mp hcandidate).1, hlater, hread⟩

/-- There is a key that signs as long as one of those that were read has not expired. -/
theorem exists_current? (h : load keys now grace = .ok l) {k : SigningKey} (hk : k ∈ keys)
    (hactive : k.isActiveJwtSigning = true) {later : Instant} (hnow : now ≤ later)
    (hlater : later < k.expiresAt) : ∃ t, l.current? later = some t := by
  obtain ⟨-, -, ts, hts, hsigning⟩ := load_eq_ok h
  have hcandidate : k ∈ candidates keys now := by
    refine List.mem_filter.mpr ⟨hk, ?_⟩
    rw [hactive, Bool.true_and]
    exact Instant.lt_of_le_of_lt hnow hlater
  obtain ⟨t, ht, hread⟩ := mem_mapM_of_mem hts hcandidate
  rw [current?, ← Option.isSome_iff_exists, List.find?_isSome, hsigning]
  refine ⟨t, List.mem_mergeSort.mpr ht, ?_⟩
  rw [expiresAt_ofSigningKey hread]
  exact hlater

/-- Keys are read if those that can sign have readable private halves. -/
theorem exists_load_of_readable
    (hexpiry : ∀ k ∈ keys, k.isActiveJwtSigning = true → (k.expiresAt.add? grace).isSome)
    (hread : ∀ k ∈ candidates keys now, ∃ t, TokenKey.ofSigningKey k = .ok t) :
    ∃ l, load keys now grace = .ok l := by
  obtain ⟨ts, hts⟩ := exists_mapM_ofSigningKey hread
  rw [load, KeySet.publish?_eq_some (KeySet.isSome_isPublished? hexpiry)]
  dsimp only
  rw [hts]
  exact ⟨_, rfl⟩

/-- Usable keys are always read. -/
theorem exists_load (h : AllUsable keys grace) (now : Instant) :
    ∃ l, load keys now grace = .ok l := by
  refine exists_load_of_readable (fun k hk ha => (h k hk ha).expiry) fun k hk => ?_
  obtain ⟨hk, hcandidate⟩ := List.mem_filter.mp hk
  simp only [Bool.and_eq_true] at hcandidate
  obtain ⟨privateKey, -, hprivate, -⟩ := (h k hk hcandidate.1).halves
  exact ⟨⟨k.keyId, k.expiresAt, privateKey⟩, by rw [TokenKey.ofSigningKey, hprivate]; rfl⟩

end LoadedKeys

/-! ## Keys in a run -/

/-- Whether an action revokes no key. -/
def Action.RevokesNoKey (a : Action) : Prop :=
  ∀ keyId, a ≠ .administer (.revokeSigningKey keyId)

namespace Provider

variable {p q : Provider} {a : Action} {as : List Action} {known : List SigningKey}

/-- The keys of the root tenant, with which tokens are signed. -/
def rootKeys (p : Provider) : List SigningKey :=
  p.store.signingKeysOf p.config.keys.rootTenantId

theorem nodup_rootKeys (p : Provider) : (p.rootKeys.map SigningKey.keyId).Nodup :=
  p.store.signingKeys.distinct.sublist (List.filter_sublist.map _)

theorem rootKeys_sameBut {ps : List Part} (h : SameBut ps p q) (hentities : .entities ∉ ps) :
    q.rootKeys = p.rootKeys := by
  rw [rootKeys, rootKeys, Store.signingKeysOf, Store.signingKeysOf,
    (h.entities hentities).signingKeys, h.config]

/-- What an action does to the signing keys: nothing, or it adds one under an identifier of
its own, or it revokes one. -/
theorem signingKeys_step (p : Provider) (a : Action) :
    (p.step a).store.signingKeys = p.store.signingKeys ∨
      (∃ k, a = .administer (.createSigningKey k) ∧ p.store.signingKeys.get? k.keyId = none ∧
        (p.step a).store.signingKeys = p.store.signingKeys.put k) ∨
      ∃ keyId k, a = .administer (.revokeSigningKey keyId) ∧
        p.store.signingKeys.get? keyId = some k ∧
        (p.step a).store.signingKeys = p.store.signingKeys.put k.revoke := by
  cases a with
  | administer c =>
    have hstep : (p.step (.administer c)).store = c.apply p.store := rfl
    rw [hstep, EntityChange.apply]
    cases hresult : c.result p.store with
    | error e => exact .inl rfl
    | ok s =>
      cases c with
      | createSigningKey k =>
        rw [EntityChange.result, Store.createSigningKey] at hresult
        split at hresult
        · cases hresult
        · rename_i hnew
          obtain rfl := Except.ok.inj hresult
          refine .inr (.inl ⟨k, rfl, ?_, rfl⟩)
          simpa [Table.contains] using hnew
      | revokeSigningKey keyId =>
        rw [EntityChange.result, Store.revokeSigningKey] at hresult
        split at hresult
        · rename_i k hk
          obtain rfl := Except.ok.inj hresult
          exact .inr (.inr ⟨keyId, k, rfl, hk, rfl⟩)
        · cases hresult
      | grantScope g =>
        obtain rfl := Except.ok.inj hresult
        exact .inl rfl
      | _ =>
        simp only [EntityChange.result, Store.createTenant, Store.updateTenant, Store.createClient,
          Store.updateClient, Store.createUser, Store.createScope] at hresult
        repeat' split at hresult
        all_goals first | (cases hresult; done) | skip
        all_goals
          obtain rfl := Except.ok.inj hresult
          exact .inl rfl
  | _ => exact .inl ((sameBut_step p _).entities (by simp [Action.parts])).signingKeys

/-- No key leaves the store unless it is revoked. -/
theorem rootKeys_step (ha : a.RevokesNoKey) : p.rootKeys ⊆ (p.step a).rootKeys := by
  intro k hk
  obtain ⟨hmem, htenant⟩ := List.mem_filter.mp hk
  rw [rootKeys, Store.signingKeysOf, (sameBut_step p a).config]
  refine List.mem_filter.mpr ⟨?_, htenant⟩
  rcases signingKeys_step p a with hsame | ⟨k', -, hnew, hput⟩ | ⟨keyId, k', hrevokes, -⟩
  · rwa [hsame]
  · rw [hput]
    exact (Table.mem_putRow p.store.signingKeys.distinct).mpr
      (.inr ⟨hmem, Table.get?_eq_none_iff.mp hnew k hmem⟩)
  · exact absurd hrevokes (ha keyId)

/-- A key that is created is the only one that comes to the store. -/
theorem rootKeys_createSigningKey (p : Provider) (k : SigningKey) :
    (p.step (.administer (.createSigningKey k))).rootKeys ⊆ k :: p.rootKeys := by
  intro k' hk'
  obtain ⟨hmem, htenant⟩ := List.mem_filter.mp hk'
  rw [(sameBut_step p _).config] at htenant
  rcases signingKeys_step p (.administer (.createSigningKey k)) with
    hsame | ⟨k₁, hcreates, -, hput⟩ | ⟨keyId, k₁, hrevokes, -⟩
  · rw [hsame] at hmem
    exact List.mem_cons_of_mem _ (List.mem_filter.mpr ⟨hmem, htenant⟩)
  · obtain rfl : k = k₁ := by simpa using hcreates
    rw [hput] at hmem
    rcases (Table.mem_putRow p.store.signingKeys.distinct).mp hmem with rfl | ⟨hmem, -⟩
    · exact List.mem_cons_self
    · exact List.mem_cons_of_mem _ (List.mem_filter.mpr ⟨hmem, htenant⟩)
  · simp at hrevokes

/-- What was read of some keys of the store, at an instant that has passed. -/
structure LoadedFrom (p : Provider) (keys : List SigningKey) (l : LoadedKeys) : Prop where
  stored : keys ⊆ p.rootKeys
  distinct : (keys.map SigningKey.keyId).Nodup
  load : LoadedKeys.load keys l.loadedAt p.grace = .ok l
  past : l.loadedAt ≤ p.now

/-- Whether the keys in use were read from the store, and some known keys among them. -/
structure UsesStored (p : Provider) (known : List SigningKey) : Prop where
  stored : known ⊆ p.rootKeys
  loaded : ∀ l, p.keys = some l → ∃ keys, known ⊆ keys ∧ p.LoadedFrom keys l

theorem loadedFrom_rootKeys {l : LoadedKeys} (h : p.loadKeys = .ok l) :
    p.LoadedFrom p.rootKeys l := by
  obtain ⟨hnow, -⟩ := LoadedKeys.load_eq_ok h
  exact ⟨fun _ hk => hk, p.nodup_rootKeys, hnow ▸ h, hnow ▸ Instant.le_refl _⟩

/-- Keys in use stay keys of the store while the clock goes forward and no key leaves it. -/
theorem UsesStored.of_reloads (h : p.UsesStored known) (hkeys : p.rootKeys ⊆ q.rootKeys)
    (hgrace : q.grace = p.grace) (hnow : p.now ≤ q.now) (hreloads : p.Reloads q.keys) :
    q.UsesStored known := by
  have hmono : ∀ keys l, p.LoadedFrom keys l → q.LoadedFrom keys l := fun keys l hl =>
    ⟨fun _ hk => hkeys (hl.stored hk), hl.distinct, hgrace ▸ hl.load,
      Instant.le_trans hl.past hnow⟩
  refine ⟨fun _ hk => hkeys (h.stored hk), fun l hl => ?_⟩
  rcases hreloads with hsame | hnone | ⟨l', hload, hsome⟩
  · obtain ⟨keys, hknown, hfrom⟩ := h.loaded l (hsame ▸ hl)
    exact ⟨keys, hknown, hmono keys l hfrom⟩
  · rw [hnone] at hl
    cases hl
  · obtain rfl : l' = l := Option.some.inj (hsome.symm.trans hl)
    exact ⟨p.rootKeys, h.stored, hmono _ _ (loadedFrom_rootKeys hload)⟩

theorem UsesStored.sameBut {ps : List Part} (h : p.UsesStored known) (hsame : SameBut ps p q)
    (hclock : .clock ∉ ps) (hentities : .entities ∉ ps) : q.UsesStored known := by
  refine h.of_reloads ?_ hsame.grace ?_ (hsame.reloads hclock hentities)
  · rw [rootKeys_sameBut hsame hentities]
    exact fun _ hk => hk
  · rw [hsame.now hclock]
    exact Instant.le_refl _

theorem reloads_step (p : Provider) (a : Action) : p.Reloads (p.step a).keys := by
  have h := (sameBut_step p a).reloads
  cases a with
  | setClock now => exact .inl rfl
  | administer c => exact .inl rfl
  | _ => exact h (by simp [Action.parts]) (by simp [Action.parts])

theorem UsesStored.step (h : p.UsesStored known) (ha : a.RevokesNoKey)
    (hclock : p.now ≤ (p.step a).now) : (p.step a).UsesStored known :=
  h.of_reloads (rootKeys_step ha) (sameBut_step p a).grace hclock (reloads_step p a)

theorem UsesStored.exec (h : p.UsesStored known) (has : ∀ a ∈ as, a.RevokesNoKey)
    (hclock : p.ClockForward as) : (p.exec as).UsesStored known := by
  induction as generalizing p with
  | nil => exact h
  | cons a as ih =>
    exact ih (h.step (has a List.mem_cons_self) hclock.1)
      (fun b hb => has b (List.mem_cons_of_mem _ hb)) hclock.2

/-- A provider has read no keys to begin with. -/
theorem keys_of_create? {config : Config} {store : Store} {now : Instant}
    {random : Nat → Vector UInt8 32} (h : create? config store now random = some p) :
    p.keys = none := by
  obtain ⟨grace, -, hp⟩ := Option.bind_eq_some_iff.mp h
  obtain rfl := Option.some.inj hp
  rfl

theorem usesStored_of_create? {config : Config} {store : Store} {now : Instant}
    {random : Nat → Vector UInt8 32} (h : create? config store now random = some p) :
    p.UsesStored [] := by
  refine ⟨List.nil_subset _, fun l hl => ?_⟩
  rw [keys_of_create? h] at hl
  cases hl

/-- Whether the keys that can sign are keys of a store, with their identifiers and expiries. -/
def StoredIn (l : LoadedKeys) (s : Store) : Prop :=
  ∀ k ∈ l.signing, ∃ key, s.signingKeys.get? k.keyId = some key ∧ key.expiresAt = k.expiresAt

/-- Whether the keys in use, if there are any, can sign only as keys of the store. -/
def KeysStored (p : Provider) : Prop :=
  ∀ l, p.keys = some l → StoredIn l p.store

theorem storedIn_of_loadKeys {l : LoadedKeys} (h : p.loadKeys = .ok l) : StoredIn l p.store := by
  intro k hk
  obtain ⟨-, -, ts, hts, hsigning⟩ := LoadedKeys.load_eq_ok h
  rw [hsigning, List.mem_mergeSort] at hk
  obtain ⟨key, hkey, hread⟩ := LoadedKeys.exists_of_mem_mapM hts hk
  have hrow := (List.mem_filter.mp (List.mem_filter.mp hkey).1).1
  exact ⟨key, Table.get?_eq_some_iff.mpr ⟨hrow, (LoadedKeys.keyId_ofSigningKey hread).symm⟩,
    (LoadedKeys.expiresAt_ofSigningKey hread).symm⟩

/-- A key of the store stays one, although it may be revoked. -/
theorem StoredIn.step {l : LoadedKeys} (h : StoredIn l p.store) (a : Action) :
    StoredIn l (p.step a).store := by
  intro k hk
  obtain ⟨key, hkey, hexpiry⟩ := h k hk
  rcases signingKeys_step p a with hsame | ⟨k', -, hnew, hput⟩ | ⟨keyId, k', -, hold, hput⟩
  · exact ⟨key, hsame ▸ hkey, hexpiry⟩
  · refine ⟨key, ?_, hexpiry⟩
    rw [hput, Table.get?_put, if_neg, hkey]
    intro hid
    rw [hid, hnew] at hkey
    cases hkey
  · rw [hput, Table.get?_put]
    by_cases hid : k.keyId = k'.revoke.keyId
    · rw [if_pos hid]
      have hid' : k'.keyId = keyId := Table.key_of_get? hold
      have hsame : keyId = k.keyId := hid'.symm.trans hid.symm
      rw [hsame, hkey] at hold
      obtain rfl := Option.some.inj hold
      exact ⟨_, rfl, hexpiry⟩
    · rw [if_neg hid]
      exact ⟨key, hkey, hexpiry⟩

/-- Keys that were read from a store stay keys of the store. -/
theorem storedIn_of_reloads {l : LoadedKeys} (h : p.KeysStored) (hreloads : p.Reloads (some l)) :
    StoredIn l p.store := by
  rcases hreloads with hsame | hnone | ⟨l', hload, hsome⟩
  · exact h l hsame.symm
  · cases hnone
  · obtain rfl := Option.some.inj hsome
    exact storedIn_of_loadKeys hload

theorem KeysStored.step (h : p.KeysStored) (a : Action) : (p.step a).KeysStored := by
  intro l hl
  exact (storedIn_of_reloads h (hl ▸ reloads_step p a)).step a

theorem KeysStored.exec (h : p.KeysStored) (as : List Action) : (p.exec as).KeysStored := by
  induction as generalizing p with
  | nil => exact h
  | cons a as ih => exact ih (h.step a)

/-- In every run the keys in use can sign only as keys of the store. -/
theorem keysStored_of_create? {config : Config} {store : Store} {now : Instant}
    {random : Nat → Vector UInt8 32} (h : create? config store now random = some p)
    (as : List Action) : (p.exec as).KeysStored := by
  refine KeysStored.exec (fun l hl => ?_) as
  rw [keys_of_create? h] at hl
  cases hl

end Provider

namespace Op

open Provider

variable {p q : Provider} {known : List SigningKey}

/-- After keys were asked for, they are in use. -/
theorem keys_of_loadedKeys {l : LoadedKeys} (h : loadedKeys.run p = (.ok l, q)) :
    q.keys = some l := by
  rw [run_loadedKeys] at h
  cases hfresh : p.keys.filter fun l => l.isFresh p.now p.config.keyCacheTtl with
  | some l' =>
    rw [hfresh] at h
    obtain ⟨rfl, rfl⟩ : l' = l ∧ p = q := by simpa using h
    exact (Option.filter_eq_some_iff.mp hfresh).1
  | none =>
    rw [hfresh] at h
    cases hload : p.loadKeys with
    | error e =>
      rw [hload] at h
      simp at h
    | ok l' =>
      rw [hload] at h
      obtain ⟨hl, hq⟩ := Prod.mk.inj h
      rw [← hq, Except.ok.inj hl]

/-- The key with which tokens are signed now was read from the store and has not expired. -/
theorem usesStored_of_currentKey {t : TokenKey} (hp : p.UsesStored known)
    (h : currentKey.run p = (.ok t, q)) :
    ∃ k, q.UsesStored [k] ∧ k.isActiveJwtSigning = true ∧ p.now < k.expiresAt ∧
      TokenKey.ofSigningKey k = .ok t := by
  obtain ⟨l, r, hloaded, hrest⟩ := bind_eq_ok.mp h
  obtain ⟨r', s, hprovider, hcurrent⟩ := bind_eq_ok.mp hrest
  obtain ⟨rfl, rfl⟩ : r' = r ∧ s = r := by simpa [run_provider, eq_comm] using hprovider
  rw [run_orRefuse] at hcurrent
  have hsame := touches_loadedKeys p
  rw [hloaded] at hsame
  have hr := hp.sameBut hsame (by decide) (by decide)
  have hkeys := keys_of_loadedKeys hloaded
  obtain ⟨keys, -, hfrom⟩ := hr.loaded l hkeys
  cases ht : l.current? s.now with
  | none =>
    rw [ht] at hcurrent
    simp at hcurrent
  | some t' =>
    rw [ht] at hcurrent
    obtain ⟨rfl, rfl⟩ : t' = t ∧ s = q := by simpa using hcurrent
    obtain ⟨k, hk, hactive, hlater, hread⟩ := LoadedKeys.exists_of_current? hfrom.load ht
    have hnow : s.now = p.now := hsame.now (by decide)
    have hknown : [k] ⊆ keys := by simpa using hk
    refine ⟨k, ⟨fun _ hx => hfrom.stored (hknown hx), fun l' hl' => ?_⟩, hactive, hnow ▸ hlater,
      hread⟩
    obtain rfl : l = l' := Option.some.inj (hkeys.symm.trans hl')
    exact ⟨keys, hknown, hfrom⟩

/-- Keys are always there if those of the store are usable. -/
theorem exists_loadedKeys (h : AllUsable p.rootKeys p.grace) :
    ∃ l q, loadedKeys.run p = (.ok l, q) := by
  rw [run_loadedKeys]
  cases p.keys.filter fun l => l.isFresh p.now p.config.keyCacheTtl with
  | some l => exact ⟨l, p, rfl⟩
  | none =>
    obtain ⟨l, hl⟩ := LoadedKeys.exists_load h p.now
    rw [show p.loadKeys = .ok l from hl]
    exact ⟨l, _, rfl⟩

/-- Keys are read when none are in use yet. -/
theorem exists_run_loadedKeys (hnone : p.keys = none) {l : LoadedKeys}
    (hload : p.loadKeys = .ok l) : ∃ q, loadedKeys.run p = (.ok l, q) := by
  rw [run_loadedKeys, hnone, Option.filter_none, hload]
  exact ⟨_, rfl⟩

/-- There is a key to sign with if no keys are in use yet, those of the store are read, and one
of them has not expired. -/
theorem exists_currentKey (hnone : p.keys = none) {l : LoadedKeys} (hload : p.loadKeys = .ok l)
    {k : SigningKey} (hk : k ∈ p.rootKeys) (hactive : k.isActiveJwtSigning = true)
    (hlater : p.now < k.expiresAt) : ∃ t q, currentKey.run p = (.ok t, q) := by
  obtain ⟨q, hl⟩ := exists_run_loadedKeys hnone hload
  obtain ⟨t, ht⟩ := LoadedKeys.exists_current? hload hk hactive (Instant.le_refl _) hlater
  refine ⟨t, q, ?_⟩
  rw [run_currentKey hl, ht]

/-- A known key is found among the published ones until the grace period after its expiry is
over, no matter when the keys were read. -/
theorem find?_of_usesStored {l : LoadedKeys} {key : SigningKey} {k : TokenKey} {t : Instant}
    (hp : p.UsesStored [key]) (husable : AllUsable p.rootKeys p.grace)
    (hactive : key.isActiveJwtSigning = true) (hread : TokenKey.ofSigningKey key = .ok k)
    (hl : loadedKeys.run p = (.ok l, q)) (ht : key.expiresAt.add? p.grace = some t)
    (hnow : p.now < t) :
    ∃ certificates, l.published.find? k.keyId
      = some (.signing k.keyId k.privateKey.publicKey certificates) ∧ k.privateKey.Verifies := by
  have hsame := touches_loadedKeys.sameBut_run hl
  have hroot := rootKeys_sameBut hsame (by decide)
  obtain ⟨keys, hknown, hfrom⟩ :=
    (hp.sameBut hsame (by decide) (by decide)).loaded l (keys_of_loadedKeys hl)
  have hkey : key ∈ keys := hknown List.mem_cons_self
  have hkeys : AllUsable keys q.grace := fun x hx ha => by
    rw [hsame.grace]
    exact husable x (hroot ▸ hfrom.stored hx) ha
  obtain ⟨-, hpublished, -⟩ := LoadedKeys.load_eq_ok hfrom.load
  obtain ⟨privateKey, certificates, hprivate, hpublic, hverifies⟩ := (hkeys key hkey hactive).halves
  obtain rfl : ⟨key.keyId, key.expiresAt, privateKey⟩ = k := by
    rw [TokenKey.ofSigningKey, hprivate] at hread
    exact Except.ok.inj hread
  refine ⟨certificates, ?_, hverifies⟩
  refine KeySet.find?_publish hpublished hfrom.distinct hkey hactive ?_
    (hsame.grace ▸ ht) ?_
  · rw [WebKey.ofSigningKey?, hpublic]
  · refine Instant.lt_of_le_of_lt hfrom.past ?_
    rw [hsame.now (by decide)]
    exact hnow

end Op

end OpenIdProvider
