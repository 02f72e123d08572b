import OpenIdProvider.Proofs.KeyFreshness

/-!
# Keys that were revoked

The signing keys of the store only grow: a key stays where it is, and all that happens to it is
that it is revoked (`GrowsTo`, one lemma for an action and one for a run). So a key that was
revoked is never read from the store again.

It may still be in use from a load before its revocation. `Provider.OutOfUse` says that it is
not, and from there it stays so as long as neither the clock nor an entity changes: it is not
published, nothing is signed with it, and no token that names it is accepted
(`OutOfUse.neverUses`). A key is out of use once the keys have been invalidated after its
revocation, or once no load before it can be fresh any more (`outOfUse_of_revocation`):
`revoked_keys_stay_dead`.

The age of a load is the span between two readings of the clock, and a span that begins within
a leap second is shorter than the time that has passed (`revoked_key_still_in_use`).
-/

namespace OpenIdProvider

open Op Provider

/-! ## Keys of the store -/

/-- Whether a signing key is another one as it was, or after its revocation. -/
def SigningKey.Succeeds (k' k : SigningKey) : Prop :=
  k' = k ∨ k' = k.revoke

/-- Whether some keys become others in time: each stays where it is, and new ones come after
them. -/
inductive GrowsTo : List SigningKey → List SigningKey → Prop
  | new (keys : List SigningKey) : GrowsTo [] keys
  | keep {k k' : SigningKey} {keys keys' : List SigningKey} (hk : k'.Succeeds k)
      (h : GrowsTo keys keys') : GrowsTo (k :: keys) (k' :: keys')

namespace SigningKey.Succeeds

variable {k k' k'' : SigningKey}

theorem refl (k : SigningKey) : k.Succeeds k :=
  .inl rfl

theorem trans (h : k'.Succeeds k) (h' : k''.Succeeds k') : k''.Succeeds k := by
  rcases h with rfl | rfl
  · exact h'
  · rcases h' with rfl | rfl
    · exact .inr rfl
    · exact .inr rfl

theorem keyId_eq (h : k'.Succeeds k) : k'.keyId = k.keyId := by
  rcases h with rfl | rfl <;> rfl

theorem keyStatus_eq (h : k'.Succeeds k) (hk : k.keyStatus = .revoked) :
    k'.keyStatus = .revoked := by
  rcases h with rfl | rfl
  · exact hk
  · rfl

end SigningKey.Succeeds

namespace GrowsTo

variable {keys keys' keys'' : List SigningKey} {k : SigningKey}

theorem refl (keys : List SigningKey) : GrowsTo keys keys := by
  induction keys with
  | nil => exact .new []
  | cons k keys ih => exact .keep (.refl k) ih

theorem trans (h : GrowsTo keys keys') (h' : GrowsTo keys' keys'') : GrowsTo keys keys'' := by
  induction h generalizing keys'' with
  | new => exact .new _
  | keep hk _ ih =>
    cases h' with
    | keep hk' h' => exact .keep (hk.trans hk') (ih h')

/-- No key is removed. -/
theorem exists_of_mem (h : GrowsTo keys keys') (hk : k ∈ keys) : ∃ k' ∈ keys', k'.Succeeds k := by
  induction h with
  | new => cases hk
  | keep hsucceeds _ ih =>
    rcases List.mem_cons.mp hk with rfl | hk
    · exact ⟨_, List.mem_cons_self, hsucceeds⟩
    · obtain ⟨k', hk', hsucceeds'⟩ := ih hk
      exact ⟨k', List.mem_cons_of_mem _ hk', hsucceeds'⟩

/-- A key under a new identifier comes last. -/
theorem putRow_new (h : ∀ k' ∈ keys, k'.keyId ≠ k.keyId) :
    GrowsTo keys (Table.putRow SigningKey.keyId k keys) := by
  induction keys with
  | nil => exact .new _
  | cons k' keys ih =>
    rw [Table.putRow, if_neg (h k' List.mem_cons_self)]
    exact .keep (.refl k') (ih fun x hx => h x (List.mem_cons_of_mem _ hx))

/-- A key that is revoked stays where it is. -/
theorem putRow_revoke (hk : k ∈ keys) (hdistinct : (keys.map SigningKey.keyId).Nodup) :
    GrowsTo keys (Table.putRow SigningKey.keyId k.revoke keys) := by
  induction keys with
  | nil => cases hk
  | cons k' keys ih =>
    obtain ⟨hk', hdistinct⟩ := List.nodup_cons.mp hdistinct
    rcases List.mem_cons.mp hk with rfl | hk
    · rw [Table.putRow, if_pos (show k.keyId = k.revoke.keyId from rfl)]
      exact .keep (.inr rfl) (.refl keys)
    · have hne : k'.keyId ≠ k.revoke.keyId := by
        intro hid
        apply hk'
        rw [show k'.keyId = k.keyId from hid]
        exact List.mem_map_of_mem hk
      rw [Table.putRow, if_neg hne]
      exact .keep (.refl k') (ih hk hdistinct)

end GrowsTo

namespace Provider

variable {p q : Provider} {as before after : List Action} {keyId : String} {l : LoadedKeys}

theorem growsTo_step (p : Provider) (a : Action) :
    GrowsTo p.store.signingKeys.rows (p.step a).store.signingKeys.rows := by
  rcases signingKeys_step p a with hsame | ⟨k, -, hnew, hput⟩ | ⟨keyId, k, -, hold, hput⟩
  · rw [hsame]
    exact .refl _
  · rw [hput]
    exact .putRow_new (Table.get?_eq_none_iff.mp hnew)
  · rw [hput]
    exact .putRow_revoke (Table.mem_of_get? hold) p.store.signingKeys.distinct

theorem growsTo_exec (p : Provider) (as : List Action) :
    GrowsTo p.store.signingKeys.rows (p.exec as).store.signingKeys.rows := by
  induction as generalizing p with
  | nil => exact .refl _
  | cons a as ih => exact (growsTo_step p a).trans (ih _)

/-! ## Revoked keys -/

/-- Whether the key of an identifier is in the store, and revoked. -/
def IsRevoked (p : Provider) (keyId : String) : Prop :=
  ∃ k, p.store.signingKeys.get? keyId = some k ∧ k.keyStatus = .revoked

theorem IsRevoked.exec (h : p.IsRevoked keyId) (as : List Action) :
    (p.exec as).IsRevoked keyId := by
  obtain ⟨k, hk, hrevoked⟩ := h
  obtain ⟨hmem, hid⟩ := Table.get?_eq_some_iff.mp hk
  obtain ⟨k', hmem', hsucceeds⟩ := (growsTo_exec p as).exists_of_mem hmem
  exact ⟨k', Table.get?_eq_some_iff.mpr ⟨hmem', hsucceeds.keyId_eq.trans hid⟩,
    hsucceeds.keyStatus_eq hrevoked⟩

theorem IsRevoked.sameBut {ps : List Part} (h : p.IsRevoked keyId) (hsame : SameBut ps p q)
    (hentities : .entities ∉ ps) : q.IsRevoked keyId := by
  rw [IsRevoked, (hsame.entities hentities).signingKeys]
  exact h

/-- A revocation that succeeds revokes the key. -/
theorem isRevoked_of_revocation {s : Store}
    (h : p.store.revokeSigningKey keyId = .ok s) :
    (p.step (.administer (.revokeSigningKey keyId))).IsRevoked keyId := by
  have hstore : (p.step (.administer (.revokeSigningKey keyId))).store = s := by
    show EntityChange.apply (.revokeSigningKey keyId) p.store = s
    rw [EntityChange.apply, EntityChange.result, h]
  rw [Store.revokeSigningKey] at h
  split at h
  · rename_i k hk
    obtain rfl := Except.ok.inj h
    refine ⟨k.revoke, ?_, rfl⟩
    rw [hstore, Table.get?_put, if_pos]
    exact (Table.key_of_get? hk).symm
  · cases h

/-- A revoked key is no key that is active and signs tokens. -/
theorem IsRevoked.ne_keyId {k : SigningKey} (h : p.IsRevoked keyId) (hk : k ∈ p.rootKeys)
    (hactive : k.isActiveJwtSigning = true) : k.keyId ≠ keyId := by
  obtain ⟨k', hk', hrevoked⟩ := h
  intro hid
  have hsome := Table.get?_eq_some_iff.mpr ⟨(List.mem_filter.mp hk).1, hid⟩
  obtain rfl := Option.some.inj (hsome.symm.trans hk')
  rw [SigningKey.isActiveJwtSigning, hrevoked] at hactive
  cases hactive

end Provider

/-- Whether keys that were read are without a key of an identifier. -/
structure LoadedKeys.Omits (l : LoadedKeys) (keyId : String) : Prop where
  signing : ∀ k ∈ l.signing, k.keyId ≠ keyId
  published : ∀ w ∈ l.published.keys, w.keyId ≠ keyId

namespace Provider

variable {p q : Provider} {as before after : List Action} {keyId : String} {l : LoadedKeys}

/-- A revoked key is not read. -/
theorem omits_of_loadKeys (h : p.IsRevoked keyId) (hl : p.loadKeys = .ok l) : l.Omits keyId := by
  obtain ⟨-, hpublished, ts, hts, hsigning⟩ := LoadedKeys.load_eq_ok hl
  constructor
  · intro t ht
    rw [hsigning, List.mem_mergeSort] at ht
    obtain ⟨k, hk, hread⟩ := LoadedKeys.exists_of_mem_mapM hts ht
    obtain ⟨hk, hactive, -⟩ := LoadedKeys.mem_candidates.mp hk
    rw [LoadedKeys.keyId_ofSigningKey hread]
    exact h.ne_keyId hk hactive
  · intro w hw
    obtain ⟨k, hk, hpublishes, hread⟩ := (KeySet.mem_publish? hpublished).mp hw
    rw [KeySet.keyId_ofSigningKey? hread]
    exact h.ne_keyId hk (SigningKey.isPublished?_eq_true_iff.mp hpublishes).1

/-- A key is out of use: it is revoked, and no fresh load has it. -/
structure OutOfUse (p : Provider) (keyId : String) : Prop where
  revoked : p.IsRevoked keyId
  omitted : ∀ l, p.freshKeys? = some l → l.Omits keyId

/-- What comes from the store afterwards is without the key, too. -/
theorem OutOfUse.sameBut {ps : List Part} (h : p.OutOfUse keyId) (hsame : SameBut ps p q)
    (hclock : .clock ∉ ps) (hentities : .entities ∉ ps) : q.OutOfUse keyId := by
  refine ⟨h.revoked.sameBut hsame hentities, fun l hl => ?_⟩
  rcases hsame.reloads hclock hentities with hkeys | hnone | ⟨l', hload, hkeys⟩
  · apply h.omitted
    rw [← hl, freshKeys?, freshKeys?, hkeys, hsame.now hclock, hsame.config]
  · rw [freshKeys?, hnone] at hl
    cases hl
  · rw [freshKeys?, hkeys] at hl
    obtain ⟨hl, -⟩ := Option.filter_eq_some_iff.mp hl
    obtain rfl := Option.some.inj hl
    exact omits_of_loadKeys h.revoked hload

theorem OutOfUse.omits_of_loadedKeys (h : p.OutOfUse keyId)
    (hl : loadedKeys.run p = (.ok l, q)) : l.Omits keyId := by
  rw [run_loadedKeys] at hl
  cases hfresh : p.keys.filter fun l => l.isFresh p.now p.config.keyCacheTtl with
  | some l' =>
    rw [hfresh] at hl
    obtain rfl := Except.ok.inj (Prod.mk.inj hl).1
    exact h.omitted l' hfresh
  | none =>
    rw [hfresh] at hl
    cases hload : p.loadKeys with
    | error e =>
      rw [hload] at hl
      cases (Prod.mk.inj hl).1
    | ok l' =>
      rw [hload] at hl
      obtain rfl := Except.ok.inj (Prod.mk.inj hl).1
      exact omits_of_loadKeys h.revoked hload

end Provider

/-! ## What is done with a key -/

/-- Whether the header of a token names a key. -/
def NamesKey (token keyId : String) : Prop :=
  ∃ t h, Jws.ofText? token = some t ∧ t.readHeader = .ok h ∧ h.keyId = some keyId

/-- A token names no other key than the one that signed it. -/
theorem eq_keyId_of_namesKey {token keyId : String} {k : TokenKey} {c : TokenClaims}
    (h : (k.sign? c).map Jws.text = some token) (hnames : NamesKey token keyId) :
    k.keyId = keyId := by
  obtain ⟨t, hsign, rfl⟩ := Option.map_eq_some_iff.mp h
  obtain ⟨t', header, ht', hheader, hkeyId⟩ := hnames
  obtain rfl := Option.some.inj ((Jws.ofText?_of_create? hsign).symm.trans ht')
  obtain rfl := Except.ok.inj ((Jws.readHeader_of_sign? hsign).symm.trans hheader)
  exact Option.some.inj hkeyId

/-- Nothing is done with the key of an identifier in a state. -/
structure Provider.NeverUses (p : Provider) (keyId : String) : Prop where
  unpublished : ∀ s, (publishedKeys.run p).1 = .ok s → ∀ w ∈ s.keys, w.keyId ≠ keyId
  notCurrent : ∀ k, (currentKey.run p).1 = .ok k → k.keyId ≠ keyId
  /-- Each signed token of an answer was signed with another key. -/
  unsigned : ∀ tenantId a r, Answers p tenantId r a → ∀ token ∈ r.signedTokens,
    (∃ (k : TokenKey) (c : TokenClaims), (k.sign? c).map Jws.text = some token ∧
      k.keyId ≠ keyId) ∧ ¬NamesKey token keyId
  unaccepted : ∀ tenantId token, NamesKey token keyId →
    ∀ c, ((verifyToken tenantId token).run p).1 ≠ .ok c

namespace Provider

variable {p q : Provider} {as before after : List Action} {keyId : String} {l : LoadedKeys}

theorem OutOfUse.keyId_ne_of_currentKey {k : TokenKey} (h : p.OutOfUse keyId)
    (hk : (currentKey.run p).1 = .ok k) : k.keyId ≠ keyId := by
  obtain ⟨l, hl, hcurrent⟩ := currentKey_eq_ok (Prod.ext hk rfl)
  exact (h.omits_of_loadedKeys hl).signing k (List.mem_of_find?_eq_some hcurrent)

theorem OutOfUse.keyId_ne_of_publishedKeys {s : KeySet} (h : p.OutOfUse keyId)
    (hs : (publishedKeys.run p).1 = .ok s) : ∀ w ∈ s.keys, w.keyId ≠ keyId := by
  obtain ⟨l, hl, rfl⟩ := publishedKeys_eq_ok (Prod.ext hs rfl)
  exact (h.omits_of_loadedKeys hl).published

theorem OutOfUse.neverUses (h : p.OutOfUse keyId) : p.NeverUses keyId where
  unpublished _ hs := h.keyId_ne_of_publishedKeys hs
  notCurrent _ hk := h.keyId_ne_of_currentKey hk
  unsigned tenantId a r hanswer token htoken := by
    obtain ⟨_, k, c, hmints⟩ := mints_of_answers hanswer htoken
    obtain ⟨r, s, hbefore, hk, -⟩ := hmints.key
    have hr := h.sameBut hbefore (by decide) (by decide)
    have hne : k.keyId ≠ keyId := hr.keyId_ne_of_currentKey (congrArg Prod.fst hk)
    exact ⟨⟨k, c, hmints.signed, hne⟩,
      fun hnames => hne (eq_keyId_of_namesKey hmints.signed hnames)⟩
  unaccepted tenantId token hnames c hc := by
    obtain ⟨s, t, hs, ht, haccepts⟩ := verifyToken_eq_ok.mp (Prod.ext hc rfl)
    obtain ⟨w, hfind, hsigned⟩ := haccepts.signed
    obtain ⟨t', header, ht', hheader, hkeyId⟩ := hnames
    obtain rfl := Option.some.inj (ht.symm.trans ht')
    obtain rfl := Except.ok.inj (hsigned.header.symm.trans hheader)
    exact h.keyId_ne_of_publishedKeys (congrArg Prod.fst hs) w (KeySet.find?_eq_some hfind).1
      (Option.some.inj hkeyId)

/-! ## When a key is out of use -/

/-- No reading of the clock in a run lies within a leap second. -/
def WithoutLeap (p : Provider) (as : List Action) : Prop :=
  ∀ before after, as = before ++ after → ¬(p.exec before).now.IsLeap

/-- At the end of a run, what was read up to `before` is too old to be fresh: the time that keys
are kept has passed since then, and two seconds more if the clock has shown a leap second. -/
def Outlasts (p : Provider) (as before : List Action) : Prop :=
  (p.WithoutLeap as ∧ p.config.keyCacheTtl.nanos ≤ (p.age as before).nanos) ∨
    p.config.keyCacheTtl.nanos + 2000000000 ≤ (p.age as before).nanos

/-- What was read earlier is older. -/
theorem Outlasts.not_recent {earlier rest : List Action} (h : p.Outlasts (earlier ++ rest ++ after)
      (earlier ++ rest)) (hclock : p.ClockForward (earlier ++ rest ++ after)) :
    ¬(p.age (earlier ++ rest ++ after) earlier).nanos < p.config.keyCacheTtl.nanos := by
  have hnow : (p.exec earlier).now ≤ (p.exec (earlier ++ rest)).now := by
    rw [exec_append]
    exact (clockForward_append.mp (clockForward_append.mp hclock).1).2.now_le
  rcases h with ⟨hleap, hold⟩ | hold
  · have hshorter := Instant.since_le_since (hleap earlier _ (List.append_assoc ..))
      (hleap (earlier ++ rest) after rfl) (hleap _ [] (List.append_nil _).symm) hnow
    exact Int.not_lt.mpr (Int.le_trans hold hshorter)
  · have hshorter := Instant.since_lt_since_add (c := (p.exec (earlier ++ rest ++ after)).now) hnow
    rw [age] at hold ⊢
    omega

/-- A revoked key is out of use once the keys have been invalidated since, or no load before
the revocation is fresh any more. -/
theorem outOfUse_of_revocation (hnone : p.keys = none) {s : Store}
    (hclock : p.ClockForward (before ++ .administer (.revokeSigningKey keyId) :: after))
    (hok : (p.exec before).store.revokeSigningKey keyId = .ok s)
    (hgone : .invalidateKeys ∈ after ∨
      p.Outlasts (before ++ .administer (.revokeSigningKey keyId) :: after) before) :
    (p.exec (before ++ .administer (.revokeSigningKey keyId) :: after)).OutOfUse keyId := by
  have hsince : ∀ rest,
      (p.exec (before ++ .administer (.revokeSigningKey keyId) :: rest)).IsRevoked keyId := by
    intro rest
    rw [exec_append, exec_cons]
    exact (isRevoked_of_revocation hok).exec rest
  refine ⟨hsince after, fun l hfresh => ?_⟩
  obtain ⟨loaded, hlast, hrecent⟩ := (freshKeys?_eq_some_iff hnone).mp hfresh
  obtain ⟨a, rest, hsplit, hloads, hkept⟩ := hlast.split
  rcases Action.before_or_after hsplit with ⟨middle, rfl, hsub⟩ | ⟨middle, rfl⟩
  · exfalso
    rcases hgone with hinvalidates | houtlasts
    · obtain ⟨rest₁, rest₂, hrest⟩ := List.append_of_mem (hsub hinvalidates)
      exact (hkept rest₁ _ rest₂ hrest).1 rfl
    · exact houtlasts.not_recent hclock hrecent
  · exact omits_of_loadKeys (hsince middle) hloads.load

end Provider

/-- **Revoked keys stay dead.** In every run that does not set the clock back, the signing keys
of the store have distinct identifiers over all tenants, and they only grow: none is removed,
none changes its place, and none changes but by its revocation.

A revocation that succeeds puts the key out of use. Once the keys have been invalidated after
it, or the time that keys are kept has passed since (and two seconds more, if the clock has
shown a leap second), the key is not published, nothing is signed with it, and no token that
names it is accepted. -/
theorem revoked_keys_stay_dead {p : Provider} {config : Config} {store : Store} {now : Instant}
    {random : Nat → Vector UInt8 32} {as : List Action}
    (hcreate : create? config store now random = some p) (hclock : p.ClockForward as) :
    ((p.exec as).store.signingKeys.rows.map SigningKey.keyId).Nodup ∧
    (∀ before after, as = before ++ after →
      GrowsTo (p.exec before).store.signingKeys.rows (p.exec as).store.signingKeys.rows) ∧
    ∀ before keyId after s, as = before ++ .administer (.revokeSigningKey keyId) :: after →
      (p.exec before).store.revokeSigningKey keyId = .ok s →
      (.invalidateKeys ∈ after ∨ p.Outlasts as before) → (p.exec as).NeverUses keyId := by
  have hnone : p.keys = none := keys_of_create? hcreate
  refine ⟨(p.exec as).store.signingKeys.distinct, fun before after hsplit => ?_,
    fun before keyId after s hsplit hok hgone => ?_⟩
  · rw [hsplit, exec_append]
    exact growsTo_exec _ after
  · subst hsplit
    exact (outOfUse_of_revocation hnone hclock hok hgone).neverUses

namespace RevocationSample

open TokenSample

/-- 2024-01-11T00:00:00Z. -/
def expiry : Instant := ⟨1704931200, 0, by decide, by decide, .inl (by decide)⟩

/-- The middle of the leap second after 2024-01-01T23:59:59Z. -/
def leap : Instant := ⟨1704153599, 1500000000, by decide, by decide, .inr (by decide)⟩

/-- 2024-01-02T12:00:00Z. -/
def noon : Instant := ⟨1704196800, 0, by decide, by decide, .inl (by decide)⟩

/-- A provider with one key, at an instant. -/
def provider (now : Instant) : Provider :=
  { opening with
    now
    store := { opening.store with signingKeys := Table.empty.put (signingKey "K1" expiry) } }

/-- The key is published, and revoked when the clock has changed; then the clock changes once
more. -/
def revocation (revokedAt later : Instant) : List Action :=
  [.publishedKeys, .setClock revokedAt] ++ .administer (.revokeSigningKey "K1") :: [.setClock later]

theorem create?_provider (now : Instant) :
    create? .standard (provider now).store now (provider now).random = some (provider now) := rfl

theorem usable_key : (signingKey "K1" expiry).Usable opening.grace :=
  usable_signingKey _ (by decide)

theorem allUsable_provider (now : Instant) :
    AllUsable (provider now).rootKeys (provider now).grace := by
  intro k hk _
  obtain rfl := List.mem_singleton.mp (show k ∈ [signingKey "K1" expiry] from hk)
  exact usable_key

theorem clockForward_revocation {now revokedAt later : Instant} (h : now ≤ revokedAt)
    (h' : revokedAt ≤ later) : (provider now).ClockForward (revocation revokedAt later) := by
  have hnow : ((provider now).step .publishedKeys).now = now :=
    (sameBut_step (provider now) .publishedKeys).now (by decide)
  refine ⟨?_, ?_, Instant.le_refl _, h', trivial⟩
  · rw [hnow]
    exact Instant.le_refl _
  · rw [hnow]
    exact h

/-- The key is revoked. -/
theorem exists_revocation (now revokedAt : Instant) : ∃ s,
    ((provider now).exec [.publishedKeys, .setClock revokedAt]).store.revokeSigningKey "K1"
      = .ok s := by
  have hkeys : ((provider now).step .publishedKeys).store.signingKeys
      = (provider now).store.signingKeys :=
    ((sameBut_step (provider now) .publishedKeys).entities (by decide)).signingKeys
  have hkey : ((provider now).exec
      [.publishedKeys, .setClock revokedAt]).store.signingKeys.get? "K1"
      = some (signingKey "K1" expiry) := by
    show ((provider now).step .publishedKeys).store.signingKeys.get? "K1" = _
    rw [hkeys]
    rfl
  rw [Store.revokeSigningKey, hkey]
  exact ⟨_, rfl⟩

/-- What was read before the revocation is still in use while it is fresh. -/
theorem exists_loadedKeys_revocation {now later : Instant} (revokedAt : Instant)
    (h : (later.since now).nanos < Config.standard.keyCacheTtl.nanos) :
    ∃ l, (provider now).loadKeys = .ok l ∧
      loadedKeys.run ((provider now).exec (revocation revokedAt later))
        = (.ok l, (provider now).exec (revocation revokedAt later)) := by
  obtain ⟨l, hload⟩ := LoadedKeys.exists_load (allUsable_provider now) now
  obtain ⟨q, hl⟩ := exists_run_loadedKeys (p := provider now) rfl hload
  refine ⟨l, hload, ?_⟩
  -- The changes of the clock and the revocation leave the keys in use as they are.
  have hkept : ∀ q : Provider, (q.exec (.setClock revokedAt ::
      .administer (.revokeSigningKey "K1") :: [.setClock later])).keys = q.keys := fun _ => rfl
  have hkeys : ((provider now).exec (revocation revokedAt later)).keys = some l := by
    rw [revocation, List.cons_append, exec_cons, List.singleton_append, hkept,
      (asksForKeys_publishedKeys _).2, hl]
    exact keys_of_loadedKeys hl
  have hconfig : ((provider now).exec (revocation revokedAt later)).config = .standard :=
    config_exec (provider now) _
  have hfresh : l.isFresh later Config.standard.keyCacheTtl = true := by
    rw [LoadedKeys.isFresh, (LoadedKeys.load_eq_ok hload).1]
    exact decide_eq_true h
  rw [run_loadedKeys, hkeys, hconfig, Option.filter_some]
  rw [show ((provider now).exec (revocation revokedAt later)).now = later from rfl, if_pos hfresh]

end RevocationSample

section

open TokenSample RevocationSample

/-- A key is out of use when the time that keys are kept, and two seconds, have passed since
its revocation. -/
theorem revoked_key_out_of_use :
    create? .standard (provider (instant 0)).store (instant 0) (provider (instant 0)).random
        = some (provider (instant 0)) ∧
      (provider (instant 0)).ClockForward (revocation (instant 60) (instant 50000)) ∧
      ((provider (instant 0)).exec (revocation (instant 60) (instant 50000))).NeverUses "K1" := by
  have hcreate := create?_provider (instant 0)
  have hclock : (provider (instant 0)).ClockForward (revocation (instant 60) (instant 50000)) :=
    clockForward_revocation (by decide) (by decide)
  obtain ⟨s, hok⟩ := exists_revocation (instant 0) (instant 60)
  exact ⟨hcreate, hclock, (revoked_keys_stay_dead hcreate hclock).2.2 _ _ _ s rfl hok
    (.inr (.inr (by decide)))⟩

/-- A key that was read within a leap second is published and signs when the time that keys are
kept has passed since its revocation. -/
theorem revoked_key_still_in_use :
    create? .standard (provider leap).store leap (provider leap).random = some (provider leap) ∧
      (provider leap).ClockForward (revocation (instant 86400) noon) ∧
      (∃ s, ((provider leap).exec
        [.publishedKeys, .setClock (instant 86400)]).store.revokeSigningKey "K1" = .ok s) ∧
      (provider leap).config.keyCacheTtl.nanos ≤ ((provider leap).age
        (revocation (instant 86400) noon) [.publishedKeys, .setClock (instant 86400)]).nanos ∧
      (∃ k, (currentKey.run ((provider leap).exec (revocation (instant 86400) noon))).1 = .ok k ∧
        k.keyId = "K1") ∧
      ∃ s, (publishedKeys.run
          ((provider leap).exec (revocation (instant 86400) noon))).1 = .ok s ∧
        ∃ w ∈ s.keys, w.keyId = "K1" := by
  have hfresh : (noon.since leap).nanos < Config.standard.keyCacheTtl.nanos := by decide
  obtain ⟨l, hload, hrun⟩ := exists_loadedKeys_revocation (instant 86400) hfresh
  have hkey : signingKey "K1" expiry ∈ (provider leap).rootKeys := List.mem_singleton.mpr rfl
  refine ⟨create?_provider leap, clockForward_revocation (by decide) (by decide),
    exists_revocation _ _, by decide, ?_, l.published, by rw [run_publishedKeys hrun], ?_⟩
  · obtain ⟨t, ht⟩ := LoadedKeys.exists_current? hload hkey rfl (show leap ≤ noon by decide)
      (by decide)
    obtain ⟨k, hk, -, -, hread⟩ := LoadedKeys.exists_of_current? hload ht
    obtain rfl := List.mem_singleton.mp (show k ∈ [signingKey "K1" expiry] from hk)
    refine ⟨t, ?_, LoadedKeys.keyId_ofSigningKey hread⟩
    rw [run_currentKey hrun]
    rw [show ((provider leap).exec (revocation (instant 86400) noon)).now = noon from rfl, ht]
  · obtain ⟨privateKey, certificates, -, hpublic, -⟩ := usable_key.halves
    have hpublished := (LoadedKeys.load_eq_ok hload).2.1
    have hread : WebKey.ofSigningKey? (signingKey "K1" expiry)
        = some (.signing "K1" privateKey.publicKey certificates) := by
      rw [WebKey.ofSigningKey?, hpublic]
      rfl
    exact ⟨_, (KeySet.mem_publish? hpublished).mpr ⟨_, hkey, by decide, hread⟩, rfl⟩

end

end OpenIdProvider
