import OpenIdProvider.Proofs.Issuance
import OpenIdProvider.Proofs.KeyFreshness

/-!
# The key that signs among those that are published

One load gives the keys that sign and the keys that are published, each chosen by a condition of
its own. Both conditions ask for an active key for signing tokens; besides, a key that signs has
not expired, and a key that is published has a readable public half and has not expired for
longer than the grace period.

So the key that signs is published as far as relying parties can read it, unless the grace
period is negative (`signing_key_published_iff`). A key without a public half signs and is not
published (`key_signs_published_or_not`).
-/

namespace OpenIdProvider

open Op Provider

/-! ## Publication of one key -/

namespace LoadedKeys

variable {keys : List SigningKey} {loadedAt now : Instant} {grace : Span} {l : LoadedKeys}
  {k : SigningKey}

/-- A key is published when it has to be and its public half is readable, as no other key has its
identifier. -/
theorem exists_published_iff (h : load keys loadedAt grace = .ok l)
    (hdistinct : (keys.map SigningKey.keyId).Nodup) (hk : k ∈ keys) :
    (∃ w ∈ l.published.keys, w.keyId = k.keyId) ↔
      k.isPublished? loadedAt grace = some true ∧ (WebKey.ofSigningKey? k).isSome = true := by
  obtain ⟨-, hpublished, -⟩ := load_eq_ok h
  constructor
  · rintro ⟨w, hw, hid⟩
    obtain ⟨k', hk', hpublishes, hread⟩ := (KeySet.mem_publish? hpublished).mp hw
    obtain rfl : k' = k := List.inj_on_of_nodup_map hdistinct hk' hk
      ((KeySet.keyId_ofSigningKey? hread).symm.trans hid)
    exact ⟨hpublishes, by rw [hread]; rfl⟩
  · rintro ⟨hpublishes, hreadable⟩
    obtain ⟨w, hread⟩ := Option.isSome_iff_exists.mp hreadable
    exact ⟨w, (KeySet.mem_publish? hpublished).mpr ⟨k, hk, hpublishes, hread⟩,
      KeySet.keyId_ofSigningKey? hread⟩

/-- A key that has not expired has to be published, unless the grace period is negative. -/
theorem isPublished?_of_candidate (h : load keys loadedAt grace = .ok l) {seconds : Int}
    (hgrace : Span.ofSeconds? seconds = some grace) (hseconds : 0 ≤ seconds)
    (hk : k ∈ candidates keys loadedAt) : k.isPublished? loadedAt grace = some true := by
  obtain ⟨-, hpublished, -⟩ := load_eq_ok h
  obtain ⟨hk, hactive, hlater⟩ := mem_candidates.mp hk
  have hsome := KeySet.isSome_of_publish? hpublished k hk
  rw [SigningKey.isPublished?, if_pos hactive, Option.isSome_map] at hsome
  obtain ⟨t, ht⟩ := Option.isSome_iff_exists.mp hsome
  have hend : loadedAt < t :=
    Instant.lt_of_lt_of_le hlater (Instant.le_of_add? hseconds hgrace ht)
  exact SigningKey.isPublished?_eq_true_iff.mpr ⟨hactive, t, ht, hend⟩

end LoadedKeys

/-! ## The key that signs -/

/-- The key that signs is one of those that were read from the store in the run, and the keys
that are published at this instant were read with it. -/
theorem exists_load_of_currentKey {p q : Provider} {as : List Action} {k : TokenKey}
    (hnone : p.keys = none) (hk : currentKey.run (p.exec as) = (.ok k, q)) :
    ∃ before l r, before <+: as ∧
      LoadedKeys.load (p.exec before).rootKeys (p.exec before).now p.grace = .ok l ∧
      l.current? (p.exec as).now = some k ∧ publishedKeys.run q = (.ok l.published, r) := by
  obtain ⟨l, hl, hcurrent⟩ := currentKey_eq_ok hk
  obtain ⟨r, hagain⟩ := run_loadedKeys_again hl
  -- The keys in use are those of the last load of the run that ends with this very call.
  have hkeys : (p.exec (as ++ [.currentKey])).keys = some l := by
    rw [exec_concat, (asksForKeys_currentKey _).2, hl]
    exact keys_of_loadedKeys hl
  obtain ⟨before, hlast⟩ := exists_lastLoad hnone hkeys
  have hprefix : before <+: as := by
    obtain ⟨a, after, hsplit, -⟩ := hlast.split
    rcases Action.last_or_before hsplit with ⟨rfl, -⟩ | ⟨rest, -, rfl⟩
    · exact List.prefix_rfl
    · exact List.prefix_append before _
  exact ⟨before, l, r, hprefix, hlast.load, hcurrent, run_publishedKeys hagain⟩

/-- In every run, the key that signs is one of the store that was read in the run, and the keys
that are published at this instant have one with its identifier exactly when it has to be
published and its public half is readable; the latter alone counts, unless the grace period is
negative. -/
theorem signing_key_published_iff {p q : Provider} {config : Config} {store : Store}
    {now : Instant} {random : Nat → Vector UInt8 32} {as : List Action} {k : TokenKey}
    (hcreate : create? config store now random = some p)
    (hk : currentKey.run (p.exec as) = (.ok k, q)) :
    ∃ before key s r, before <+: as ∧ key ∈ (p.exec before).rootKeys ∧
      TokenKey.ofSigningKey key = .ok k ∧ publishedKeys.run q = (.ok s, r) ∧
      ((∃ w ∈ s.keys, w.keyId = k.keyId) ↔
        key.isPublished? (p.exec before).now p.grace = some true ∧
          (WebKey.ofSigningKey? key).isSome = true) ∧
      (0 ≤ config.keys.gracePeriod →
        ((∃ w ∈ s.keys, w.keyId = k.keyId) ↔ (WebKey.ofSigningKey? key).isSome = true)) := by
  have hgrace : Span.ofSeconds? config.keys.gracePeriod = some p.grace :=
    grace_of_create? hcreate []
  obtain ⟨before, l, r, hprefix, hload, hcurrent, hpublished⟩ :=
    exists_load_of_currentKey (keys_of_create? hcreate) hk
  obtain ⟨key, hkey, -, hread⟩ := LoadedKeys.exists_candidate_of_current? hload hcurrent
  have hstored := (LoadedKeys.mem_candidates.mp hkey).1
  have hiff := LoadedKeys.exists_published_iff hload (nodup_rootKeys _) hstored
  rw [← LoadedKeys.keyId_ofSigningKey hread] at hiff
  refine ⟨before, key, l.published, r, hprefix, hstored, hread, hpublished, hiff,
    fun hseconds => ?_⟩
  rw [hiff]
  exact and_iff_right (LoadedKeys.isPublished?_of_candidate hload hgrace hseconds hkey)

namespace PublicationSample

open TokenSample

/-- A key that never had a public half. -/
def bareKey : SigningKey :=
  SigningKey.create "K1" "root" privateBlock.text (instant 600) (instant 0)

/-- A provider whose only key has no public half. -/
def bare : Provider :=
  { opening with store := { opening.store with signingKeys := Table.empty.put bareKey } }

theorem rootKeys_bare : bare.rootKeys = [bareKey] := rfl

theorem read_bareKey :
    TokenKey.ofSigningKey bareKey = .ok ⟨"K1", instant 600, privateKey⟩ := by
  rw [TokenKey.ofSigningKey, show bareKey.privateKey = privateBlock.text from rfl,
    show bareKey.passphrase = none from rfl, read_privateBlock]
  rfl

/-- A key without a public half is read all the same. -/
theorem exists_currentKey_bare : ∃ k q, currentKey.run bare = (.ok k, q) := by
  have hmem : bareKey ∈ bare.rootKeys := by
    rw [rootKeys_bare]
    exact List.mem_cons_self
  have hexpiry : ∀ k ∈ bare.rootKeys, k.isActiveJwtSigning = true →
      (k.expiresAt.add? bare.grace).isSome := by
    intro k hk _
    rw [rootKeys_bare] at hk
    obtain rfl := List.mem_singleton.mp hk
    decide
  have hread : ∀ k ∈ LoadedKeys.candidates bare.rootKeys bare.now,
      ∃ t, TokenKey.ofSigningKey k = .ok t := by
    intro k hk
    have hk := (LoadedKeys.mem_candidates.mp hk).1
    rw [rootKeys_bare] at hk
    obtain rfl := List.mem_singleton.mp hk
    exact ⟨_, read_bareKey⟩
  obtain ⟨l, hload⟩ := LoadedKeys.exists_load_of_readable hexpiry hread
  exact exists_currentKey rfl hload hmem rfl (by decide)

end PublicationSample

section

open TokenSample PublicationSample

/-- A key with both halves signs and is published, and a key without a public half signs and
is not published. -/
theorem key_signs_published_or_not :
    (∃ k q s r, currentKey.run opening = (.ok k, q) ∧ publishedKeys.run q = (.ok s, r) ∧
      ∃ w ∈ s.keys, w.keyId = k.keyId) ∧
    ∃ k q s r, currentKey.run bare = (.ok k, q) ∧ publishedKeys.run q = (.ok s, r) ∧
      ¬∃ w ∈ s.keys, w.keyId = k.keyId := by
  have hgrace : 0 ≤ Config.standard.keys.gracePeriod := by decide
  constructor
  · have hcreate : create? .standard opening.store (instant 0) opening.random = some opening := rfl
    obtain ⟨k, q, hk, -⟩ := exists_currentKey_sample rfl rfl rfl rootKeys_opening
    have hk : currentKey.run (opening.exec []) = (.ok k, q) := hk
    obtain ⟨before, key, s, r, hbefore, hkey, -, hs, -, hiff⟩ :=
      signing_key_published_iff hcreate hk
    obtain rfl := List.prefix_nil.mp hbefore
    obtain rfl := List.mem_singleton.mp (rootKeys_opening ▸ hkey)
    obtain ⟨_, _, -, hpublic, -⟩ := (allUsable_opening _ hkey rfl).halves
    refine ⟨k, q, s, r, hk, hs, (hiff hgrace).mpr ?_⟩
    rw [WebKey.ofSigningKey?, hpublic]
    rfl
  · have hcreate : create? .standard bare.store (instant 0) bare.random = some bare := rfl
    obtain ⟨k, q, hk⟩ := exists_currentKey_bare
    have hk : currentKey.run (bare.exec []) = (.ok k, q) := hk
    obtain ⟨before, key, s, r, hbefore, hkey, -, hs, -, hiff⟩ :=
      signing_key_published_iff hcreate hk
    obtain rfl := List.prefix_nil.mp hbefore
    obtain rfl := List.mem_singleton.mp (rootKeys_bare ▸ hkey)
    refine ⟨k, q, s, r, hk, hs, fun hpublished => ?_⟩
    have hpublic := (hiff hgrace).mp hpublished
    cases hpublic

end

end OpenIdProvider
