import OpenIdProvider.Proofs.TokenLifetime

/-!
# How old the keys in use are

The keys in use are a view of the keys in the store, as they were when they were last read
(`Provider.LastLoad`). Every action either leaves them, or forgets them, or reads them again
because none are fresh (`Provider.keys_step`).

* `LoadedKeys.exists_isCurrent`: the key that signs is the one with the latest expiry, and of
  several such keys the one created first;
* `keys_bounded_staleness`: what the provider says of its keys is true of the store as it was
  at the last load, which is not older than the settings allow, or is done for the answer.

Keys that may be used for no time at all are read for every answer, and then the load is not
younger than the settings allow (`answer_without_ttl`).
-/

namespace OpenIdProvider

open Op Provider

/-! ## The key that signs -/

/-- The key of a list that signs at an instant: of those that can sign then, no other expires
later, and none that stands before it expires with it. -/
structure IsCurrent (keys : List SigningKey) (now : Instant) (k : SigningKey) : Prop where
  signs : k.isActiveJwtSigning = true ∧ now < k.expiresAt
  chosen : ∃ before after, keys = before ++ k :: after ∧
    (∀ k' ∈ LoadedKeys.candidates before now, k'.expiresAt < k.expiresAt) ∧
    ∀ k' ∈ LoadedKeys.candidates after now, k'.expiresAt ≤ k.expiresAt

namespace LoadedKeys

/-- What is found first in a sorted list comes first among those that satisfy the condition,
and strictly before those of them that stood before it in the list. -/
theorem first_of_find?_mergeSort {α : Type} {le : α → α → Bool} {p : α → Bool}
    {before after : List α} {t : α} (h : ((before ++ t :: after).mergeSort le).find? p = some t)
    (hnodup : (before ++ t :: after).Nodup)
    (htrans : ∀ a b c, le a b = true → le b c = true → le a c = true)
    (htotal : ∀ a b, (le a b || le b a) = true) :
    (∀ a ∈ before, p a = true → le a t = false) ∧ ∀ a ∈ after, p a = true → le t a = true := by
  obtain ⟨-, skipped, rest, hsorted, hskipped⟩ := List.find?_eq_some_iff_append.mp h
  have hnodup' : (skipped ++ t :: rest).Nodup := by
    rw [← hsorted]
    exact (List.mergeSort_perm _ _).nodup_iff.mpr hnodup
  have hpairwise : (skipped ++ t :: rest).Pairwise fun a b => le a b = true := by
    rw [← hsorted]
    exact List.pairwise_mergeSort htrans htotal _
  -- What satisfies the condition was not skipped, so it comes after `t`.
  have hrest : ∀ a ∈ before ++ t :: after, p a = true → a ≠ t → a ∈ rest := by
    intro a ha hp hne
    have hmem : a ∈ skipped ++ t :: rest := hsorted ▸ List.mem_mergeSort.mpr ha
    rcases List.mem_append.mp hmem with hmem | hmem
    · simpa [hp] using hskipped a hmem
    · exact (List.mem_cons.mp hmem).resolve_left hne
  have hle : ∀ a ∈ rest, le t a = true :=
    (List.pairwise_cons.mp (List.pairwise_append.mp hpairwise).2.1).1
  have hne : ∀ a, a ∈ before ∨ a ∈ after → a ≠ t := by
    rintro a (ha | ha) rfl
    · exact (List.nodup_append.mp hnodup).2.2 a ha a List.mem_cons_self rfl
    · exact (List.nodup_cons.mp (List.nodup_append.mp hnodup).2.1).1 ha
  refine ⟨fun a ha hp => ?_, fun a ha hp =>
    hle a (hrest a (List.mem_append_right _ (List.mem_cons_of_mem _ ha)) hp (hne a (.inr ha)))⟩
  have harest := hrest a (List.mem_append_left _ ha) hp (hne a (.inl ha))
  by_contra hat
  -- The sort is stable, so `a` would still stand before `t`.
  have hpair : [a, t].Sublist (skipped ++ t :: rest) := by
    rw [← hsorted]
    refine List.pair_sublist_mergeSort htrans htotal (by simpa using hat) ?_
    exact (List.singleton_sublist.mpr ha).append (List.singleton_sublist.mpr List.mem_cons_self)
  have hdisjoint := (List.nodup_append.mp hnodup').2.2
  have ht := (List.nodup_cons.mp (List.nodup_append.mp hnodup').2.1).1
  obtain ⟨l₁, l₂, hl, h₁, h₂⟩ := List.sublist_append_iff.mp hpair
  cases l₁ with
  | nil =>
    obtain rfl : [a, t] = l₂ := hl
    rcases List.sublist_cons_iff.mp h₂ with h₂ | ⟨l, hl, -⟩
    · exact ht (h₂.subset (by simp))
    · exact hne a (.inl ha) (List.cons.inj hl).1
  | cons b l₁ =>
    obtain ⟨rfl, -⟩ := List.cons.inj hl
    exact hdisjoint a (h₁.subset List.mem_cons_self) a (List.mem_cons_of_mem _ harest) rfl

variable {keys : List SigningKey} {loadedAt now : Instant} {grace : Span} {l : LoadedKeys}
  {k : SigningKey} {t : TokenKey}

theorem mem_candidates :
    k ∈ candidates keys now ↔ k ∈ keys ∧ k.isActiveJwtSigning = true ∧ now < k.expiresAt := by
  rw [candidates, List.mem_filter, Bool.and_eq_true]
  exact Iff.rfl

/-- What was read of some keys comes in their order. -/
theorem split_of_mapM {before after : List SigningKey} {ts : List TokenKey}
    (h : (before ++ k :: after).mapM TokenKey.ofSigningKey = .ok ts)
    (hk : TokenKey.ofSigningKey k = .ok t) :
    ∃ ts₁ ts₂, ts = ts₁ ++ t :: ts₂ ∧ before.map TokenKey.ofSigningKey = ts₁.map .ok ∧
      after.map TokenKey.ofSigningKey = ts₂.map .ok := by
  have hmap := map_of_mapM h
  rw [List.map_append, List.map_cons, hk] at hmap
  obtain ⟨ts₁, ts', rfl, h₁, h'⟩ := List.map_eq_append_iff.mp hmap.symm
  obtain ⟨t', ts₂, rfl, ht, h₂⟩ := List.map_eq_cons_iff.mp h'
  obtain rfl := Except.ok.inj ht
  exact ⟨ts₁, ts₂, rfl, h₁.symm, h₂.symm⟩

/-- No key is read twice, as no two keys have one identifier. -/
theorem nodup_of_mapM {ts : List TokenKey} (hdistinct : (keys.map SigningKey.keyId).Nodup)
    (h : keys.mapM TokenKey.ofSigningKey = .ok ts) : ts.Nodup := by
  refine List.Nodup.of_map TokenKey.keyId ?_
  have hids : ts.map TokenKey.keyId = keys.map SigningKey.keyId := by
    have hmap := map_of_mapM h
    clear h
    induction keys generalizing ts with
    | nil =>
      obtain rfl := List.map_eq_nil_iff.mp hmap.symm
      rfl
    | cons k keys ih =>
      obtain ⟨t, ts, rfl, ht, hts⟩ := List.map_eq_cons_iff.mp hmap.symm
      rw [List.map_cons, List.map_cons, keyId_ofSigningKey ht.symm,
        ih (List.nodup_cons.mp hdistinct).2 hts.symm]
  rw [hids]
  exact hdistinct

/-- The key that signs is chosen among all keys that can sign, although it is found among
those that could sign when the keys were read. -/
theorem exists_isCurrent (h : load keys loadedAt grace = .ok l)
    (hdistinct : (keys.map SigningKey.keyId).Nodup) (hnow : loadedAt ≤ now)
    (ht : l.current? now = some t) :
    ∃ k, IsCurrent keys now k ∧ TokenKey.ofSigningKey k = .ok t := by
  obtain ⟨k, hk, hactive, hlater, hread⟩ := exists_of_current? h ht
  obtain ⟨-, -, ts, hts, hsigning⟩ := load_eq_ok h
  obtain ⟨before, after, rfl⟩ := List.append_of_mem hk
  have hcandidate : k.isActiveJwtSigning && loadedAt.before k.expiresAt := by
    rw [hactive, Bool.true_and]
    exact Instant.lt_of_le_of_lt hnow hlater
  have hcandidates : candidates (before ++ k :: after) loadedAt
      = candidates before loadedAt ++ k :: candidates after loadedAt := by
    rw [candidates, List.filter_append, List.filter_cons, if_pos hcandidate]
    rfl
  have hnodup : ts.Nodup :=
    nodup_of_mapM (hdistinct.sublist (List.filter_sublist.map _)) hts
  rw [hcandidates] at hts
  obtain ⟨ts₁, ts₂, rfl, h₁, h₂⟩ := split_of_mapM hts hread
  rw [current?, hsigning] at ht
  obtain ⟨hbefore, hafter⟩ := first_of_find?_mergeSort ht hnodup
    (fun a b c hab hbc => decide_eq_true
      (Instant.le_trans (of_decide_eq_true hbc) (of_decide_eq_true hab)))
    (fun a b => by simpa using Instant.le_total b.expiresAt a.expiresAt)
  have hexpiry := expiresAt_ofSigningKey hread
  -- A key that can sign now could sign when the keys were read, so it was read.
  have hfound : ∀ (ks : List SigningKey) (us : List TokenKey),
      (candidates ks loadedAt).map TokenKey.ofSigningKey = us.map .ok →
      ∀ k' ∈ candidates ks now, ∃ u ∈ us, u.expiresAt = k'.expiresAt ∧ now < u.expiresAt := by
    intro ks us hmap k' hk'
    obtain ⟨hk', hactive', hlater'⟩ := mem_candidates.mp hk'
    have hthen := mem_candidates.mpr ⟨hk', hactive', Instant.lt_of_le_of_lt hnow hlater'⟩
    obtain ⟨u, hu, he⟩ := List.mem_map.mp (hmap ▸ List.mem_map_of_mem hthen)
    have hexpiry' := expiresAt_ofSigningKey he.symm
    exact ⟨u, hu, hexpiry', hexpiry' ▸ hlater'⟩
  refine ⟨k, ⟨⟨hactive, hlater⟩, before, after, rfl, fun k' hk' => ?_, fun k' hk' => ?_⟩, hread⟩
  · obtain ⟨u, hu, hu', hsigns⟩ := hfound before ts₁ h₁ k' hk'
    have hfirst := hbefore u hu hsigns
    rw [decide_eq_false_iff_not, hexpiry, hu', ← Instant.not_lt, not_not] at hfirst
    exact hfirst
  · obtain ⟨u, hu, hu', hsigns⟩ := hfound after ts₂ h₂ k' hk'
    have hlast := hafter u hu hsigns
    rw [decide_eq_true_iff, hexpiry, hu'] at hlast
    exact hlast

/-- No key signs exactly when no key can sign. -/
theorem current?_eq_none_iff (h : load keys loadedAt grace = .ok l) (hnow : loadedAt ≤ now) :
    l.current? now = none ↔ candidates keys now = [] := by
  constructor
  · intro hnone
    refine List.eq_nil_iff_forall_not_mem.mpr fun k hk => ?_
    obtain ⟨hk, hactive, hlater⟩ := mem_candidates.mp hk
    obtain ⟨t, ht⟩ := exists_current? h hk hactive hnow hlater
    rw [hnone] at ht
    cases ht
  · intro hempty
    cases ht : l.current? now with
    | none => rfl
    | some t =>
      obtain ⟨k, hk, hactive, hlater, -⟩ := exists_of_current? h ht
      have hmem := mem_candidates.mpr ⟨hk, hactive, hlater⟩
      rw [hempty] at hmem
      cases hmem

end LoadedKeys

/-! ## Reading the keys again -/

namespace Provider

/-- The keys in use, unless they were read too long ago. -/
def freshKeys? (p : Provider) : Option LoadedKeys :=
  p.keys.filter fun l => l.isFresh p.now p.config.keyCacheTtl

/-- Whether `q` uses the keys that `p` uses or, if none of these are fresh, those of the store
of `p`. -/
def Refreshes (p q : Provider) : Prop :=
  q.keys = p.keys ∨ (p.freshKeys? = none ∧ ∃ l, p.loadKeys = .ok l ∧ q.keys = some l)

theorem Refreshes.trans {p q r : Provider} {ps : List Part} (h : p.Refreshes q)
    (hsame : SameBut ps p q) (hclock : .clock ∉ ps) (hentities : .entities ∉ ps)
    (h' : q.Refreshes r) : p.Refreshes r := by
  rcases h' with hkeys | ⟨hstale, l, hload, hkeys⟩
  · rw [Refreshes, hkeys]
    exact h
  · refine .inr ⟨?_, l, ?_, hkeys⟩
    · rcases h with hkeys | ⟨hstale, -⟩
      · rw [freshKeys?, hkeys, hsame.now hclock, hsame.config] at hstale
        exact hstale
      · exact hstale
    · rw [← hsame.loadKeys_eq hclock hentities]
      exact hload

end Provider

namespace Op

variable {α β : Type}

/-- The parts that operations on a provider may change. -/
def operationParts : List Part :=
  [.pendingLogins, .codes, .refreshGrants, .assertionUses, .keys]

/-- Whether an operation reads the keys only if none are fresh, and never forgets them. -/
structure RefreshesKeys (x : Op α) : Prop where
  touches : Touches operationParts x
  refreshes : ∀ p : Provider, p.Refreshes (x.run p).2

namespace RefreshesKeys

variable {x : Op α} {f : α → Op β} {ps : List Part}

theorem of_touches (h : Touches ps x) (hkeys : .keys ∉ ps) (hs : ps ⊆ operationParts) :
    RefreshesKeys x :=
  ⟨h.mono hs, fun p => .inl ((h p).keys hkeys)⟩

theorem bind (hx : RefreshesKeys x) (hf : ∀ a, RefreshesKeys (f a)) : RefreshesKeys (x >>= f) := by
  refine ⟨.bind hx.touches fun a => (hf a).touches, fun p => ?_⟩
  rw [run_bind]
  have hsame := hx.touches p
  have h := hx.refreshes p
  rcases hr : x.run p with ⟨e | a, q⟩
  · simpa [hr] using h
  · rw [hr] at h hsame
    exact h.trans hsame (by decide) (by decide) ((hf a).refreshes q)

theorem of_quiet (h : Touches [] x) : RefreshesKeys x :=
  of_touches h List.not_mem_nil (List.nil_subset _)

/-- After a part that changes nothing. -/
theorem bind_quiet (hx : Touches [] x) (hf : ∀ a, RefreshesKeys (f a)) : RefreshesKeys (x >>= f) :=
  bind (of_quiet hx) hf

theorem guard {c : Prop} [Decidable c] {e : ProtocolError} (hx : RefreshesKeys x) :
    RefreshesKeys (if c then (Op.refuse e : Op PUnit) >>= fun _ => x else x) := by
  split
  · exact bind_quiet (.refuse e) fun _ => hx
  · exact hx

theorem tryCatch {f : Fault → Op α} (hx : RefreshesKeys x) (hf : ∀ e, RefreshesKeys (f e)) :
    RefreshesKeys (MonadExcept.tryCatch x f) := by
  refine ⟨.tryCatch hx.touches fun e => (hf e).touches, fun p => ?_⟩
  rw [run_tryCatch]
  have hsame := hx.touches p
  have h := hx.refreshes p
  rcases hr : x.run p with ⟨e | a, q⟩
  · rw [hr] at h hsame
    exact h.trans hsame (by decide) (by decide) ((hf e).refreshes q)
  · simpa [hr] using h

end RefreshesKeys

theorem refreshesKeys_loadedKeys : RefreshesKeys loadedKeys := by
  refine ⟨touches_loadedKeys.mono (by decide), fun p => ?_⟩
  rw [run_loadedKeys]
  cases hfresh : p.keys.filter fun l => l.isFresh p.now p.config.keyCacheTtl with
  | some l => exact .inl rfl
  | none =>
    cases hload : p.loadKeys with
    | error e => exact .inl rfl
    | ok l => exact .inr ⟨hfresh, l, hload, rfl⟩

theorem refreshesKeys_currentKey : RefreshesKeys currentKey :=
  .bind refreshesKeys_loadedKeys fun _ => .of_quiet (.bind .provider fun _ => .orRefuse _ _)

theorem refreshesKeys_publishedKeys : RefreshesKeys publishedKeys :=
  .bind refreshesKeys_loadedKeys fun _ => .of_quiet (.pure _)

theorem refreshesKeys_verifyToken (tenantId token : String) :
    RefreshesKeys (verifyToken tenantId token) := by
  refine .bind_quiet (touches_readToken token) fun x => ?_
  refine .bind refreshesKeys_publishedKeys fun keys => .of_quiet ?_
  split
  · split
    · refine .bind .provider fun p => ?_
      split
      · exact .refuse _
      · split
        · exact .refuse _
        · split
          · exact .refuse _
          · exact .pure _
    · exact .refuse _
  · exact .refuse _

theorem refreshesKeys_issueEndUser (tenantId clientId userId scope : String)
    (refreshCount : Nat) :
    RefreshesKeys (issueEndUser tenantId clientId userId scope refreshCount) := by
  refine .bind_quiet (touches_activeTenant _ _) fun _ =>
    .bind_quiet (touches_enabledClient _ _ _) fun _ => .bind_quiet .provider fun _ =>
      .bind_quiet (.orRefuse _ _) fun _ => .bind refreshesKeys_currentKey fun _ => ?_
  refine .bind_quiet .provider fun _ => .bind_quiet (touches_freshClaims _ _ _ _ _) fun _ =>
    .bind_quiet (touches_sign _ _) fun _ => .bind_quiet (touches_idToken _ _) fun _ => ?_
  exact .bind (.of_touches (touches_refreshToken _ _ _ _ _) (by decide) (by decide)) fun _ =>
    .of_quiet (.pure _)

theorem refreshesKeys_issueService (tenantId clientId : String) (scope : Option String) :
    RefreshesKeys (issueService tenantId clientId scope) :=
  .bind_quiet (touches_activeTenant _ _) fun _ => .bind_quiet (touches_enabledClient _ _ _) fun _ =>
    .guard <| .bind_quiet .provider fun _ => .bind_quiet (.ofExcept _) fun _ =>
      .bind refreshesKeys_currentKey fun _ => .of_quiet <| .bind .provider fun _ =>
        .bind (touches_freshClaims _ _ _ _ _) fun _ => .bind (touches_sign _ _) fun _ => .pure _

theorem refreshesKeys_anonymousCaller (tenantId token : String) :
    RefreshesKeys (anonymousCaller tenantId token) := by
  refine .bind (.tryCatch (refreshesKeys_verifyToken _ _) fun e => ?_) fun caller => .of_quiet ?_
  · cases e
    · exact .of_quiet (.refuse _)
    · exact .of_quiet (.throw _)
  · split
    · exact .pure _
    · exact .refuse _

theorem refreshesKeys_issueAnonymous (tenantId clientId callerToken : String) :
    RefreshesKeys (issueAnonymous tenantId clientId callerToken) :=
  .bind_quiet (touches_activeTenant _ _) fun _ =>
    .guard <| .bind (refreshesKeys_anonymousCaller _ _) fun _ =>
      .bind_quiet (touches_enabledClient _ _ _) fun _ => .bind refreshesKeys_currentKey fun _ =>
        .of_quiet <| .bind .provider fun _ => .bind .freshUuid fun _ =>
          .bind (touches_freshClaims _ _ _ _ _) fun _ => .bind (touches_sign _ _) fun _ =>
            .bind (.emit _) fun _ => .pure _

theorem refreshesKeys_grantFor (g : GrantType) (tenantId : String) (client : Client)
    (r : TokenRequest) : RefreshesKeys (grantFor g tenantId client r) := by
  cases g with
  | authorizationCode =>
    exact .bind_quiet (.orRefuse _ _) fun _ => .bind_quiet (.orRefuse _ _) fun _ =>
      .bind (.of_touches (touches_redeem _ _ _ _ _) (by decide) (by decide)) fun _ =>
        refreshesKeys_issueEndUser _ _ _ _ _
  | refreshToken =>
    exact .bind_quiet (.orRefuse _ _) fun _ => .bind_quiet .provider fun _ =>
      .bind_quiet (.orRefuse _ _) fun _ => .bind_quiet (.ofExcept _) fun _ =>
        .bind (.of_touches (.takeRecord keptIn_refreshGrants _) (by decide) (by decide)) fun _ =>
          .tryCatch (refreshesKeys_issueEndUser _ _ _ _ _) fun _ =>
            .of_touches (touches_restoreGrant _ _) (by decide) (by decide)
  | clientCredentials => exact refreshesKeys_issueService _ _ _

theorem refreshesKeys_grant (tenantId : String) (client : Client) (r : TokenRequest) :
    RefreshesKeys (grant tenantId client r) := by
  refine .bind_quiet (.orRefuse _ _) fun g =>
    .bind (.tryCatch (refreshesKeys_grantFor _ _ _ _) fun e => .of_quiet ?_) fun _ =>
      .of_quiet (.bind (.emit _) fun _ => .pure _)
  cases e with
  | refused e => exact .bind (.emit _) fun _ => .refuse _
  | outOfRange => exact .throw _

end Op

/-! ## The last load of a run -/

namespace Provider

variable {p : Provider} {as before : List Action} {a b : Action} {l : LoadedKeys}

/-- An action reads the keys of the store, as none are fresh. -/
structure Loads (p : Provider) (a : Action) (l : LoadedKeys) : Prop where
  stale : p.freshKeys? = none
  load : p.loadKeys = .ok l
  kept : (p.step a).keys = some l

/-- An action leaves the keys in use, or forgets them, or reads them again. -/
theorem keys_step (p : Provider) (a : Action) :
    (p.step a).keys = p.keys ∨ a = .invalidateKeys ∨ ∃ l, p.Loads a l := by
  have hkeys : p.Refreshes (p.step a) →
      (p.step a).keys = p.keys ∨ a = .invalidateKeys ∨ ∃ l, p.Loads a l := by
    rintro (hsame | ⟨hstale, l, hload, hkept⟩)
    · exact .inl hsame
    · exact .inr (.inr ⟨l, hstale, hload, hkept⟩)
  have hsame := (sameBut_step p a).keys
  cases a with
  | invalidateKeys => exact .inr (.inl rfl)
  | issueEndUser t c u scope n =>
    exact hkeys ((refreshesKeys_issueEndUser t c u scope n).refreshes p)
  | issueService t c scope => exact hkeys ((refreshesKeys_issueService t c scope).refreshes p)
  | issueAnonymous t c caller => exact hkeys ((refreshesKeys_issueAnonymous t c caller).refreshes p)
  | verify t token => exact hkeys ((refreshesKeys_verifyToken t token).refreshes p)
  | grant t c r => exact hkeys ((refreshesKeys_grant t c r).refreshes p)
  | currentKey => exact hkeys (refreshesKeys_currentKey.refreshes p)
  | publishedKeys => exact hkeys (refreshesKeys_publishedKeys.refreshes p)
  | _ => exact .inl (hsame (by simp [Action.parts]))

/-- The last load of a run: an action after `before` read the keys, and no action since then
has read or forgotten them. -/
structure LastLoad (p : Provider) (as before : List Action) (l : LoadedKeys) : Prop where
  split : ∃ a after, as = before ++ a :: after ∧ (p.exec before).Loads a l ∧
    ∀ after₁ b after₂, after = after₁ ++ b :: after₂ → b ≠ .invalidateKeys ∧
      ∀ l', ¬ (p.exec (before ++ a :: after₁)).Loads b l'

theorem Loads.lastLoad (h : (p.exec as).Loads a l) : p.LastLoad (as ++ [a]) as l :=
  ⟨a, [], rfl, h, fun after₁ b after₂ hafter => by simp at hafter⟩

theorem LastLoad.concat (h : p.LastLoad as before l) (hkept : b ≠ .invalidateKeys)
    (hload : ∀ l', ¬ (p.exec as).Loads b l') : p.LastLoad (as ++ [b]) before l := by
  obtain ⟨a, after, rfl, hloads, hsince⟩ := h.split
  refine ⟨a, after ++ [b], by simp, hloads, fun after₁ c after₂ hafter => ?_⟩
  rcases Action.last_or_before hafter with ⟨rfl, rfl, -⟩ | ⟨rest, -, hafter⟩
  · exact ⟨hkept, hload⟩
  · exact hsince after₁ c rest hafter

/-- The keys in use are what the last load read. -/
theorem exists_lastLoad (hnone : p.keys = none) (h : (p.exec as).keys = some l) :
    ∃ before, p.LastLoad as before l := by
  induction as using List.reverseRecOn with
  | nil =>
    rw [exec_nil, hnone] at h
    cases h
  | append_singleton as a ih =>
    rw [exec_concat] at h
    by_cases hloads : ∃ l', (p.exec as).Loads a l'
    · obtain ⟨l', hloads⟩ := hloads
      obtain rfl := Option.some.inj (h.symm.trans hloads.kept)
      exact ⟨as, hloads.lastLoad⟩
    · rcases keys_step (p.exec as) a with hsame | rfl | hl
      · rw [hsame] at h
        obtain ⟨before, hlast⟩ := ih h
        refine ⟨before, hlast.concat ?_ fun l' hl' => hloads ⟨l', hl'⟩⟩
        rintro rfl
        rw [show ((p.exec as).step .invalidateKeys).keys = none from rfl] at hsame
        rw [← hsame] at h
        cases h
      · cases h
      · exact absurd hl hloads

/-- What the last load read is still in use. -/
theorem LastLoad.keys (h : p.LastLoad as before l) : (p.exec as).keys = some l := by
  obtain ⟨a, after, rfl, hloads, hsince⟩ := h.split
  have hkept : ∀ after₁ after₂, after = after₁ ++ after₂ →
      (p.exec (before ++ a :: after₁)).keys = some l := by
    intro after₁
    induction after₁ using List.reverseRecOn with
    | nil =>
      intro _ _
      rw [exec_concat]
      exact hloads.kept
    | append_singleton after₁ b ih =>
      intro after₂ hafter
      rw [List.append_assoc] at hafter
      obtain ⟨hforgets, hreads⟩ := hsince after₁ b after₂ hafter
      rw [← List.cons_append, ← List.append_assoc, exec_concat]
      rcases keys_step (p.exec (before ++ a :: after₁)) b with hsame | hb | ⟨l', hl'⟩
      · rw [hsame]
        exact ih _ hafter
      · exact absurd hb hforgets
      · exact absurd hl' (hreads l')
  exact hkept after [] (List.append_nil _).symm

theorem LastLoad.load (h : p.LastLoad as before l) :
    LoadedKeys.load (p.exec before).rootKeys (p.exec before).now p.grace = .ok l := by
  obtain ⟨a, after, -, hloads, -⟩ := h.split
  rw [← p.grace_exec before]
  exact hloads.load

/-- For how long the keys that were read after `before` have been in use at the end of a run. -/
def age (p : Provider) (as before : List Action) : Span :=
  (p.exec as).now.since (p.exec before).now

/-- Keys are fresh while the last load is younger than the settings allow. -/
theorem freshKeys?_eq_some_iff (hnone : p.keys = none) :
    (p.exec as).freshKeys? = some l ↔
      ∃ before, p.LastLoad as before l ∧ (p.age as before).nanos < p.config.keyCacheTtl.nanos := by
  have hfresh : ∀ before, p.LastLoad as before l →
      (l.isFresh (p.exec as).now (p.exec as).config.keyCacheTtl = true ↔
        (p.age as before).nanos < p.config.keyCacheTtl.nanos) := by
    intro before hlast
    rw [LoadedKeys.isFresh, (LoadedKeys.load_eq_ok hlast.load).1, config_exec]
    exact decide_eq_true_iff
  rw [freshKeys?, Option.filter_eq_some_iff]
  constructor
  · rintro ⟨hkeys, h⟩
    obtain ⟨before, hlast⟩ := exists_lastLoad hnone hkeys
    exact ⟨before, hlast, (hfresh before hlast).mp h⟩
  · rintro ⟨before, hlast, h⟩
    exact ⟨hlast.keys, (hfresh before hlast).mpr h⟩

/-- A call at the end of a run is answered with the keys of the last load: one that is recent
enough, or that the call itself does. -/
structure AnswersFrom (p : Provider) (as : List Action) (call : Action) (before : List Action)
    (l : LoadedKeys) : Prop where
  last : p.LastLoad (as ++ [call]) before l
  past : (p.exec before).now ≤ (p.exec as).now
  recent : (p.age as before).nanos < p.config.keyCacheTtl.nanos ∨ before = as

/-- At the end of a run no load is recent enough, and the keys of the store cannot be read. -/
structure FailsToLoad (p : Provider) (as : List Action) (e : ProtocolError) : Prop where
  stale : ∀ before l, p.LastLoad as before l →
    ¬ (p.age as before).nanos < p.config.keyCacheTtl.nanos
  fails : (p.exec as).loadKeys = .error e

/-- Whether an action asks for the keys in use and does nothing else with them. -/
def AsksForKeys (p : Provider) (call : Action) : Prop :=
  call ≠ .invalidateKeys ∧ (p.step call).keys = (loadedKeys.run p).2.keys

theorem asksForKeys_currentKey (p : Provider) : p.AsksForKeys .currentKey :=
  ⟨nofun, (Touches.sameBut_bind [] loadedKeys
    (fun _ => .bind .provider fun _ => .orRefuse _ _) p).keys List.not_mem_nil⟩

theorem asksForKeys_publishedKeys (p : Provider) : p.AsksForKeys .publishedKeys :=
  ⟨nofun, (Touches.sameBut_bind [] loadedKeys (fun _ => .pure _) p).keys List.not_mem_nil⟩

/-- The keys in use are those of the last load, or the store's cannot be read. -/
theorem run_loadedKeys_exec {call : Action} (hnone : p.keys = none) (hclock : p.ClockForward as)
    (hcall : (p.exec as).AsksForKeys call) :
    (∃ before l q, p.AnswersFrom as call before l ∧ loadedKeys.run (p.exec as) = (.ok l, q)) ∨
      ∃ e, p.FailsToLoad as e ∧ loadedKeys.run (p.exec as) = (.error (.refused e), p.exec as) := by
  obtain ⟨hkeeps, hkeys⟩ := hcall
  rw [run_loadedKeys] at hkeys ⊢
  cases hfresh : (p.exec as).keys.filter
      fun l => l.isFresh (p.exec as).now (p.exec as).config.keyCacheTtl with
  | some l =>
    obtain ⟨before, hlast, hrecent⟩ := (freshKeys?_eq_some_iff hnone).mp hfresh
    obtain ⟨a, after, rfl, -⟩ := hlast.split
    refine .inl ⟨before, l, _, ⟨hlast.concat hkeeps fun l' hl' => ?_, ?_, .inl hrecent⟩, rfl⟩
    · have hstale := hl'.stale
      rw [freshKeys?, hfresh] at hstale
      cases hstale
    · rw [exec_append]
      exact (clockForward_append.mp hclock).2.now_le
  | none =>
    rw [hfresh] at hkeys
    cases hload : (p.exec as).loadKeys with
    | ok l =>
      rw [hload] at hkeys
      have hloads : (p.exec as).Loads call l := ⟨hfresh, hload, hkeys⟩
      exact .inl ⟨as, l, _, ⟨hloads.lastLoad, Instant.le_refl _, .inr rfl⟩, rfl⟩
    | error e =>
      refine .inr ⟨e, ⟨fun before l hlast hrecent => ?_, hload⟩, rfl⟩
      have hsome := (freshKeys?_eq_some_iff hnone).mpr ⟨before, hlast, hrecent⟩
      rw [freshKeys?, hfresh] at hsome
      cases hsome

/-- Nothing is read while the last load is recent enough. -/
theorem run_loadedKeys_of_recent (hnone : p.keys = none) (hlast : p.LastLoad as before l)
    (hrecent : (p.age as before).nanos < p.config.keyCacheTtl.nanos) :
    loadedKeys.run (p.exec as) = (.ok l, p.exec as) := by
  have hfresh := (freshKeys?_eq_some_iff hnone).mpr ⟨before, hlast, hrecent⟩
  rw [freshKeys?] at hfresh
  rw [run_loadedKeys, hfresh]

end Provider

/-! ## Bounded staleness -/

/-- In every run that does not set the clock back, the provider answers for its keys from the
keys of the store as they were at its last load, which has passed, is not older than the
settings allow, or is done for the answer, and is not followed by an invalidation:

* the key that signs is the current one of those keys, and there is none exactly if none of
  them can sign;
* the published keys are those to publish of those keys, at the instant of the load.

Otherwise there is no load that is recent enough and the keys of the store cannot be read; the
answer is the reason, and nothing changes. While a load is recent enough, nothing is read. -/
theorem keys_bounded_staleness {p : Provider} {config : Config} {store : Store} {now : Instant}
    {random : Nat → Vector UInt8 32} {as : List Action}
    (hcreate : create? config store now random = some p) (hclock : p.ClockForward as) :
    ((∃ before l, p.AnswersFrom as .currentKey before l ∧
        ((∃ key k, IsCurrent (p.exec before).rootKeys (p.exec as).now key ∧
            TokenKey.ofSigningKey key = .ok k ∧ (currentKey.run (p.exec as)).1 = .ok k) ∨
          (LoadedKeys.candidates (p.exec before).rootKeys (p.exec as).now = [] ∧
            (currentKey.run (p.exec as)).1 = .error (.refused .noSigningKey)))) ∨
      ∃ e, p.FailsToLoad as e ∧ currentKey.run (p.exec as) = (.error (.refused e), p.exec as)) ∧
    ((∃ before l s, p.AnswersFrom as .publishedKeys before l ∧
        KeySet.publish? (p.exec before).rootKeys (p.exec before).now p.grace = some s ∧
        (publishedKeys.run (p.exec as)).1 = .ok s) ∨
      ∃ e, p.FailsToLoad as e ∧
        publishedKeys.run (p.exec as) = (.error (.refused e), p.exec as)) ∧
    ∀ before l, p.LastLoad as before l →
      (p.age as before).nanos < p.config.keyCacheTtl.nanos →
        (currentKey.run (p.exec as)).2 = p.exec as ∧
          (publishedKeys.run (p.exec as)).2 = p.exec as := by
  have hnone : p.keys = none := keys_of_create? hcreate
  refine ⟨?_, ?_, fun before l hlast hrecent => ?_⟩
  · rcases run_loadedKeys_exec hnone hclock (asksForKeys_currentKey _) with
      ⟨before, l, q, hanswers, hrun⟩ | ⟨e, hfails, hrun⟩
    · refine .inl ⟨before, l, hanswers, ?_⟩
      have hload := hanswers.last.load
      rw [run_currentKey hrun]
      cases hcurrent : l.current? (p.exec as).now with
      | some k =>
        obtain ⟨key, hkey, hread⟩ := LoadedKeys.exists_isCurrent hload (nodup_rootKeys _)
          hanswers.past hcurrent
        exact .inl ⟨key, k, hkey, hread, rfl⟩
      | none =>
        exact .inr ⟨(LoadedKeys.current?_eq_none_iff hload hanswers.past).mp hcurrent, rfl⟩
    · exact .inr ⟨e, hfails, run_currentKey_of_error hrun⟩
  · rcases run_loadedKeys_exec hnone hclock (asksForKeys_publishedKeys _) with
      ⟨before, l, q, hanswers, hrun⟩ | ⟨e, hfails, hrun⟩
    · refine .inl ⟨before, l, l.published, hanswers, ?_, ?_⟩
      · exact (LoadedKeys.load_eq_ok hanswers.last.load).2.1
      · rw [run_publishedKeys hrun]
    · exact .inr ⟨e, hfails, run_publishedKeys_of_error hrun⟩
  · have hrun := run_loadedKeys_of_recent hnone hlast hrecent
    rw [run_currentKey hrun, run_publishedKeys hrun]
    exact ⟨rfl, rfl⟩

namespace TokenSample

/-- The provider with one key, which is read for every answer. -/
def impatient : Provider :=
  { opening with config := { Config.standard with keys := ⟨"root", 0, 2592000⟩ } }

/-- A key that expires after a day. -/
def later : SigningKey := signingKey "K2" (instant ⟨86400, by decide⟩)

/-- Another key is created once the first one has been asked for. -/
def creation : List Action := [.currentKey, .administer (.createSigningKey later)]

theorem eq_prefix_of_triple {x y z a : Action} {before after : List Action}
    (h : [x, y] ++ [z] = before ++ a :: after) : before = [] ∨ before = [x] ∨ before = [x, y] := by
  match before, h with
  | [], _ => exact .inl rfl
  | [b], h => exact .inr (.inl (by rw [(List.cons.inj h).1]))
  | [b, c], h =>
    obtain ⟨hb, h⟩ := List.cons.inj h
    exact .inr (.inr (by rw [hb, (List.cons.inj h).1]))
  | b :: c :: d :: before, h => simp at h

theorem step_createSigningKey (p : Provider) (k : SigningKey) :
    (p.step (.administer (.createSigningKey k))).keys = p.keys ∧
      (p.step (.administer (.createSigningKey k))).now = p.now ∧
      (p.step (.administer (.createSigningKey k))).config = p.config :=
  ⟨rfl, rfl, rfl⟩

theorem clockForward_creation : opening.ClockForward creation := by
  have hnow : (opening.step .currentKey).now = opening.now :=
    (sameBut_step opening .currentKey).now (by decide)
  obtain ⟨-, hnow', -⟩ := step_createSigningKey (opening.step .currentKey) later
  refine ⟨?_, ?_, trivial⟩
  · rw [hnow]
    exact Instant.le_refl _
  · rw [hnow']
    exact Instant.le_refl _

theorem exec_creation :
    opening.exec creation
      = (opening.step .currentKey).step (.administer (.createSigningKey later)) := by
  rw [creation, exec_cons, exec_cons, exec_nil]

/-- Once a key was asked for, the keys are fresh, also after another one is created. -/
theorem freshKeys?_creation :
    (opening.step .currentKey).freshKeys? ≠ none ∧ (opening.exec creation).freshKeys? ≠ none := by
  obtain ⟨l, q, hl⟩ := exists_loadedKeys allUsable_opening
  have hkeys : (opening.step .currentKey).keys = some l := by
    rw [(asksForKeys_currentKey opening).2, hl]
    exact keys_of_loadedKeys hl
  have hlast : ∃ before, opening.LastLoad [.currentKey] before l :=
    exists_lastLoad rfl (by rw [exec_cons, exec_nil, hkeys])
  obtain ⟨before, hlast⟩ := hlast
  obtain ⟨a, after, hsplit, -⟩ := hlast.split
  obtain rfl : before = [] := by
    cases before with
    | nil => rfl
    | cons b before => simp at hsplit
  have hloaded : l.loadedAt = instant 0 := (LoadedKeys.load_eq_ok hlast.load).1
  have hsame := sameBut_step opening .currentKey
  have hfresh : ∀ p : Provider, p.keys = some l → p.now = opening.now →
      p.config = opening.config → p.freshKeys? ≠ none := by
    intro p hp hnow hconfig
    rw [freshKeys?, hp, Option.filter_some, if_pos]
    · nofun
    · rw [LoadedKeys.isFresh, hloaded, hnow, hconfig]
      decide
  obtain ⟨hkeys', hnow', hconfig'⟩ := step_createSigningKey (opening.step .currentKey) later
  rw [exec_creation]
  exact ⟨hfresh _ hkeys (hsame.now (by decide)) hsame.config,
    hfresh _ (hkeys'.trans hkeys) (hnow'.trans (hsame.now (by decide)))
      (hconfig'.trans hsame.config)⟩

end TokenSample

section

open TokenSample

/-- The provider answers for its key from a load of this very instant, which is not younger
than no time at all. -/
theorem answer_without_ttl :
    create? impatient.config opening.store (instant 0) opening.random = some impatient ∧
      (∃ k, (currentKey.run impatient).1 = .ok k) ∧
      ∀ before l, impatient.LastLoad [.currentKey] before l →
        ¬ (impatient.age [] before).nanos < impatient.config.keyCacheTtl.nanos := by
  refine ⟨rfl, ?_, fun before l hlast hrecent => ?_⟩
  · have hkey : signingKey "K1" (instant 600) ∈ impatient.rootKeys := List.mem_cons_self
    obtain ⟨l, hload⟩ := LoadedKeys.exists_load allUsable_opening impatient.now
    obtain ⟨k, q, hk⟩ := exists_currentKey (p := impatient) rfl hload hkey rfl (by decide)
    exact ⟨k, by rw [hk]⟩
  · obtain ⟨a, after, hsplit, -⟩ := hlast.split
    obtain rfl : before = [] := by
      cases before with
      | nil => rfl
      | cons b before => simp at hsplit
    exact absurd hrecent (by decide)

/-- The key that signs is still the one that was read, when the store has another one that
expires later. -/
theorem current_key_of_last_load :
    create? .standard opening.store (instant 0) opening.random = some opening ∧
      opening.ClockForward creation ∧
      ∃ k, (currentKey.run (opening.exec creation)).1 = .ok k ∧ k.keyId = "K1" := by
  have hcreate : create? .standard opening.store (instant 0) opening.random = some opening := rfl
  refine ⟨hcreate, clockForward_creation, ?_⟩
  obtain ⟨hfresh₁, hfresh₂⟩ := freshKeys?_creation
  rcases (keys_bounded_staleness hcreate clockForward_creation).1 with
    ⟨before, l, hanswers, h⟩ | ⟨e, hfails, -⟩
  · -- Only the first action can have read the keys, as they are fresh from then on.
    obtain ⟨a, after, hsplit, hloads, -⟩ := hanswers.last.split
    rw [creation] at hsplit
    have hbefore := eq_prefix_of_triple hsplit
    obtain rfl : before = [] := by
      rcases hbefore with rfl | rfl | rfl
      · rfl
      · rw [exec_cons, exec_nil] at hloads
        exact absurd hloads.stale hfresh₁
      · exact absurd hloads.stale hfresh₂
    rw [exec_nil, rootKeys_opening] at h
    rcases h with ⟨key, k, hkey, hread, hrun⟩ | ⟨hnone, -⟩
    · refine ⟨k, hrun, ?_⟩
      obtain ⟨before, after, hkeys, -⟩ := hkey.chosen
      obtain rfl : key = signingKey "K1" (instant 600) := by
        have hmem : key ∈ [signingKey "K1" (instant 600)] := by rw [hkeys]; simp
        exact List.mem_singleton.mp hmem
      exact LoadedKeys.keyId_ofSigningKey hread
    · have hnow : (opening.exec creation).now = instant 0 := by
        rw [exec_creation, (step_createSigningKey _ _).2.1]
        exact (sameBut_step opening .currentKey).now (by decide)
      rw [hnow] at hnone
      have hmem : signingKey "K1" (instant 600)
          ∈ LoadedKeys.candidates [signingKey "K1" (instant 600)] (instant 0) :=
        LoadedKeys.mem_candidates.mpr ⟨List.mem_cons_self, rfl, by decide⟩
      rw [hnone] at hmem
      cases hmem
  · -- All keys of the store can be read.
    have husable : AllUsable (opening.exec creation).rootKeys (opening.exec creation).grace := by
      rw [exec_creation, (sameBut_step _ _).grace, (sameBut_step _ _).grace]
      intro k hk ha
      rcases List.mem_cons.mp (rootKeys_createSigningKey _ _ hk) with rfl | hk
      · exact usable_signingKey _ (by decide)
      · rw [rootKeys_sameBut (sameBut_step opening .currentKey) (by decide)] at hk
        exact allUsable_opening k hk ha
    obtain ⟨l, hl⟩ := LoadedKeys.exists_load husable (opening.exec creation).now
    have hfails := hfails.fails
    rw [loadKeys, ← rootKeys, hl] at hfails
    cases hfails

end

end OpenIdProvider
