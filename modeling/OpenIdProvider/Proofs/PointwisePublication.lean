import OpenIdProvider.Proofs.TokenLifetime

/-!
# Publication key by key

The keys that are published of two lists one after the other are those of the first and then those
of the second (`KeySet.publish?_append`), and one key is published exactly when it is active, signs
tokens, has not expired for longer than the grace period and has a readable public half
(`SigningKey.Appears`, `KeySet.publish?_singleton_iff`; `SigningKey.current_iff` counts the grace
period in nanoseconds). So a key with an unreadable public half takes no other key with it.

A key whose expiry and the grace period lead past the last second does: nothing is published of a
list with such a key among those that are active and sign tokens (`KeySet.publish?_eq_none_iff`).
Since the keys that sign are read together with those that are published, nothing is signed either
(`LoadedKeys.load_eq_serverError_iff`).
-/

namespace OpenIdProvider

variable {now : Instant} {grace : Span} {k : SigningKey} {w : WebKey} {keys : List SigningKey}

/-! ## One key -/

namespace SigningKey

/-- Whether a key appears among those that are published at an instant, and in which form. -/
structure Appears (k : SigningKey) (now : Instant) (grace : Span) (w : WebKey) : Prop where
  active : k.keyStatus = .active
  signs : k.keyUse = .jwtSigning
  current : ∃ t, k.expiresAt.add? grace = some t ∧ now < t
  half : k.PublicHalf w

theorem appears_iff : k.Appears now grace w ↔
    k.isPublished? now grace = some true ∧ WebKey.ofSigningKey? k = some w := by
  rw [isPublished?_eq_true_iff, ← publicHalf_iff, isActiveJwtSigning, Bool.and_eq_true, beq_iff_eq,
    beq_iff_eq]
  exact ⟨fun h => ⟨⟨⟨h.active, h.signs⟩, h.current⟩, h.half⟩,
    fun ⟨⟨⟨hactive, hsigns⟩, hcurrent⟩, hhalf⟩ => ⟨hactive, hsigns, hcurrent, hhalf⟩⟩

/-- Apart from leap seconds, a key is current until the grace period after its expiry is over,
counted in nanoseconds. -/
theorem current_iff (hgrace : 0 ≤ grace.nanos) (hnow : ¬now.IsLeap) (hk : ¬k.expiresAt.IsLeap) :
    (∃ t, k.expiresAt.add? grace = some t ∧ now < t) ↔
      ¬k.expiresAt.Overruns grace ∧ now.nanos < k.expiresAt.nanos + grace.nanos := by
  rw [← Instant.add?_eq_none_iff hgrace]
  cases hend : k.expiresAt.add? grace with
  | none => simp
  | some t =>
    have ht := Instant.not_isLeap_of_add? hgrace hk hend
    rw [← Instant.nanos_of_add? hgrace hend, ← Instant.lt_iff_nanos_lt hnow ht]
    simp

end SigningKey

/-! ## Lists of keys -/

namespace KeySet

theorem publish?_eq_none_iff : publish? keys now grace = none ↔
    ∃ k ∈ keys, k.isPublished? now grace = none := by
  constructor
  · intro hnone
    by_contra hall
    have hsome : ∀ k ∈ keys, (k.isPublished? now grace).isSome := fun k hk =>
      Option.isSome_iff_ne_none.mpr fun h => hall ⟨k, hk, h⟩
    rw [publish?_eq_some hsome] at hnone
    cases hnone
  · rintro ⟨k, hk, hnone⟩
    refine Option.eq_none_iff_forall_ne_some.mpr fun s hs => ?_
    have hsome := isSome_of_publish? hs k hk
    rw [hnone] at hsome
    cases hsome

/-- Keys are published one by one, in their order. -/
theorem publish?_append (xs ys : List SigningKey) :
    publish? (xs ++ ys) now grace = do
      let s ← publish? xs now grace
      let t ← publish? ys now grace
      return ⟨s.keys ++ t.keys⟩ := by
  cases hs : publish? xs now grace with
  | none =>
    obtain ⟨k, hk, hnone⟩ := publish?_eq_none_iff.mp hs
    exact publish?_eq_none_iff.mpr ⟨k, List.mem_append_left ys hk, hnone⟩
  | some s =>
    cases ht : publish? ys now grace with
    | none =>
      obtain ⟨k, hk, hnone⟩ := publish?_eq_none_iff.mp ht
      exact publish?_eq_none_iff.mpr ⟨k, List.mem_append_right xs hk, hnone⟩
    | some t =>
      have hxs := isSome_of_publish? hs
      have hys := isSome_of_publish? ht
      rw [publish?_eq_some hxs] at hs
      rw [publish?_eq_some hys] at ht
      obtain rfl := Option.some.inj hs
      obtain rfl := Option.some.inj ht
      rw [publish?_eq_some (List.forall_mem_append.mpr ⟨hxs, hys⟩), List.filter_append,
        List.filterMap_append]
      rfl

/-- One key is published or left out, if it can be told. -/
theorem publish?_singleton : publish? [k] now grace =
    (k.isPublished? now grace).map fun published =>
      ⟨if published then (WebKey.ofSigningKey? k).toList else []⟩ := by
  cases hpublished : k.isPublished? now grace with
  | none => exact publish?_eq_none_iff.mpr ⟨k, List.mem_cons_self, hpublished⟩
  | some b =>
    rw [publish?_eq_some (List.forall_mem_singleton.mpr (by rw [hpublished]; rfl)),
      List.filter_singleton, hpublished]
    cases b with
    | false => rfl
    | true => cases h : WebKey.ofSigningKey? k <;> simp [h]

theorem publish?_singleton_iff : publish? [k] now grace = some ⟨[w]⟩ ↔ k.Appears now grace w := by
  rw [publish?_singleton, SigningKey.appears_iff]
  rcases k.isPublished? now grace with _ | _ | _ <;> simp [Option.toList_eq_singleton_iff]

/-- Nothing is published of one key when it can be told, and the key does not appear. -/
theorem publish?_singleton_nil_iff : publish? [k] now grace = some ⟨[]⟩ ↔
    k.isPublished? now grace ≠ none ∧ ∀ w, ¬k.Appears now grace w := by
  simp only [SigningKey.appears_iff]
  rw [publish?_singleton]
  rcases k.isPublished? now grace with _ | _ | _ <;>
    simp [Option.toList_eq_nil_iff, Option.eq_none_iff_forall_ne_some]

end KeySet

/-- Keys that cannot be published are not read at all. -/
theorem LoadedKeys.load_eq_serverError_iff :
    (∃ message, load keys now grace = .error (.serverError message)) ↔
      KeySet.publish? keys now grace = none := by
  rw [load]
  cases KeySet.publish? keys now grace with
  | none => exact iff_of_true ⟨_, rfl⟩ rfl
  | some s =>
    refine iff_of_false ?_ (Option.some_ne_none s)
    rintro ⟨message, h⟩
    cases hread : (candidates keys now).mapM TokenKey.ofSigningKey <;>
      simp [hread, bind, Except.bind, Except.mapError, pure, Except.pure] at h

/-! ## The law of publication -/

open KeySet

/-- **Publication key by key.** For all lists of keys, at every instant, with every grace period
that is not negative:

* there is no set of published keys exactly when one of those that are active and sign tokens has
  an expiry from which the grace period leads past the last second;
* the set of two lists one after the other has the keys of the first and then those of the second;
* a key alone makes a set of one form, which bears its identifier, exactly when it is active, signs
  tokens, has not expired for longer than the grace period, and this is its public half;
* a key alone makes an empty set exactly when it is not such a key and does not overrun either. -/
theorem publication_pointwise (hgrace : 0 ≤ grace.nanos) (now : Instant)
    (xs ys : List SigningKey) (k : SigningKey) :
    (publish? xs now grace = none ↔
      ∃ x ∈ xs, x.isActiveJwtSigning = true ∧ x.expiresAt.Overruns grace) ∧
    (publish? (xs ++ ys) now grace = do
      let s ← publish? xs now grace
      let t ← publish? ys now grace
      return ⟨s.keys ++ t.keys⟩) ∧
    (∀ w, publish? [k] now grace = some ⟨[w]⟩ ↔ k.Appears now grace w) ∧
    (publish? [k] now grace = some ⟨[]⟩ ↔
      ¬(k.isActiveJwtSigning = true ∧ k.expiresAt.Overruns grace) ∧
        ∀ w, ¬k.Appears now grace w) := by
  refine ⟨?_, publish?_append xs ys, fun w => publish?_singleton_iff, ?_⟩
  · rw [publish?_eq_none_iff]
    simp only [SigningKey.isPublished?_eq_none_iff, Instant.add?_eq_none_iff hgrace]
  · rw [publish?_singleton_nil_iff, ne_eq, SigningKey.isPublished?_eq_none_iff,
      Instant.add?_eq_none_iff hgrace]

section

open TokenSample

theorem appears_signingKey : (signingKey "K1" (instant 600)).Appears (instant 0) opening.grace
    (.signing "K1" privateKey.publicKey none) where
  active := rfl
  signs := rfl
  current := ⟨⟨1704067200 + 600 + 2592000, 0, by decide, by decide, by decide⟩, by decide,
    by decide⟩
  half := .publicKey rfl rfl read_publicBlock

/-- A key that expires at the last instant keeps another one from being published. -/
theorem extreme_key_hides_others :
    0 ≤ opening.grace.nanos ∧
      publish? [signingKey "K1" (instant 600)] (instant 0) opening.grace
        = some ⟨[.signing "K1" privateKey.publicKey none]⟩ ∧
      publish? ([signingKey "K1" (instant 600)] ++ [signingKey "K2" .last]) (instant 0)
        opening.grace = none := by
  have hgrace : 0 ≤ opening.grace.nanos := by decide
  obtain ⟨-, -, hone, -⟩ :=
    publication_pointwise hgrace (instant 0) [] [] (signingKey "K1" (instant 600))
  obtain ⟨hnone, -⟩ := publication_pointwise hgrace (instant 0)
    ([signingKey "K1" (instant 600)] ++ [signingKey "K2" .last]) [] (signingKey "K2" .last)
  exact ⟨hgrace, (hone _).mpr appears_signingKey, hnone.mpr ⟨signingKey "K2" .last,
    List.mem_append_right _ List.mem_cons_self, rfl, by decide⟩⟩

end

end OpenIdProvider
