import OpenIdProvider.Proofs.ResponseAgreement
import OpenIdProvider.Proofs.ScopeNarrowing

/-!
# Scopes of service accounts

A service account that asks for scopes gets a token with just these, if all of them are granted
to it. One that asks for none gets a token with the words of all granted names, since the names
are joined by spaces and split again at blanks (`Text.words_unwords`). Scope names are stored as
they are given. So a token of the second kind has the granted scopes exactly when each granted
name is one word (`service_scopes`), and a name of several words permits what is not granted
(`split_name_permits_more`).
-/

namespace OpenIdProvider

open Op Provider

variable {p q : Provider} {s : Store} {tenantId clientId : String}

/-! ## Granted scopes -/

/-- Whether a scope is granted to a client of a tenant. -/
def Store.IsGranted (s : Store) (tenantId clientId name : String) : Prop :=
  (⟨clientId, tenantId, name⟩ : ScopeGrant) ∈ s.scopeGrants.rows

theorem Store.mem_grantedScopes {c : Client} {name : String} :
    name ∈ s.grantedScopes c ↔ s.IsGranted c.tenantId c.clientId name := by
  rw [grantedScopes, scopeGrantsOf, List.mem_map]
  simp only [List.mem_mergeSort, List.mem_filter, Bool.and_eq_true, beq_iff_eq]
  constructor
  · rintro ⟨⟨_, _, _⟩, ⟨hmem, rfl, rfl⟩, rfl⟩
    exact hmem
  · exact fun hmem => ⟨_, ⟨hmem, rfl, rfl⟩, rfl⟩

/-- Scopes of whatever names are granted. -/
theorem Store.isGranted_grantScope {g : ScopeGrant} {name : String} :
    (s.grantScope g).IsGranted tenantId clientId name ↔
      g = ⟨clientId, tenantId, name⟩ ∨ s.IsGranted tenantId clientId name := by
  rw [IsGranted, grantScope, Table.put, Table.mem_putRow s.scopeGrants.distinct]
  simp only [ScopeGrant.key, IsGranted]
  grind

/-! ## Scopes that are asked for -/

/-- The names that a scope parameter asks for; none, if it is missing or blank. -/
def Scope.asked (requested : Option String) : List String :=
  requested.elim [] tokens

/-- A service account gets what it asks for, if all of it is granted, or else all that is
granted. -/
theorem serviceScope_eq_ok {granted : List String} {requested : Option String} {scope : String}
    (h : serviceScope granted requested = .ok scope) :
    (Scope.asked requested ≠ [] ∧ Scope.asked requested ⊆ granted ∧
        Scope.tokens scope = Scope.asked requested) ∨
      (Scope.asked requested = [] ∧ Scope.tokens scope = granted.flatMap Scope.tokens) := by
  rw [serviceScope] at h
  split at h
  · rename_i text htext
    obtain ⟨htrim, hne⟩ := Option.filter_eq_some_iff.mp htext
    obtain ⟨t, rfl, rfl⟩ := Option.map_eq_some_iff.mp htrim
    have htokens : Scope.tokens (Text.trim t) = Scope.tokens t := Text.words_trim t
    split at h
    · cases h
    · rename_i hnone
      obtain rfl := Except.ok.inj h
      refine .inl ⟨fun hnil => ?_, ?_, ?_⟩
      · exact of_decide_eq_true hne (Text.trim_eq_empty_iff.mpr hnil)
      · show Scope.tokens t ⊆ granted
        rw [← htokens]
        exact Scope.firstUnknown_eq_none.mp hnone
      · rw [Scope.tokens_unwords, htokens]
        rfl
  · rename_i hnone
    obtain rfl := Except.ok.inj h
    refine .inr ⟨?_, Text.words_unwords granted⟩
    cases requested with
    | none => rfl
    | some t =>
      have hblank : Text.trim t = "" := by simpa using hnone
      exact Text.trim_eq_empty_iff.mp hblank

/-! ## Scopes of the token -/

/-- The scopes of a service account's token. -/
structure Provider.GivesScopes (p : Provider) (tenantId clientId : String)
    (requested : Option String) (c : TokenClaims) : Prop where
  /-- Scopes that are asked for are granted, and no others come with them. -/
  asked : Scope.asked requested ≠ [] → ∀ name,
    (c.hasScope name = true ↔ name ∈ Scope.asked requested) ∧
      (c.hasScope name = true → p.store.IsGranted tenantId clientId name)
  /-- If none are asked for, the scopes are the words of the granted names. -/
  unasked : Scope.asked requested = [] → ∀ name, c.hasScope name = true ↔
    ∃ granted, p.store.IsGranted tenantId clientId granted ∧ name ∈ Scope.tokens granted
  /-- They are the granted names if and only if each of these is one word. -/
  exact_iff : Scope.asked requested = [] →
    ((∀ name, c.hasScope name = true ↔ p.store.IsGranted tenantId clientId name) ↔
      ∀ name, p.store.IsGranted tenantId clientId name → Scope.tokens name = [name])

/-- Words of names are the names themselves exactly when each of these is one word. -/
theorem Scope.exact_iff {granted : String → Prop} :
    (∀ name, (∃ g, granted g ∧ name ∈ tokens g) ↔ granted name) ↔
      ∀ name, granted name → tokens name = [name] := by
  constructor
  · intro h name hname
    obtain ⟨g, -, hmem⟩ := (h name).mpr hname
    exact Text.words_of_mem_words hmem
  · intro h name
    constructor
    · rintro ⟨g, hg, hmem⟩
      rw [h g hg, List.mem_singleton] at hmem
      exact hmem ▸ hg
    · exact fun hname => ⟨name, hname, by rw [h name hname, List.mem_singleton]⟩

/-- **Scopes of a service account's token.** It has the scopes that are asked for, which are
granted. If none are asked for, it has the words of the granted names, and these are what is
granted if and only if no granted name has a blank or is empty. -/
theorem service_scopes {requested : Option String} {r : TokenResponse}
    (h : (issueService tenantId clientId requested).run p = (.ok r, q)) :
    ∃ c : TokenClaims, c.SaidBy r.accessToken ∧
      p.GivesScopes tenantId clientId requested c := by
  obtain ⟨client, scope, k, c, p₁, p₂, hclient, hscope, -, hc, hsign, -⟩ := steps_of_issueService h
  have hrange := ((madeAt_of_freshClaims hc).1.withScope scope).inRange
  refine ⟨c.withScope scope, .of_signed (sign_eq_ok hsign) hrange, ?_⟩
  obtain ⟨hstored, hbound⟩ := Option.filter_eq_some_iff.mp hclient
  obtain rfl : client.clientId = clientId := Table.key_of_get? hstored
  obtain rfl : client.tenantId = tenantId := by
    simp only [Bool.and_eq_true, beq_iff_eq] at hbound
    exact hbound.1
  rcases serviceScope_eq_ok hscope with ⟨hasked, hgranted, htokens⟩ | ⟨hnone, htokens⟩
  · refine ⟨fun _ name => ?_, fun hnone => absurd hnone hasked, fun hnone => absurd hnone hasked⟩
    rw [TokenClaims.hasScope_withScope, htokens]
    exact ⟨.rfl, fun hmem => Store.mem_grantedScopes.mp (hgranted hmem)⟩
  · have hwords : ∀ name, (c.withScope scope).hasScope name = true ↔
        ∃ g, p.store.IsGranted client.tenantId client.clientId g ∧ name ∈ Scope.tokens g := by
      intro name
      rw [TokenClaims.hasScope_withScope, htokens, List.mem_flatMap]
      exact exists_congr fun g => and_congr_left fun _ => Store.mem_grantedScopes
    refine ⟨fun hasked => absurd hnone hasked, fun _ => hwords, fun _ => ?_⟩
    simp only [hwords]
    exact Scope.exact_iff

namespace ScopeSample

open LoginSample (now)

/-- A name of two words, which is granted to a service account. -/
def grant : ScopeGrant := ⟨"C1", "T1", "orders anonymous_user.create"⟩

/-- A provider with one service account, which has read its key. -/
def provider : Provider :=
  { RefreshSample.provider with
    store := Store.grantScope { RefreshSample.provider.store with
      clients := Table.empty.put (Client.create "C1" "secret-C1" "T1" .serviceAccount now) } grant }

theorem isGranted_iff {name : String} :
    provider.store.IsGranted "T1" "C1" name ↔ name = "orders anonymous_user.create" := by
  refine Store.isGranted_grantScope.trans ((or_iff_left List.not_mem_nil).trans ?_)
  simp [grant, eq_comm]

end ScopeSample

/-- A service account that asks for nothing gets a token that permits to create anonymous users,
although this scope is not granted to it. -/
theorem split_name_permits_more : ∃ r q c,
    (issueService "T1" "C1" none).run ScopeSample.provider = (.ok r, q) ∧
      c.SaidBy r.accessToken ∧
      ScopeSample.provider.GivesScopes "T1" "C1" none c ∧
      c.hasScope Scope.createAnonymousUser = true ∧
      ¬ScopeSample.provider.store.IsGranted "T1" "C1" Scope.createAnonymousUser := by
  have hissued : ((issueService "T1" "C1" none).run ScopeSample.provider).1.toOption.isSome
      = true := by
    decide +kernel
  rcases hrun : (issueService "T1" "C1" none).run ScopeSample.provider with ⟨e | r, q⟩
  · rw [hrun] at hissued
    cases hissued
  · obtain ⟨c, hsaid, hgives⟩ := service_scopes hrun
    refine ⟨r, q, c, rfl, hsaid, hgives, ?_, ?_⟩
    · have hgranted := ScopeSample.isGranted_iff.mpr rfl
      exact (hgives.unasked rfl _).mpr ⟨_, hgranted, by decide +kernel⟩
    · rw [ScopeSample.isGranted_iff]
      decide

end OpenIdProvider
