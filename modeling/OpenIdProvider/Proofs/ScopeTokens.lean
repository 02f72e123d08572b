import OpenIdProvider.Authorization.Request
import OpenIdProvider.Proofs.Text
import OpenIdProvider.Token.Claims

/-!
# Names in scope strings

A scope string is read in several places: a request has none if it is blank, it is checked name by
name, the names are joined by spaces for the code, and a token has a scope if it is among the words
of its claim. All of them see the same names (`scope_tokens_agree`), the words of the string.
-/

namespace OpenIdProvider

namespace Scope

/-- The names in a scope string are its maximal runs of characters that are not blank. -/
theorem tokens_eq_iff {scope : String} {names : List String} :
    tokens scope = names ↔ Text.HasWords scope.toList (names.map String.toList) := by
  have hlist : tokens scope = names ↔
      Text.wordsChars scope.toList = names.map String.toList := by
    constructor
    · rintro rfl
      rw [tokens, Text.words, List.map_map]
      exact (List.map_id'' (fun _ => String.toList_ofList) _).symm
    · intro h
      rw [tokens, Text.words, h, List.map_map]
      exact List.map_id'' (fun _ => String.ofList_toList) _
  rw [hlist, Text.wordsChars_eq_iff]

theorem tokens_unwords (scope : String) : tokens (Text.unwords (tokens scope)) = tokens scope :=
  Text.words_unwords_words scope

theorem firstUnknown_eq_none {allowed : List String} {scope : String} :
    firstUnknown allowed scope = none ↔ tokens scope ⊆ allowed := by
  rw [firstUnknown, List.find?_eq_none]
  simp [List.subset_def]

end Scope

/-- A request has a scope string if there is a name in it. -/
theorem AuthorizationRequest.scope?_of_scope (r : AuthorizationRequest) (scope : String) :
    { r with scope := some scope }.scope?
      = if Scope.tokens scope = [] then none else some scope := by
  rw [scope?, Option.filter_some]
  by_cases hnone : Scope.tokens scope = []
  · have hblank : Text.trim scope = "" := Text.trim_eq_empty_iff.mpr hnone
    rw [if_pos hnone, if_neg (by simp [hblank])]
  · have hne : Text.trim scope ≠ "" := mt Text.trim_eq_empty_iff.mp hnone
    rw [if_neg hnone, if_pos (decide_eq_true hne)]

theorem TokenClaims.hasScope_withScope {c : TokenClaims} {scope name : String} :
    (c.withScope scope).hasScope name = true ↔ name ∈ Scope.tokens scope := by
  rw [hasScope, withScope]
  by_cases hempty : scope = ""
  · subst hempty
    rw [if_pos rfl]
    exact iff_of_false Bool.false_ne_true List.not_mem_nil
  · rw [if_neg hempty, Option.any_some, List.contains_iff_mem]

/-- **Scope strings.** A scope string has its words as names. A request that has it is one without
a scope string if there are no names. Names that are joined by spaces are read again as they are,
so the joined string is the same when it is joined once more; a token that has the joined string
as its claim has just these scopes; and they are all allowed if and only if the check of the
string finds no other name. -/
theorem scope_tokens_agree (s : String) :
    (∀ names, Scope.tokens s = names ↔ Text.HasWords s.toList (names.map String.toList)) ∧
    (∀ r : AuthorizationRequest,
      { r with scope := some s }.scope? = if Scope.tokens s = [] then none else some s) ∧
    Scope.tokens (Text.unwords (Scope.tokens s)) = Scope.tokens s ∧
    Text.unwords (Scope.tokens (Text.unwords (Scope.tokens s))) = Text.unwords (Scope.tokens s) ∧
    ∀ c : TokenClaims,
      (∀ w, (c.withScope (Text.unwords (Scope.tokens s))).hasScope w = true ↔
        w ∈ Scope.tokens s) ∧
      ∀ allowed, Scope.firstUnknown allowed s = none ↔
        ∀ w, (c.withScope (Text.unwords (Scope.tokens s))).hasScope w = true → w ∈ allowed := by
  have hscopes : ∀ (c : TokenClaims) (w : String),
      (c.withScope (Text.unwords (Scope.tokens s))).hasScope w = true ↔ w ∈ Scope.tokens s := by
    intro c w
    rw [TokenClaims.hasScope_withScope, Scope.tokens_unwords]
  refine ⟨fun _ => Scope.tokens_eq_iff, fun r => r.scope?_of_scope s, Scope.tokens_unwords s,
    congrArg Text.unwords (Scope.tokens_unwords s), fun c => ⟨hscopes c, fun allowed => ?_⟩⟩
  simp only [hscopes]
  exact Scope.firstUnknown_eq_none

end OpenIdProvider
