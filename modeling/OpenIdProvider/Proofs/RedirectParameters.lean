import OpenIdProvider.Authorization.Redirect
import OpenIdProvider.Proofs.FormPairs
import OpenIdProvider.Proofs.Verification

/-!
# Parameters of redirects

Whoever reads the parameters of a redirect finds those of the address it goes to and then those
that were added, with the values they were given (`redirects_carry_parameters`). No value can add
a parameter or hide one, whatever characters it holds.

* `Url.AddsToQuery`, `Url.PutsInFragment`: what becomes of a URL with parameters;
* `Url.queryStands_of_parse`: the query of a URL that was read ends where the fragment begins;
* `Url.addsToQuery_appendPairs`: this stays so, since encoded pairs have no character that ends a
  query (`Url.inQuery_of_written`).
-/

namespace OpenIdProvider

namespace Url

variable {u v : Url} {ps : List Form.Pair}

/-! ## Characters of a query and a fragment -/

theorem inQuery_iff {special : Bool} {c : Char} : inQuery special c = true ↔
    isPrintable c = true ∧ c ∉ [' ', '"', '#', '<', '>'] ∧ (special = true → c.toNat ≠ 39) := by
  cases special <;> simp [inQuery, and_assoc]

theorem inFragment_iff {c : Char} : inFragment c = true ↔
    isPrintable c = true ∧ c ∉ [' ', '"', '<', '>', '`'] := by
  simp [inFragment]

/-- The characters of encoded pairs stand in a query as they are. -/
theorem inQuery_of_written {c : Char} (h : c ∈ Form.writtenChars) (special : Bool) :
    inQuery special c = true := by
  have hall : ∀ c ∈ Form.writtenChars, isPrintable c = true ∧
      c ∉ [' ', '"', '#', '<', '>'] ∧ c.toNat ≠ 39 :=
    Text.forall_mem_of_all (by decide)
  obtain ⟨hprintable, hmarks, hquote⟩ := hall c h
  exact inQuery_iff.mpr ⟨hprintable, hmarks, fun _ => hquote⟩

/-- The characters of encoded pairs stand in a fragment as they are. -/
theorem inFragment_of_written {c : Char} (h : c ∈ Form.writtenChars) : inFragment c = true := by
  have hall : ∀ c ∈ Form.writtenChars, isPrintable c = true ∧
      c ∉ [' ', '"', '<', '>', '`'] :=
    Text.forall_mem_of_all (by decide)
  exact inFragment_iff.mpr (hall c h)

/-! ## Queries of URLs that were read -/

/-- All characters of the query stand in it as they are. None of them ends the query. -/
def QueryStands (u : Url) : Prop :=
  ∀ q ∈ u.query, ∀ c ∈ q.toList, inQuery (isSpecial u.scheme) c = true

theorem queryStands_withEnd {scheme : String} {authority : Option Authority} {path : String}
    {query fragment : Option (List Char)} :
    (withEnd scheme authority path query fragment).QueryStands := by
  have hcodes : ∀ c ∈ Percent.codeChars, c ∈ Form.writtenChars :=
    Text.forall_mem_of_all (by decide)
  intro q hq c hc
  obtain ⟨s, -, rfl⟩ := Option.map_eq_some_iff.mp hq
  rw [encoded, String.toList_ofList] at hc
  rcases Percent.mem_encode hc with hkept | hcode
  · exact hkept
  · exact inQuery_of_written (hcodes c hcode) _

theorem queryStands_of_parseHierarchy {scheme : String} {s : List Char}
    (h : parseHierarchy scheme s = .ok u) : u.QueryStands := by
  obtain ⟨_, -, h⟩ := except_bind_eq_ok.mp h
  obtain rfl := Except.ok.inj h
  exact queryStands_withEnd

theorem queryStands_of_parseFile {s : List Char} (h : parseFile s = .ok u) : u.QueryStands := by
  unfold parseFile at h
  split at h
  dsimp only at h
  split at h
  · split at h
    · split at h
      · obtain rfl := Except.ok.inj h
        exact queryStands_withEnd
      · obtain ⟨_, -, h⟩ := except_bind_eq_ok.mp h
        obtain rfl := Except.ok.inj h
        exact queryStands_withEnd
    · obtain rfl := Except.ok.inj h
      exact queryStands_withEnd
  · obtain rfl := Except.ok.inj h
    exact queryStands_withEnd

theorem queryStands_of_parse {address : String} (h : parse address = .ok u) : u.QueryStands := by
  unfold parse at h
  split at h
  · cases h
  · unfold parseRest at h
    split at h
    · exact queryStands_of_parseFile h
    · split at h
      · exact queryStands_of_parseHierarchy h
      · split at h
        · exact queryStands_of_parseHierarchy h
        · obtain rfl := Except.ok.inj h
          exact queryStands_withEnd

/-! ## Pairs in queries and fragments -/

/-- The pairs in the query of a URL. -/
def queryPairs (u : Url) : List Form.Pair :=
  Form.decode (u.query.getD "")

/-- The pairs in the fragment of a URL. -/
def fragmentPairs (u : Url) : List Form.Pair :=
  Form.decode (u.fragment.getD "")

/-- Pairs come behind those in the query of a URL, and nothing else of it changes. -/
structure AddsToQuery (u v : Url) (ps : List Form.Pair) : Prop where
  queryPairs_eq : v.queryPairs = u.queryPairs ++ ps
  stands : v.QueryStands
  scheme_eq : v.scheme = u.scheme
  authority_eq : v.authority = u.authority
  path_eq : v.path = u.path
  fragment_eq : v.fragment = u.fragment

/-- Pairs come in place of the fragment of a URL, and nothing else of it changes. -/
structure PutsInFragment (u v : Url) (ps : List Form.Pair) : Prop where
  fragmentPairs_eq : v.fragmentPairs = ps
  stands : ∀ f ∈ v.fragment, ∀ c ∈ f.toList, inFragment c = true
  scheme_eq : v.scheme = u.scheme
  authority_eq : v.authority = u.authority
  path_eq : v.path = u.path
  query_eq : v.query = u.query

theorem queryPairs_appendPairs (u : Url) (ps : List Form.Pair) :
    (u.appendPairs ps).queryPairs = u.queryPairs ++ ps := by
  unfold queryPairs appendPairs
  cases hq : u.query with
  | none => exact Form.decode_encode ps
  | some q =>
    by_cases hempty : q = ""
    · subst hempty
      exact Form.decode_encode ps
    · have hfull : q.isEmpty = false := by simpa using hempty
      cases ps with
      | nil => simp [hq, hfull]
      | cons p ps =>
        simp only [hfull, List.isEmpty_cons]
        exact Form.decode_append q (p :: ps)

theorem queryStands_appendPairs (h : u.QueryStands) (ps : List Form.Pair) :
    (u.appendPairs ps).QueryStands := by
  have hadded : ∀ c ∈ (Form.encode ps).toList, inQuery (isSpecial u.scheme) c = true := by
    intro c hc
    rw [Form.encode, String.toList_ofList] at hc
    exact inQuery_of_written (Form.mem_encodeChars hc) _
  unfold appendPairs
  split
  · exact fun _ hq => Option.some.inj hq ▸ hadded
  · rename_i q hold
    split
    · exact fun _ hq => Option.some.inj hq ▸ hadded
    · split
      · exact h
      · intro _ hq c hc
        obtain rfl := Option.some.inj hq
        rw [String.toList_append, String.toList_append, List.mem_append, List.mem_append] at hc
        rcases hc with (hc | hc) | hc
        · exact h q hold c hc
        · obtain rfl : c = '&' := by simpa using hc
          exact inQuery_of_written (by decide) _
        · exact hadded c hc

theorem exists_appendPairs_eq (u : Url) (ps : List Form.Pair) :
    ∃ query, u.appendPairs ps = { u with query } := by
  unfold appendPairs
  split
  · exact ⟨_, rfl⟩
  · split
    · exact ⟨_, rfl⟩
    · split <;> exact ⟨_, rfl⟩

theorem addsToQuery_appendPairs (h : u.QueryStands) (ps : List Form.Pair) :
    u.AddsToQuery (u.appendPairs ps) ps := by
  obtain ⟨query, heq⟩ := exists_appendPairs_eq u ps
  exact ⟨queryPairs_appendPairs u ps, queryStands_appendPairs h ps, by rw [heq], by rw [heq],
    by rw [heq], by rw [heq]⟩

theorem putsInFragment_withFragmentPairs (u : Url) (ps : List Form.Pair) :
    u.PutsInFragment (u.withFragmentPairs ps) ps where
  fragmentPairs_eq := Form.decode_encode ps
  stands := by
    intro f hf c hc
    obtain rfl := Option.some.inj hf
    rw [Form.encode, String.toList_ofList] at hc
    exact inFragment_of_written (Form.mem_encodeChars hc)
  scheme_eq := rfl
  authority_eq := rfl
  path_eq := rfl
  query_eq := rfl

end Url

namespace Redirect

variable {address : String} {u : Url}

/-! ## Redirects -/

/-- The parameters that are there, with their names. -/
def present (ps : List (String × Option String)) : List Form.Pair :=
  ps.filterMap fun p => p.2.map fun value => (p.1, value)

theorem present_cons (name : String) (value : Option String)
    (ps : List (String × Option String)) :
    present ((name, value) :: ps) = pairIf name value ++ present ps := by
  cases value <;> rfl

theorem errorPairs_eq (tenantId : String) (r : AuthorizationRequest) (e : AuthorizationError) :
    errorPairs tenantId r e =
      [("error", e.oauthError), ("error_code", e.code), ("error_description", e.description),
        ("tenant_id", tenantId)] ++
      present [("client_id", r.clientId), ("redirect_uri", r.redirectUri), ("state", r.state),
        ("scope", r.scope), ("response_type", r.responseType),
        ("response_mode", r.responseMode)] := by
  simp only [errorPairs, present_cons, List.append_assoc]
  simp [present]

theorem codePairs_eq (code : String) (state : Option String) :
    codePairs code state = ("code", code) :: present [("state", state)] := by
  rw [codePairs, present_cons]
  exact congrArg _ (List.append_nil _).symm

/-- **Parameters of redirects.** For every address that is a URL, and all values:

* a redirect to the login page with an error adds the error, the tenant and those parameters of the
  request that are there;
* a redirect to the login page with a login that has begun adds its token, the tenant and the
  client's address;
* a redirect to a client adds the code and the state, if there is one, in the query or puts them in
  place of the fragment.

The parameters are read back in this order, with these values, behind those of the address, and the
URL has no other parameters and is the same in all its other parts. -/
theorem redirects_carry_parameters (h : Url.parse address = .ok u) :
    (∀ tenantId r e, ∃ v, loginError address tenantId r e = .ok v ∧ u.AddsToQuery v
      ([("error", e.oauthError), ("error_code", e.code), ("error_description", e.description),
          ("tenant_id", tenantId)] ++
        present [("client_id", r.clientId), ("redirect_uri", r.redirectUri), ("state", r.state),
          ("scope", r.scope), ("response_type", r.responseType),
          ("response_mode", r.responseMode)])) ∧
    (∀ tenantId redirectUri token, ∃ v, login address tenantId redirectUri token = .ok v ∧
      u.AddsToQuery v
        [("preauth_token", token), ("tenant_id", tenantId), ("redirect_uri", redirectUri)]) ∧
    (∀ code state, ∃ v, toClient address code state .query = .ok v ∧
      u.AddsToQuery v (("code", code) :: present [("state", state)])) ∧
    (∀ code state, ∃ v, toClient address code state .fragment = .ok v ∧
      u.PutsInFragment v (("code", code) :: present [("state", state)])) := by
  have hparsed : parseUrl address = .ok u := by rw [parseUrl, h]
  have hstands := Url.queryStands_of_parse h
  refine ⟨fun tenantId r e => ?_, fun tenantId redirectUri token => ?_, fun code state => ?_,
    fun code state => ?_⟩
  · refine ⟨_, by rw [loginError, hparsed]; rfl, ?_⟩
    rw [← errorPairs_eq]
    exact Url.addsToQuery_appendPairs hstands _
  · refine ⟨_, by rw [login, hparsed]; rfl, ?_⟩
    exact Url.addsToQuery_appendPairs hstands _
  · refine ⟨_, by rw [toClient, hparsed]; rfl, ?_⟩
    rw [← codePairs_eq]
    exact Url.addsToQuery_appendPairs hstands _
  · refine ⟨_, by rw [toClient, hparsed]; rfl, ?_⟩
    rw [← codePairs_eq]
    exact Url.putsInFragment_withFragmentPairs u _

/-- A state that looks like another code is one parameter still. -/
theorem state_adds_no_code : ∃ u v,
    Url.parse "http://[::1]:8000/cb?x=1#top" = .ok u ∧
    toClient "http://[::1]:8000/cb?x=1#top" "c1" (some "s&code=c2#%26 é") .query = .ok v ∧
    v.queryPairs = [("x", "1"), ("code", "c1"), ("state", "s&code=c2#%26 é")] ∧
    v.fragment = some "top" := by
  have hparse : Url.parse "http://[::1]:8000/cb?x=1#top" = .ok ⟨"http",
      some ⟨"", none, .ipv6 [0, 0, 0, 0, 0, 0, 0, 1], some 8000⟩, "/cb", some "x=1",
      some "top"⟩ := by decide +kernel
  obtain ⟨-, -, hquery, -⟩ := redirects_carry_parameters hparse
  obtain ⟨v, hv, hadds⟩ := hquery "c1" (some "s&code=c2#%26 é")
  refine ⟨_, v, hparse, hv, ?_, hadds.fragment_eq⟩
  rw [hadds.queryPairs_eq]
  have hold : Form.decode "x=1" = [("x", "1")] := by decide +kernel
  exact congrArg (· ++ _) hold

end Redirect

end OpenIdProvider
