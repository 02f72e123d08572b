import Mathlib.Data.List.TakeDrop
import OpenIdProvider.ClientAuth.Credentials
import OpenIdProvider.Proofs.Text

/-!
# Credentials that are read back

A client that writes its identifier and its secret into an authorization header is read as just
this client with just this secret, whatever characters they hold: the base64 text, the colon and the
percent codes are taken off again one after the other (`Credentials.decodeBasic?_written`).

Credentials are found if and only if a request presents them by one method and uses no other one
(`Credentials.Presents`, `Credentials.extract_eq_ok`). `Credentials.credentials_read_back` has both
results.
-/

namespace OpenIdProvider

/-! ## Texts in headers -/

theorem Text.trim_base64 (bs : Bytes) : trim (Base64.encode bs) = Base64.encode bs := by
  refine trim_of_forall fun c hc => Base64.isBlank_of_mem_characters c ?_
  rw [Base64.encode, String.toList_ofList] at hc
  exact Base64.mem_characters hc

namespace Credentials

/-- Whether a character stands for itself in a percent-encoded text. -/
def isUnreserved (c : Char) : Bool :=
  ('A' ≤ c && c ≤ 'Z') || ('a' ≤ c && c ≤ 'z') || ('0' ≤ c && c ≤ '9')
    || c == '-' || c == '.' || c == '_' || c == '~'

/-- A client's identifier or secret as a client writes it: each byte of a character that is not
unreserved is percent-encoded. -/
def partChars (s : String) : List Char :=
  Percent.encode isUnreserved s.toList

/-- What a client writes behind the Basic scheme. -/
def written (clientId clientSecret : String) : String :=
  Base64.encode (Utf8.encode (partChars clientId ++ ':' :: partChars clientSecret))

theorem decodePart?_partChars (s : String) : decodePart? (partChars s) = some s := by
  rw [decodePart?, partChars, Percent.decode_encode (by decide)]
  exact Utf8.decode?_ofString s

theorem colon_notMem_partChars (s : String) : ':' ∉ partChars s := by
  intro h
  rcases Percent.mem_encode h with hkept | hcode
  · exact absurd hkept (by decide)
  · exact absurd hcode (by decide)

/-- The identifier and the secret are read back. -/
theorem decodeBasic?_written (clientId clientSecret : String) :
    decodeBasic? (written clientId clientSecret) = some (clientId, clientSecret) := by
  have htext : Utf8.decode? (Utf8.encode (partChars clientId ++ ':' :: partChars clientSecret))
      = some (String.ofList (partChars clientId ++ ':' :: partChars clientSecret)) := by
    rw [Utf8.decode?, Utf8.decodeChars?_encode, Option.map_some]
  have hbefore : ∀ c ∈ partChars clientId, decide (c ≠ ':') = true := fun c hc =>
    decide_eq_true fun heq => colon_notMem_partChars clientId (heq ▸ hc)
  have hsplit : (partChars clientId ++ ':' :: partChars clientSecret).span (· ≠ ':')
      = (partChars clientId, ':' :: partChars clientSecret) := by
    rw [List.span_eq_takeWhile_dropWhile, List.takeWhile_append_of_pos hbefore,
      List.dropWhile_append_of_pos hbefore]
    simp
  rw [decodeBasic?, written, Text.trim_base64, Base64.decode?_encode]
  simp only [Option.bind_eq_bind, Option.bind_some, htext, String.toList_ofList, hsplit,
    decodePart?_partChars, Option.pure_def]

/-- A header has the Basic scheme if it begins with its name and a space. -/
theorem basic?_eq_some {header encoded : String} :
    basic? header = some encoded ↔ header = "Basic " ++ encoded := by
  have hdrop : ∀ s : List Char, ("Basic ".toList ++ s).drop 6 = s := fun _ => rfl
  constructor
  · intro h
    unfold basic? at h
    split at h
    · rename_i hscheme
      obtain ⟨rest, hrest⟩ := List.isPrefixOf_iff_prefix.mp hscheme
      rw [← hrest, hdrop] at h
      obtain rfl := Option.some.inj h
      rw [← String.toList_inj, String.toList_append]
      exact hrest.symm.trans (congrArg ("Basic ".toList ++ ·) String.toList_ofList.symm)
    · cases h
  · rintro rfl
    have hscheme : "Basic ".toList.isPrefixOf ("Basic " ++ encoded).toList = true := by
      rw [String.toList_append]
      exact List.isPrefixOf_iff_prefix.mpr (List.prefix_append _ _)
    rw [basic?, if_pos hscheme, String.toList_append, hdrop, String.ofList_toList]

theorem basic?_append (encoded : String) : basic? ("Basic " ++ encoded) = some encoded :=
  basic?_eq_some.mpr rfl

/-! ## Methods -/

variable {authorization clientId clientSecret clientAssertion type : Option String}
  {c : Credentials}

/-- Credentials that a request presents by one method while it uses no other one. -/
inductive Presents (authorization clientId clientSecret clientAssertion type : Option String) :
    Credentials → Prop
  | basic {encoded id secret : String} (header : authorization.bind basic? = some encoded)
      (decoded : decodeBasic? encoded = some (id, secret)) (named : ∀ i ∈ clientId, i = id)
      (noSecret : clientSecret = none) (noAssertion : clientAssertion = none) :
      Presents authorization clientId clientSecret clientAssertion type (.secret id secret true)
  | post {id secret : String} (noHeader : authorization.bind basic? = none)
      (named : clientId = some id) (sent : clientSecret = some secret)
      (noAssertion : clientAssertion = none) :
      Presents authorization clientId clientSecret clientAssertion type (.secret id secret false)
  | assertion {text : String} (noHeader : authorization.bind basic? = none)
      (noSecret : clientSecret = none) (sent : clientAssertion = some text)
      (supported : type = some assertionTypeJwt) :
      Presents authorization clientId clientSecret clientAssertion type (.assertion clientId text)

/-- Credentials come from the one method that a request uses. -/
theorem extract_eq_ok :
    extract authorization clientId clientSecret clientAssertion type = .ok c ↔
      Presents authorization clientId clientSecret clientAssertion type c := by
  constructor
  · intro h
    unfold extract at h
    split at h
    · rename_i encoded hbasic
      rw [ofBasic] at h
      split at h
      · cases h
      · rename_i id secret hdecoded
        split at h
        · rename_i hform
          obtain rfl := Except.ok.inj h
          have hnamed : ∀ i ∈ clientId, i = id := fun i hi =>
            beq_iff_eq.mp ((Option.all_eq_true _ _).mp hform i hi)
          exact .basic hbasic hdecoded hnamed rfl rfl
        · cases h
    · rename_i secret hnone
      unfold ofPost at h
      split at h
      · obtain rfl := Except.ok.inj h
        exact .post hnone rfl rfl rfl
      · cases h
    · rename_i text hnone
      rw [ofAssertion] at h
      split at h
      · rename_i htype
        obtain rfl := Except.ok.inj h
        exact .assertion hnone rfl rfl htype
      · cases h
    · cases h
    · cases h
  · intro h
    cases h with
    | @basic encoded id secret header decoded named noSecret noAssertion =>
      have hform : clientId.all (· == id) = true :=
        (Option.all_eq_true _ _).mpr fun i hi => beq_iff_eq.mpr (named i hi)
      simp only [extract, header, noSecret, noAssertion, ofBasic, decoded, hform, if_true]
    | post noHeader named sent noAssertion =>
      simp only [extract, noHeader, named, sent, noAssertion, ofPost]
    | assertion noHeader noSecret sent supported =>
      simp only [extract, noHeader, noSecret, sent, ofAssertion, supported, if_true]

/-- The methods of authentication that a request uses: a header with the Basic scheme, a secret in
the form, an assertion. -/
def methods (authorization clientSecret clientAssertion : Option String) :
    List ClientAuthMethod :=
  (if (authorization.bind basic?).isSome then [.secretBasic] else [])
    ++ (if clientSecret.isSome then [.secretPost] else [])
    ++ (if clientAssertion.isSome then [.secretJwt] else [])

theorem Presents.methods_eq
    (h : Presents authorization clientId clientSecret clientAssertion type c) :
    methods authorization clientSecret clientAssertion = [c.method] := by
  rw [methods]
  cases h with
  | basic header decoded named noSecret noAssertion =>
    rw [header, noSecret, noAssertion]
    rfl
  | post noHeader named sent noAssertion =>
    rw [noHeader, sent, noAssertion]
    rfl
  | assertion noHeader noSecret sent supported =>
    rw [noHeader, noSecret, sent]
    rfl

theorem extract_of_several
    (h : 1 < (methods authorization clientSecret clientAssertion).length) :
    extract authorization clientId clientSecret clientAssertion type
      = .error (.invalidRequest "multiple client authentication methods") := by
  unfold methods at h
  unfold extract
  generalize authorization.bind basic? = header at h ⊢
  cases header <;> cases clientSecret <;> cases clientAssertion
  all_goals first | rfl | simp at h

theorem extract_of_none (h : methods authorization clientSecret clientAssertion = []) :
    extract authorization clientId clientSecret clientAssertion type
      = .error (.invalidClient "client authentication required") := by
  unfold methods at h
  unfold extract
  generalize authorization.bind basic? = header at h ⊢
  cases header <;> cases clientSecret <;> cases clientAssertion
  all_goals first | rfl | cases h

/-- **Credentials.** A header with the Basic scheme and a client's identifier and secret, both
percent-encoded, is read as this client with this secret, if the form has no secret, no assertion
and no other client. Whatever a request has, credentials are found only if it uses one method, and
they are of this method. If it uses several, or none, it is refused. -/
theorem credentials_read_back :
    (∀ id secret : String, ∀ formId type : Option String, (∀ i ∈ formId, i = id) →
      extract (some ("Basic " ++ written id secret)) formId none none type
        = .ok (.secret id secret true)) ∧
    (∀ authorization clientId clientSecret clientAssertion type : Option String,
      (∀ c, extract authorization clientId clientSecret clientAssertion type = .ok c →
        methods authorization clientSecret clientAssertion = [c.method]) ∧
      (1 < (methods authorization clientSecret clientAssertion).length →
        extract authorization clientId clientSecret clientAssertion type
          = .error (.invalidRequest "multiple client authentication methods")) ∧
      (methods authorization clientSecret clientAssertion = [] →
        extract authorization clientId clientSecret clientAssertion type
          = .error (.invalidClient "client authentication required"))) := by
  refine ⟨fun id secret formId type hform => ?_, fun authorization clientId clientSecret
    clientAssertion type => ⟨fun c hc => ?_, extract_of_several, extract_of_none⟩⟩
  · have hheader : (some ("Basic " ++ written id secret)).bind basic? = some (written id secret) :=
      (Option.bind_some ..).trans (basic?_append _)
    exact extract_eq_ok.mpr (.basic hheader (decodeBasic?_written id secret) hform rfl rfl)
  · exact (extract_eq_ok.mp hc).methods_eq

/-- A colon, a percent sign and letters of several bytes in the identifier and the secret. -/
theorem colon_read_back :
    extract (some ("Basic " ++ written "ü:1%3A" "p:ß 100%+ü")) (some "ü:1%3A") none none none
      = .ok (.secret "ü:1%3A" "p:ß 100%+ü" true) ∧
    methods (some ("Basic " ++ written "ü:1%3A" "p:ß 100%+ü")) none none = [.secretBasic] ∧
    extract (some ("Basic " ++ written "ü:1%3A" "p:ß 100%+ü")) none (some "p") none none
      = .error (.invalidRequest "multiple client authentication methods") := by
  obtain ⟨hread, hone⟩ := credentials_read_back
  have hfound := hread "ü:1%3A" "p:ß 100%+ü" (some "ü:1%3A") none
    fun i hi => (Option.some.inj hi).symm
  have hmethod := (hone _ _ _ _ _).1 _ hfound
  refine ⟨hfound, hmethod, (hone _ _ _ _ _).2.1 ?_⟩
  rw [methods, Option.bind_some, basic?_append]
  decide

end Credentials

end OpenIdProvider
