import OpenIdProvider.Proofs.TokenEvents

/-!
# The audit log tells no secrets

Two token requests from one state that differ at most in secrets, and are answered alike but for
the values of tokens, log the same events (`audit_carries_no_secrets`).

* `Http.Request.SameButSecrets`: what may differ in the requests;
* `Http.Response.SameButTokens`: what may differ in the responses;
* `ClientEvidence.SameButSecrets.named_eq`: the credentials of such requests name one client and
  are of one method;
* `TokenAnswer.error_eq`: such responses tell of one error, or both of a fault of the provider.

What is logged follows from these alone (`log_token`). Nothing is said of the states in between:
the one request may use up a code that the other one does not.
-/

namespace OpenIdProvider

open Op Http Http.Service

variable {p : Provider} {tenantId : String}

/-! ## What may differ -/

/-- A value of the authorization header holds Basic credentials: the bytes of a client before the
first colon, and any secret after it. -/
def Credentials.HoldsBasic (clientId : Bytes) (value : String) : Prop :=
  ∃ encoded clientSecret, basic? value = some encoded ∧
    Base64.decode? (Text.trim encoded) = some (clientId ++ 58 :: clientSecret)

/-- Two assertions differ at most in the signature, the segment after the last dot. -/
def SameButSignature (a a' : String) : Prop :=
  a' = a ∨ ∃ signed signature signature' : List Char, '.' ∉ signature ∧ '.' ∉ signature' ∧
    a.toList = signed ++ '.' :: signature ∧ a'.toList = signed ++ '.' :: signature'

namespace Http

/-- Two headers differ at most in the secret of Basic credentials. -/
def SameHeader (h h' : String × String) : Prop :=
  h'.1 = h.1 ∧ (h'.2 = h.2 ∨ Request.foldName h.1 = "authorization" ∧
    ∃ clientId, 58 ∉ clientId ∧ Credentials.HoldsBasic clientId h.2 ∧
      Credentials.HoldsBasic clientId h'.2)

/-- The parameters whose values are secrets. -/
def secretNames : List String :=
  ["client_secret", "code", "code_verifier", "refresh_token"]

/-- Two parameters differ at most in a secret or in the signature of an assertion. -/
def SameParameter (x x' : Form.Pair) : Prop :=
  x'.1 = x.1 ∧ (x'.2 = x.2 ∨ x.1 ∈ secretNames ∨
    x.1 = "client_assertion" ∧ SameButSignature x.2 x'.2)

/-- Two requests differ at most in secrets. -/
structure Request.SameButSecrets (r r' : Request) : Prop where
  method_eq : r'.method = r.method
  path_eq : r'.path = r.path
  query_eq : r'.query = r.query
  headers : List.Forall₂ SameHeader r.headers r'.headers
  parameters : List.Forall₂ SameParameter (Form.decode r.body) (Form.decode r'.body)

/-- The members of a response whose values are tokens. -/
def tokenMembers : List String :=
  ["access_token", "refresh_token", "id_token"]

/-- A body without the values of tokens. -/
def Body.withoutTokens : Body → Body
  | .json (.object members) => .json (.object (members.map fun m =>
      if tokenMembers.contains m.1 then (m.1, .null) else m))
  | b => b

/-- Two responses differ at most in the values of tokens, and in headers. -/
structure Response.SameButTokens (x x' : Response) : Prop where
  status_eq : x'.status = x.status
  body_eq : x'.body.withoutTokens = x.body.withoutTokens

end Http

/-! ## Requests that differ in secrets -/

/-- The client in Basic credentials is read from the bytes before the first colon. -/
theorem Credentials.clientId_of_decodeBasic? {encoded id secret : String}
    {clientId clientSecret : Bytes}
    (h : Base64.decode? (Text.trim encoded) = some (clientId ++ 58 :: clientSecret))
    (hcolon : 58 ∉ clientId) (hdecoded : decodeBasic? encoded = some (id, secret)) :
    ∃ cs, Utf8.encode cs = clientId ∧ decodePart? cs = some id := by
  rw [decodeBasic?, h] at hdecoded
  obtain ⟨_, hsome, hdecoded⟩ := Option.bind_eq_some_iff.mp hdecoded
  obtain rfl := Option.some.inj hsome
  obtain ⟨text, htext, hparts⟩ := Option.bind_eq_some_iff.mp hdecoded
  have hbytes := Utf8.ofString_of_decode? htext
  have hother : ∀ b ∈ clientId, decide (b ≠ 58) = true := fun b hb =>
    decide_eq_true fun h => hcolon (h ▸ hb)
  have hclient : Utf8.encode (text.toList.takeWhile (· ≠ ':')) = clientId := by
    rw [Utf8.encode_takeWhile_colon, ← Utf8.ofString, hbytes,
      List.takeWhile_append_of_pos hother]
    simp
  rw [List.span_eq_takeWhile_dropWhile] at hparts
  split at hparts
  · cases hparts
  · rename_i before _ after hspan
    obtain ⟨hbefore, -⟩ := Prod.mk.inj hspan
    obtain ⟨id', hid', hparts⟩ := Option.bind_eq_some_iff.mp hparts
    obtain ⟨secret', -, hparts⟩ := Option.bind_eq_some_iff.mp hparts
    obtain ⟨rfl, -⟩ := Prod.mk.inj (Option.some.inj hparts)
    exact ⟨before, hbefore ▸ hclient, hid'⟩

/-- Basic credentials of the same bytes name the same client. -/
theorem Credentials.named_eq_of_holdsBasic {clientId : Bytes} {v v' encoded encoded' : String}
    {id id' secret secret' : String} (hcolon : 58 ∉ clientId) (h : HoldsBasic clientId v)
    (h' : HoldsBasic clientId v') (hv : basic? v = some encoded) (hv' : basic? v' = some encoded')
    (hd : decodeBasic? encoded = some (id, secret))
    (hd' : decodeBasic? encoded' = some (id', secret')) : id' = id := by
  obtain ⟨_, s, hb, hs⟩ := h
  obtain ⟨_, s', hb', hs'⟩ := h'
  obtain rfl := Option.some.inj (hv.symm.trans hb)
  obtain rfl := Option.some.inj (hv'.symm.trans hb')
  obtain ⟨cs, hcs, hid⟩ := clientId_of_decodeBasic? hs hcolon hd
  obtain ⟨cs', hcs', hid'⟩ := clientId_of_decodeBasic? hs' hcolon hd'
  obtain rfl := Utf8.encode_injective (hcs'.trans hcs.symm)
  exact Option.some.inj (hid'.symm.trans hid)

/-- The claims of an assertion do not depend on its signature. -/
theorem AssertionClaims.peek?_congr {a a' : String} (h : SameButSignature a a') :
    peek? a' = peek? a := by
  rcases h with rfl | ⟨signed, s, s', hs, hs', ha, ha'⟩
  · rfl
  · rw [peek?, peek?, Jws.ofText?, Jws.ofText?, ha, ha', Jws.splitLastDot?_append hs,
      Jws.splitLastDot?_append hs']
    simp only [Option.bind_eq_bind, Option.bind_some]
    cases Jws.splitLastDot? signed <;> rfl

/-- What two requests say of their clients differs at most in secrets. -/
structure ClientEvidence.SameButSecrets (e e' : ClientEvidence) : Prop where
  authorization : e'.authorization = e.authorization ∨ ∃ clientId, 58 ∉ clientId ∧
    (∀ v ∈ e.authorization, Credentials.HoldsBasic clientId v) ∧
      ∀ v ∈ e'.authorization, Credentials.HoldsBasic clientId v
  clientId_eq : e'.clientId = e.clientId
  clientSecret : e'.clientSecret.isSome = e.clientSecret.isSome
  clientAssertion : Option.Rel SameButSignature e.clientAssertion e'.clientAssertion
  type_eq : e'.clientAssertionType = e.clientAssertionType

namespace ClientEvidence.SameButSecrets

variable {e e' : ClientEvidence}

theorem clientSecret_eq_none (h : e.SameButSecrets e') :
    e'.clientSecret = none ↔ e.clientSecret = none := by
  rw [← Option.isNone_iff_eq_none, ← Option.isNone_iff_eq_none, ← Option.not_isSome,
    ← Option.not_isSome, h.clientSecret]

theorem clientAssertion_eq_none (h : e.SameButSecrets e') :
    e'.clientAssertion = none ↔ e.clientAssertion = none := by
  have hassertion := h.clientAssertion
  generalize e.clientAssertion = x at hassertion ⊢
  generalize e'.clientAssertion = x' at hassertion ⊢
  cases hassertion <;> simp

/-- Credentials that differ at most in secrets name one client, and are of one method. -/
theorem named_eq {c c' : Credentials} (h : e.SameButSecrets e') (hc : e.credentials = .ok c)
    (hc' : e'.credentials = .ok c') : c'.named = c.named ∧ c'.method = c.method := by
  -- Which of the values are there decides the method, and that is the same for both.
  cases Credentials.extract_eq_ok.mp hc with
  | basic header decoded _ noSecret noAssertion =>
    cases Credentials.extract_eq_ok.mp hc' with
    | basic header' decoded' _ _ _ =>
      refine ⟨?_, rfl⟩
      obtain ⟨v, hv, hencoded⟩ := Option.bind_eq_some_iff.mp header
      obtain ⟨v', hv', hencoded'⟩ := Option.bind_eq_some_iff.mp header'
      rcases h.authorization with hsame | ⟨clientId, hcolon, hholds, hholds'⟩
      · rw [hsame, header] at header'
        obtain rfl := Option.some.inj header'
        exact (Prod.mk.inj (Option.some.inj (decoded'.symm.trans decoded))).1
      · exact Credentials.named_eq_of_holdsBasic hcolon (hholds v hv) (hholds' v' hv') hencoded
          hencoded' decoded decoded'
    | post _ _ sent' _ => cases (h.clientSecret_eq_none.mpr noSecret).symm.trans sent'
    | assertion _ _ sent' _ => cases (h.clientAssertion_eq_none.mpr noAssertion).symm.trans sent'
  | post _ named sent _ =>
    cases Credentials.extract_eq_ok.mp hc' with
    | basic _ _ _ noSecret' _ => cases (h.clientSecret_eq_none.mp noSecret').symm.trans sent
    | post _ named' _ _ =>
      rw [h.clientId_eq, named] at named'
      exact ⟨(Option.some.inj named').symm, rfl⟩
    | assertion _ noSecret' _ _ => cases (h.clientSecret_eq_none.mp noSecret').symm.trans sent
  | assertion _ _ sent _ =>
    cases Credentials.extract_eq_ok.mp hc' with
    | basic _ _ _ _ noAssertion' =>
      cases (h.clientAssertion_eq_none.mp noAssertion').symm.trans sent
    | post _ _ _ noAssertion' => cases (h.clientAssertion_eq_none.mp noAssertion').symm.trans sent
    | assertion _ _ sent' _ =>
      have hassertion := h.clientAssertion
      rw [sent, sent'] at hassertion
      cases hassertion with
      | some hsame =>
        refine ⟨?_, rfl⟩
        rw [Credentials.named, Credentials.named, h.clientId_eq,
          AssertionClaims.peek?_congr hsame]

end ClientEvidence.SameButSecrets

/-! ### Headers and forms -/

section

variable {r r' : Request}

/-- The first headers of a name differ at most in the secret of Basic credentials. -/
theorem find?_sameHeader {hs hs' : List (String × String)} (h : List.Forall₂ SameHeader hs hs')
    (name : String) :
    (hs.find? (fun x => Request.foldName x.1 == name) = none ∧
        hs'.find? (fun x => Request.foldName x.1 == name) = none) ∨
      ∃ x x', hs.find? (fun x => Request.foldName x.1 == name) = some x ∧
        hs'.find? (fun x => Request.foldName x.1 == name) = some x' ∧ SameHeader x x' ∧
        Request.foldName x.1 = name := by
  induction h with
  | nil => exact .inl ⟨rfl, rfl⟩
  | @cons x x' _ _ hsame _ ih =>
    rw [List.find?_cons, List.find?_cons, hsame.1]
    split
    · rename_i hname
      exact .inr ⟨x, x', rfl, rfl, hsame, beq_iff_eq.mp hname⟩
    · exact ih

theorem header?_eq (h : r.SameButSecrets r') {name : String} (hname : name ≠ "authorization") :
    r'.header? name = r.header? name := by
  rw [Request.header?, Request.header?]
  rcases find?_sameHeader h.headers name with ⟨hx, hx'⟩ | ⟨x, x', hx, hx', hsame, rfl⟩
  · rw [hx, hx']
  · rw [hx, hx', Option.map_some, Option.map_some]
    rcases hsame.2 with hvalue | ⟨hauthorization, -⟩
    · rw [hvalue]
    · exact absurd hauthorization hname

theorem authorization_cases (h : r.SameButSecrets r') :
    r'.header? "authorization" = r.header? "authorization" ∨ ∃ clientId, 58 ∉ clientId ∧
      (∀ v ∈ r.header? "authorization", Credentials.HoldsBasic clientId v) ∧
        ∀ v ∈ r'.header? "authorization", Credentials.HoldsBasic clientId v := by
  rw [Request.header?, Request.header?]
  rcases find?_sameHeader h.headers "authorization" with ⟨hx, hx'⟩ | ⟨x, x', hx, hx', hsame, -⟩
  · exact .inl (by rw [hx, hx'])
  · rw [hx, hx', Option.map_some, Option.map_some]
    rcases hsame.2 with hvalue | ⟨-, clientId, hcolon, hholds, hholds'⟩
    · exact .inl (by rw [hvalue])
    · refine .inr ⟨clientId, hcolon, fun v hv => ?_, fun v hv => ?_⟩
      · obtain ⟨hv, -⟩ := Option.filter_eq_some_iff.mp hv
        exact Option.some.inj hv ▸ hholds
      · obtain ⟨hv, -⟩ := Option.filter_eq_some_iff.mp hv
        exact Option.some.inj hv ▸ hholds'

/-- The values of a parameter differ at most in secrets. -/
theorem lookup_sameParameter {ps ps' : List Form.Pair} (h : List.Forall₂ SameParameter ps ps')
    (name : String) : Option.Rel (fun v v' => SameParameter (name, v) (name, v'))
      (ps.lookup name) (ps'.lookup name) := by
  induction h with
  | nil => exact .none
  | @cons x x' _ _ hsame _ ih =>
    obtain ⟨key, v⟩ := x
    obtain ⟨key', v'⟩ := x'
    obtain rfl : key' = key := hsame.1
    rw [List.lookup_cons, List.lookup_cons]
    split
    · rename_i hname
      obtain rfl := beq_iff_eq.mp hname
      exact .some hsame
    · exact ih

theorem isSome_of_rel {γ δ : Type} {R : γ → δ → Prop} {a : Option γ} {b : Option δ}
    (h : Option.Rel R a b) : b.isSome = a.isSome := by
  cases h <;> rfl

/-- Which parameters are found, and whether one stands there twice, does not depend on secrets. -/
theorem parameters_cases (known : List String) {found found' ps ps' : List Form.Pair}
    (hfound : List.Forall₂ SameParameter found found') (h : List.Forall₂ SameParameter ps ps') :
    (∃ qs qs', parameters known found ps = .ok qs ∧ parameters known found' ps' = .ok qs' ∧
        List.Forall₂ SameParameter qs qs') ∨
      ∃ name name', parameters known found ps = .error name ∧
        parameters known found' ps' = .error name' := by
  induction h generalizing found found' with
  | nil => exact .inl ⟨found, found', rfl, rfl, hfound⟩
  | @cons x x' _ _ hsame _ ih =>
    obtain ⟨key, v⟩ := x
    obtain ⟨key', v'⟩ := x'
    obtain rfl : key' = key := hsame.1
    rw [parameters, parameters]
    split
    · exact ih hfound
    · rw [isSome_of_rel (lookup_sameParameter hfound key')]
      split
      · exact .inr ⟨key', key', rfl, rfl⟩
      · exact ih (.cons hsame hfound)

theorem formParameters_cases (known : List String) (h : r.SameButSecrets r') :
    (∃ qs qs', formParameters known r = .ok qs ∧ formParameters known r' = .ok qs' ∧
        List.Forall₂ SameParameter qs qs') ∨
      ∃ response response', formParameters known r = .error response ∧
        formParameters known r' = .error response' := by
  have hform : isForm r' = isForm r := by
    rw [isForm, isForm, header?_eq h (by decide)]
  rw [formParameters, formParameters, hform]
  split
  · exact .inr ⟨_, _, rfl, rfl⟩
  · rcases parameters_cases known .nil h.parameters with
      ⟨qs, qs', hqs, hqs', hsame⟩ | ⟨name, name', hname, hname'⟩
    · rw [hqs, hqs']
      exact .inl ⟨qs, qs', rfl, rfl, hsame⟩
    · rw [hname, hname']
      exact .inr ⟨_, _, rfl, rfl⟩

/-- A parameter that is no secret has one value. -/
theorem lookup_eq {ps ps' : List Form.Pair} (h : List.Forall₂ SameParameter ps ps') {name : String}
    (hname : name ∉ secretNames) (hassertion : name ≠ "client_assertion") :
    ps'.lookup name = ps.lookup name := by
  have hlookup := lookup_sameParameter h name
  generalize ps.lookup name = v at hlookup
  generalize ps'.lookup name = v' at hlookup
  cases hlookup with
  | none => rfl
  | some hsame =>
    rcases hsame.2 with hvalue | hsecret | ⟨hname', -⟩
    · exact congrArg some hvalue
    · exact absurd hsecret hname
    · exact absurd hname' hassertion

/-- What token requests say of their clients differs at most in secrets. -/
theorem tokenEvidence_sameButSecrets (h : r.SameButSecrets r') {ps ps' : List Form.Pair}
    (hps : List.Forall₂ SameParameter ps ps') :
    (tokenEvidence r (readToken ps)).SameButSecrets (tokenEvidence r' (readToken ps')) where
  authorization := authorization_cases h
  clientId_eq := lookup_eq hps (by decide) (by decide)
  clientSecret := isSome_of_rel (lookup_sameParameter hps "client_secret")
  clientAssertion := by
    have hlookup := lookup_sameParameter hps "client_assertion"
    show Option.Rel SameButSignature (ps.lookup "client_assertion") (ps'.lookup "client_assertion")
    generalize ps.lookup "client_assertion" = v at hlookup ⊢
    generalize ps'.lookup "client_assertion" = v' at hlookup ⊢
    cases hlookup with
    | none => exact .none
    | some hsame =>
      rcases hsame.2 with hvalue | hsecret | ⟨-, hsignature⟩
      · exact .some (.inl hvalue)
      · exact absurd hsecret (show "client_assertion" ∉ secretNames by decide)
      · exact .some hsignature
  type_eq := lookup_eq hps (by decide) (by decide)

end

/-! ### Responses -/

namespace ProtocolError

/-- The reason that an error of a client tells. -/
def reason : ProtocolError → String
  | invalidRequest reason | invalidClient reason | invalidGrant reason | unauthorizedClient reason
  | unsupportedGrantType reason | invalidScope reason | unsupportedResponseType reason
  | accessDenied reason | invalidToken reason => reason
  | _ => ""

/-- The error of a client with a code. -/
def ofCode? (code reason : String) : Option ProtocolError :=
  [invalidRequest reason, invalidClient reason, invalidGrant reason, unauthorizedClient reason,
    unsupportedGrantType reason, invalidScope reason, unsupportedResponseType reason,
    accessDenied reason, invalidToken reason].find? fun e => e.code == code

theorem ofCode?_code {e : ProtocolError} (h : ¬e.IsInternal) :
    ofCode? e.code e.reason = some e := by
  cases e <;> first | rfl | exact absurd rfl h

theorem publicMessage_eq {e : ProtocolError} (h : ¬e.IsInternal) :
    e.publicMessage = e.code ++ ": " ++ e.reason := by
  cases e <;> first | rfl | exact absurd rfl h

theorem code_eq_iff {e : ProtocolError} : e.code = "server_error" ↔ e.IsInternal := by
  cases e <;> simp [code, IsInternal, isServerError, status]

theorem code_of_toJson {e e' : ProtocolError} (h : e'.toJson = e.toJson) : e'.code = e.code := by
  simp only [toJson, Json.object.injEq, List.cons.injEq, Prod.mk.injEq, Json.string.injEq,
    true_and, and_true] at h
  exact h.1

/-- The body of an error tells the error of a client. -/
theorem eq_of_toJson {e e' : ProtocolError} (he : ¬e.IsInternal) (h : e'.toJson = e.toJson) :
    e' = e := by
  have hcode := code_of_toJson h
  have he' : ¬e'.IsInternal := fun h => he (code_eq_iff.mp (hcode.symm.trans (code_eq_iff.mpr h)))
  have hpublic : e'.publicMessage = e.publicMessage := by
    simp only [toJson, Json.object.injEq, List.cons.injEq, Prod.mk.injEq, Json.string.injEq,
      true_and, and_true] at h
    exact h.2
  have hreason : e'.reason = e.reason := by
    rw [publicMessage_eq he', publicMessage_eq he, hcode] at hpublic
    exact (String.append_right_inj _).mp hpublic
  have hsome := ofCode?_code he'
  rw [hcode, hreason, ofCode?_code he] at hsome
  exact (Option.some.inj hsome).symm

end ProtocolError

theorem status_errorResponse_ne (e : ProtocolError) : (errorResponse e).status ≠ 200 := by
  cases e <;> exact nofun

theorem withoutTokens_errorResponse (e : ProtocolError) :
    (errorResponse e).body.withoutTokens = .json e.toJson :=
  rfl

/-- Responses with one status and, but for tokens, one body tell of one error, unless both tell
that the provider is at fault. -/
theorem TokenAnswer.error_eq {error error' : Option ProtocolError} {response response' : Response}
    (h : TokenAnswer error response) (h' : TokenAnswer error' response')
    (hsame : response.SameButTokens response') :
    error' = error ∨
      ∃ e e', error = some e ∧ error' = some e' ∧ e.IsInternal ∧ e'.IsInternal := by
  cases h with
  | tokens tokens =>
    cases h' with
    | tokens tokens' => exact .inl rfl
    | error e' => exact absurd hsame.status_eq (status_errorResponse_ne e')
  | error e =>
    cases h' with
    | tokens tokens' => exact absurd hsame.status_eq.symm (status_errorResponse_ne e)
    | error e' =>
      have hbody := hsame.body_eq
      rw [withoutTokens_errorResponse, withoutTokens_errorResponse, Body.json.injEq] at hbody
      by_cases he : e.IsInternal
      · have hcode := (ProtocolError.code_of_toJson hbody).trans (ProtocolError.code_eq_iff.mpr he)
        exact .inr ⟨e, e', rfl, rfl, he, ProtocolError.code_eq_iff.mp hcode⟩
      · exact .inl (congrArg some (ProtocolError.eq_of_toJson he hbody))

/-- Whichever way the provider is at fault, the events are the same. -/
theorem Provider.tokenEvents_internal {e e' : ProtocolError} (he : e.IsInternal)
    (he' : e'.IsInternal) (p : Provider) (tenantId clientId : String) (m : ClientAuthMethod)
    (grantType : String) :
    p.tokenEvents tenantId clientId m grantType (some e')
      = p.tokenEvents tenantId clientId m grantType (some e) := by
  have hne {e : ProtocolError} (he : e.IsInternal) : ¬some e = some authenticationFailed := by
    intro h
    obtain rfl := Option.some.inj h
    cases he
  have hcode : e'.code = e.code :=
    (ProtocolError.code_eq_iff.mpr he').trans (ProtocolError.code_eq_iff.mpr he).symm
  rw [tokenEvents, tokenEvents, if_neg (hne he), if_neg (hne he')]
  simp only [Option.all_some, show e.isServerError = true from he,
    show e'.isServerError = true from he', grantEvent, Option.map_some, hcode, Option.isNone_some]

/-! ## Noninterference -/

theorem Http.Response.SameButTokens.symm {x x' : Response} (h : x.SameButTokens x') :
    x'.SameButTokens x :=
  ⟨h.status_eq.symm, h.body_eq.symm⟩

/-- The response to a request that shows no credentials is unlike any to one that does. -/
theorem TokenAnswer.not_sameButTokens {error : Option ProtocolError} {response : Response}
    {e : ProtocolError} (h : TokenAnswer error response)
    (hne : ∀ e ∈ error, e ∉ Credentials.refusals) (he : e ∈ Credentials.refusals) :
    ¬response.SameButTokens (errorResponse e) := by
  intro hsame
  rcases h.error_eq (.error e) hsame with heq | ⟨_, e', -, hsome, -, hinternal⟩
  · exact hne e heq.symm he
  · obtain rfl := Option.some.inj hsome
    exact hinternal.ne (List.mem_cons_of_mem _ he)

section

variable {r r' : Request}

/-- A request without a form is answered at once. -/
theorem run_token_of_noForm {response : Response}
    (hform : formParameters TokenRequest.names r = .error response) (tenantId : String)
    (p : Provider) : (token tenantId r).run p = (.ok response, p) := by
  rw [token, hform]
  rfl

/-- A request with a form is refused at once if it shows no credentials, or it logs what its
credentials and its response tell. -/
theorem token_cases {ps : List Form.Pair} (hform : formParameters TokenRequest.names r = .ok ps)
    (tenantId : String) (p : Provider) :
    (∃ e ∈ Credentials.refusals, (token tenantId r).run p = (.ok (errorResponse e), p)) ∨
      ∃ c error response q, (tokenEvidence r (readToken ps)).credentials = .ok c ∧
        (token tenantId r).run p = (.ok response, q) ∧ TokenAnswer error response ∧
        (∀ e ∈ error, e ∉ Credentials.refusals) ∧
        q.log = p.log
          ++ p.tokenEvents tenantId c.named c.method (readToken ps).grantType error := by
  cases hc : (tokenEvidence r (readToken ps)).credentials with
  | error e =>
    refine .inl ⟨e, Credentials.mem_refusals_of_extract hc, ?_⟩
    rw [token, hform]
    show (answering (Op.ofExcept (tokenEvidence r (readToken ps)).credentials >>= _)).run p = _
    rw [hc]
    rfl
  | ok c =>
    have hrequest : tokenRequest? r = some (readToken ps) := by
      rw [tokenRequest?, hform]
      rfl
    obtain ⟨error, response, q, hlog⟩ := log_token hrequest hc tenantId p
    exact .inr ⟨c, error, response, q, rfl, hlog⟩

/-- **Audit lines carry no secrets.** Take two token requests from one state that differ at most
in the value of a client secret, in the secret of Basic credentials, in the signature of an
assertion, or in the values of a code, a code verifier and a refresh token. If their responses
have one status and, but for the values of tokens, one body, then they log the same events. -/
theorem audit_carries_no_secrets {response response' : Response} {q q' : Provider}
    (hsame : r.SameButSecrets r') (hrun : (token tenantId r).run p = (.ok response, q))
    (hrun' : (token tenantId r').run p = (.ok response', q'))
    (hresponse : response.SameButTokens response') :
    ∃ events, q.log = p.log ++ events ∧ q'.log = p.log ++ events := by
  rcases formParameters_cases TokenRequest.names hsame with
    ⟨ps, ps', hps, hps', hparameters⟩ | ⟨x, x', hx, hx'⟩
  · rcases token_cases hps tenantId p with
      ⟨e, he, hanswer⟩ | ⟨c, error, x, s, hc, hanswer, hshows, hne, hlog⟩
    all_goals
      obtain ⟨hok, rfl⟩ := Prod.mk.inj (hanswer.symm.trans hrun)
      obtain rfl := Except.ok.inj hok
      rcases token_cases hps' tenantId p with
        ⟨e', he', hanswer'⟩ | ⟨c', error', x', s', hc', hanswer', hshows', hne', hlog'⟩
      all_goals
        obtain ⟨hok', rfl⟩ := Prod.mk.inj (hanswer'.symm.trans hrun')
        obtain rfl := Except.ok.inj hok'
    · exact ⟨[], (List.append_nil _).symm, (List.append_nil _).symm⟩
    · exact absurd hresponse.symm (hshows'.not_sameButTokens hne' he)
    · exact absurd hresponse (hshows.not_sameButTokens hne he')
    · obtain ⟨hnamed, hmethod⟩ :=
        (tokenEvidence_sameButSecrets hsame hparameters).named_eq hc hc'
      have hgrant : (readToken ps').grantType = (readToken ps).grantType :=
        congrArg (Option.getD · "") (lookup_eq hparameters (by decide) (by decide))
      rw [hnamed, hmethod, hgrant] at hlog'
      refine ⟨_, hlog, ?_⟩
      rcases hshows.error_eq hshows' hresponse with rfl | ⟨e, e', rfl, rfl, he, he'⟩
      · exact hlog'
      · rw [hlog', Provider.tokenEvents_internal he he']
  · rw [run_token_of_noForm hx] at hrun
    rw [run_token_of_noForm hx'] at hrun'
    obtain ⟨-, rfl⟩ := Prod.mk.inj hrun
    obtain ⟨-, rfl⟩ := Prod.mk.inj hrun'
    exact ⟨[], (List.append_nil _).symm, (List.append_nil _).symm⟩

end

/-! ## Two codes that are refused -/

namespace SecrecySample

open ReplaySample (provider)

/-- A client redeems a code with a verifier. -/
def request (code verifier : String) : Request where
  method := "POST"
  path := "/T1/oidc/token"
  query := none
  headers := [("content-type", "application/x-www-form-urlencoded")]
  body := "grant_type=authorization_code&client_id=C1&client_secret=secret-C1&redirect_uri=U&code="
    ++ code ++ "&code_verifier=" ++ verifier

/-- What its form says. -/
def form (code verifier : String) : TokenRequest :=
  ⟨"authorization_code", some code, some "U", some "C1", some "secret-C1", none, none, none, none,
    some verifier⟩

theorem read_requests : tokenRequest? (request "A" "V") = some (form "A" "V") ∧
    tokenRequest? (request "B" "W") = some (form "B" "W") := by
  decide +kernel

/-- The refusal of a code that there is not. -/
def refusal : Response :=
  errorResponse (.invalidGrant "invalid authorization code")

theorem run_sample (code verifier : String)
    (hread : tokenRequest? (request code verifier) = some (form code verifier)) :
    ∃ q, (token "T1" (request code verifier)).run provider = (.ok refusal, q) := by
  have hheader : [("content-type", "application/x-www-form-urlencoded")].find?
      (fun h => Request.foldName h.1 == "authorization") = none := by decide +kernel
  have hnone : (request code verifier).header? "authorization" = none := by
    rw [Request.header?, request, hheader]
    rfl
  have hcredentials : (tokenEvidence (request code verifier) (form code verifier)).credentials
      = .ok (.secret "C1" "secret-C1" false) := by
    rw [tokenEvidence, hnone]
    rfl
  rw [run_token hread hcredentials]
  exact ⟨_, rfl⟩

theorem sameButSecrets_sample : (request "A" "V").SameButSecrets (request "B" "W") where
  method_eq := rfl
  path_eq := rfl
  query_eq := rfl
  headers := .cons ⟨rfl, .inl rfl⟩ .nil
  parameters := by
    have hA : Form.decode (request "A" "V").body = [("grant_type", "authorization_code"),
        ("client_id", "C1"), ("client_secret", "secret-C1"), ("redirect_uri", "U"), ("code", "A"),
        ("code_verifier", "V")] := by decide +kernel
    have hB : Form.decode (request "B" "W").body = [("grant_type", "authorization_code"),
        ("client_id", "C1"), ("client_secret", "secret-C1"), ("redirect_uri", "U"), ("code", "B"),
        ("code_verifier", "W")] := by decide +kernel
    rw [hA, hB]
    refine .cons ⟨rfl, .inl rfl⟩ (.cons ⟨rfl, .inl rfl⟩ (.cons ⟨rfl, .inl rfl⟩
      (.cons ⟨rfl, .inl rfl⟩ (.cons ⟨rfl, .inr (.inl ?_)⟩ (.cons ⟨rfl, .inr (.inl ?_)⟩ .nil)))))
    · decide
    · decide

end SecrecySample

section

open SecrecySample

open ReplaySample (provider)

/-- Two codes that there are not, with two verifiers, are refused alike and logged alike. -/
theorem refused_codes_logged_alike : (request "A" "V").SameButSecrets (request "B" "W") ∧
    ∃ q q' events, (token "T1" (request "A" "V")).run provider = (.ok refusal, q) ∧
      (token "T1" (request "B" "W")).run provider = (.ok refusal, q') ∧
      q.log = provider.log ++ events ∧ q'.log = provider.log ++ events := by
  obtain ⟨q, hrun⟩ := run_sample "A" "V" read_requests.1
  obtain ⟨q', hrun'⟩ := run_sample "B" "W" read_requests.2
  obtain ⟨events, hlog, hlog'⟩ :=
    audit_carries_no_secrets sameButSecrets_sample hrun hrun' ⟨rfl, rfl⟩
  exact ⟨sameButSecrets_sample, q, q', events, hrun, hrun', hlog, hlog'⟩

end

end OpenIdProvider
