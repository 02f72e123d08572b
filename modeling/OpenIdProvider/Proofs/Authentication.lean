import OpenIdProvider.Http.Service
import OpenIdProvider.Proofs.Credentials
import OpenIdProvider.Proofs.Replay

/-!
# Requests of authenticated clients

The token endpoint and the revocation endpoint hand a request over to what handles it only
after the client has authenticated: `requests_handled_iff_authenticated`. What a request says
of its client is a `ClientEvidence`, and `ClientEvidence.Authenticates` is what has to hold
of it, of the client and of the tenant.

That an endpoint hands a request over (`HandsOver`) is said with any handler in the place of
the real one: whatever it is, the endpoint answers what comes of it. A request that is not
handed over has one answer, whatever handles requests.
-/

namespace OpenIdProvider

/-! ## What authenticates a client -/

/-- What a request says of the client that makes it: a header, and fields of a form. -/
structure ClientEvidence where
  authorization : Option String
  clientId : Option String
  clientSecret : Option String
  clientAssertion : Option String
  clientAssertionType : Option String

namespace ClientEvidence

/-- The credentials that a request uses. -/
def credentials (e : ClientEvidence) : Except ProtocolError Credentials :=
  Credentials.extract e.authorization e.clientId e.clientSecret e.clientAssertion
    e.clientAssertionType

/-- A request uses exactly one method, and this one proves who the client is. -/
inductive Proves (e : ClientEvidence) (p : Provider) (tenantId : String) (client : Client) : Prop
  /-- The secret stands in the header. -/
  | basic (encoded : String)
      (header : e.authorization.bind Credentials.basic? = some encoded)
      (noSecret : e.clientSecret = none) (noAssertion : e.clientAssertion = none)
      (decoded : Credentials.decodeBasic? encoded = some (client.clientId, client.clientSecret))
      (named : ∀ id ∈ e.clientId, id = client.clientId)
  /-- The secret stands in the form. -/
  | post (noHeader : e.authorization.bind Credentials.basic? = none)
      (secret : e.clientSecret = some client.clientSecret) (noAssertion : e.clientAssertion = none)
      (named : e.clientId = some client.clientId)
  /-- The form has an assertion that is accepted for the client and its tenant. -/
  | assertion (text : String) (noHeader : e.authorization.bind Credentials.basic? = none)
      (noSecret : e.clientSecret = none) (presented : e.clientAssertion = some text)
      (type : e.clientAssertionType = some assertionTypeJwt)
      (named : ∀ id ∈ e.clientId, id = client.clientId)
      (accepted : ((Op.acceptsAssertion text client.clientId tenantId).run p).1 = .ok true)

/-- A request authenticates a stored and enabled client of an active tenant. -/
structure Authenticates (e : ClientEvidence) (p : Provider) (tenantId : String)
    (client : Client) : Prop where
  tenant : ∃ t, p.store.tenant? tenantId = some t ∧ t.isActive = true
  stored : p.store.client? client.clientId = some client
  tenantId_eq : client.tenantId = tenantId
  enabled : client.enabled = true
  proves : e.Proves p tenantId client

end ClientEvidence

/-- All that an authentication does to a provider's state: it keeps the use of an assertion
at most. -/
structure Provider.OnlyAuthenticates (p q : Provider) : Prop where
  sameBut : SameBut [.assertionUses] p q
  uses : q.store.assertionUses = p.store.assertionUses ∨
    ∃ u, p.store.assertionUses.create p.now u = .ok q.store.assertionUses

theorem Provider.OnlyAuthenticates.refl (p : Provider) : p.OnlyAuthenticates p :=
  ⟨.refl _ p, .inl rfl⟩

/-! ## Credentials -/

namespace Credentials

/-- The client that credentials name. -/
def named : Credentials → String
  | secret clientId _ _ => clientId
  | assertion clientId text =>
    (clientId <|> (AssertionClaims.peek? text).bind (·.subject)).getD ""

/-- Whether a secret is that of the client, or an assertion is accepted. -/
def Accepted (c : Credentials) (p : Provider) (tenantId : String) : Prop :=
  match c with
  | secret clientId clientSecret _ => p.store.acceptsSecret clientId clientSecret = true
  | assertion _ text => ((Op.acceptsAssertion text c.named tenantId).run p).1 = .ok true

end Credentials

theorem Secret.same_iff (a b : String) : Secret.same a b = true ↔ a = b := by
  rw [Secret.same, Secret.equal_iff]
  refine ⟨fun h => ?_, fun h => h ▸ rfl⟩
  have hdecoded := congrArg Utf8.decode? h
  rwa [Utf8.decode?_ofString, Utf8.decode?_ofString, Option.some.injEq] at hdecoded

theorem Store.boundClient?_eq_some {s : Store} {tenantId clientId : String} {c : Client} :
    s.boundClient? tenantId clientId = some c ↔
      (∃ t, s.tenant? tenantId = some t ∧ t.isActive = true) ∧ s.client? clientId = some c ∧
        c.tenantId = tenantId ∧ c.enabled = true := by
  simp only [boundClient?, enabledClient?, activeTenant?, Option.bind_eq_bind,
    Option.bind_eq_some_iff, Option.filter_eq_some_iff, Bool.and_eq_true, beq_iff_eq,
    pure, Option.some.injEq]
  constructor
  · rintro ⟨d, ⟨hd, htenant, henabled⟩, t, ht, rfl⟩
    exact ⟨⟨t, ht⟩, hd, htenant, henabled⟩
  · rintro ⟨⟨t, ht⟩, hc, htenant, henabled⟩
    exact ⟨c, ⟨hc, htenant, henabled⟩, t, ht, rfl⟩

/-- A secret is accepted when it is that of the client. -/
theorem Store.acceptsSecret_iff {s : Store} {c : Client} {clientSecret : String}
    (h : s.client? c.clientId = some c) :
    s.acceptsSecret c.clientId clientSecret = true ↔ c.clientSecret = clientSecret := by
  rw [acceptsSecret, h, Option.any_some, Secret.same_iff]

/-- An accepted assertion names the client as its subject. -/
theorem subject_of_acceptsAssertion {p : Provider} {text clientId tenantId : String}
    (h : ((Op.acceptsAssertion text clientId tenantId).run p).1 = .ok true) :
    (AssertionClaims.peek? text).bind (·.subject) = some clientId := by
  obtain ⟨c, u, hu, -⟩ := Op.acceptsAssertion_eq_true h
  simp only [Provider.assertionUse?, Option.bind_eq_bind, Option.bind_eq_some_iff] at hu
  obtain ⟨claims, hclaims, second, hsecond, d, hd, jti, hjti, hu⟩ := hu
  split at hu
  · rename_i hfrom
    obtain ⟨hsubject, -⟩ := AssertionClaims.isFrom_iff.mp (Bool.and_eq_true_iff.mp hfrom).1
    rw [hclaims, Option.bind_some, hsubject]
  · cases hu

namespace ClientEvidence

variable {e : ClientEvidence} {p : Provider} {tenantId : String} {client : Client}

theorem Proves.exists_credentials (h : e.Proves p tenantId client)
    (hstored : p.store.client? client.clientId = some client) :
    ∃ c, e.credentials = .ok c ∧ c.named = client.clientId ∧ c.Accepted p tenantId := by
  cases h with
  | basic encoded header noSecret noAssertion decoded named =>
    exact ⟨.secret client.clientId client.clientSecret true,
      Credentials.extract_eq_ok.mpr (.basic header decoded named noSecret noAssertion), rfl,
      (Store.acceptsSecret_iff hstored).mpr rfl⟩
  | post noHeader secret noAssertion named =>
    exact ⟨.secret client.clientId client.clientSecret false,
      Credentials.extract_eq_ok.mpr (.post noHeader named secret noAssertion), rfl,
      (Store.acceptsSecret_iff hstored).mpr rfl⟩
  | assertion text noHeader noSecret presented type named accepted =>
    have hnamed : (Credentials.assertion e.clientId text).named = client.clientId := by
      rw [Credentials.named, subject_of_acceptsAssertion accepted]
      cases hid : e.clientId with
      | none => rfl
      | some id => exact named id hid
    refine ⟨.assertion e.clientId text,
      Credentials.extract_eq_ok.mpr (.assertion noHeader noSecret presented type), hnamed, ?_⟩
    rw [Credentials.Accepted, hnamed]
    exact accepted

theorem proves_of_credentials {c : Credentials} (h : e.credentials = .ok c)
    (hstored : p.store.client? client.clientId = some client)
    (hnamed : c.named = client.clientId) (haccepted : c.Accepted p tenantId) :
    e.Proves p tenantId client := by
  cases Credentials.extract_eq_ok.mp h with
  | @basic encoded id secret header decoded named noSecret noAssertion =>
    obtain rfl : id = client.clientId := hnamed
    obtain rfl := (Store.acceptsSecret_iff hstored).mp haccepted
    exact .basic encoded header noSecret noAssertion decoded named
  | @post id secret noHeader named sent noAssertion =>
    obtain rfl : id = client.clientId := hnamed
    obtain rfl := (Store.acceptsSecret_iff hstored).mp haccepted
    exact .post noHeader sent noAssertion named
  | @assertion text noHeader noSecret sent supported =>
    rw [Credentials.Accepted, hnamed] at haccepted
    refine .assertion text noHeader noSecret sent supported (fun id hid => ?_) haccepted
    rw [Credentials.named, Option.mem_def.mp hid] at hnamed
    exact hnamed

/-- A request authenticates a client when it uses credentials that name the client and are
accepted. -/
theorem authenticates_iff : e.Authenticates p tenantId client ↔
    ∃ c, e.credentials = .ok c ∧ p.store.boundClient? tenantId c.named = some client ∧
      c.Accepted p tenantId := by
  constructor
  · rintro ⟨htenant, hstored, hbound, henabled, hproves⟩
    obtain ⟨c, hc, hnamed, haccepted⟩ := hproves.exists_credentials hstored
    refine ⟨c, hc, ?_, haccepted⟩
    rw [hnamed]
    exact Store.boundClient?_eq_some.mpr ⟨htenant, hstored, hbound, henabled⟩
  · rintro ⟨c, hc, hclient, haccepted⟩
    obtain ⟨htenant, hstored, hbound, henabled⟩ := Store.boundClient?_eq_some.mp hclient
    have hid : c.named = client.clientId := (Table.key_of_get? hstored).symm
    rw [hid] at hstored
    exact ⟨htenant, hstored, hbound, henabled, proves_of_credentials hc hstored hid haccepted⟩

open ReplaySample in
example : (⟨some "Basic QzE6c2VjcmV0LUMx", none, none, none, none⟩ : ClientEvidence).Authenticates
    provider "T1" (Client.create "C1" "secret-C1" "T1" .standard (instant 0)) :=
  ⟨⟨_, rfl, rfl⟩, rfl, rfl, rfl,
    .basic "QzE6c2VjcmV0LUMx" (by decide +kernel) rfl rfl (by decide +kernel) nofun⟩

end ClientEvidence

/-! ## Authentication -/

namespace Op

variable {p : Provider}

/-- The check of an assertion ends in an answer. -/
theorem exists_run_acceptsAssertion (text clientId tenantId : String) (p : Provider) :
    ∃ accepted q, (acceptsAssertion text clientId tenantId).run p = (.ok accepted, q) ∧
      p.OnlyAuthenticates q := by
  have hsame := touches_acceptsAssertion text clientId tenantId p
  rw [run_acceptsAssertion] at hsame ⊢
  split
  · exact ⟨false, p, rfl, .refl p⟩
  · rename_i c u hu
    rw [hu] at hsame
    cases ht : p.store.assertionUses.create p.now u with
    | ok t =>
      simp only [ht] at hsame
      exact ⟨_, _, rfl, hsame, .inr ⟨u, ht⟩⟩
    | error e => exact ⟨false, p, rfl, .refl p⟩

/-- The check of credentials says whether they are accepted for the client that they name. -/
theorem run_checkCredentials (tenantId : String) (c : Credentials) (p : Provider) :
    ∃ accepted q, (checkCredentials tenantId c).run p = (.ok (c.named, accepted), q) ∧
      (accepted = true ↔ c.Accepted p tenantId) ∧ p.OnlyAuthenticates q := by
  cases c with
  | secret clientId clientSecret inHeader =>
    exact ⟨p.store.acceptsSecret clientId clientSecret, p, rfl, Iff.rfl, .refl p⟩
  | assertion clientId text =>
    obtain ⟨accepted, q, hrun, honly⟩ := exists_run_acceptsAssertion text
      (Credentials.assertion clientId text).named tenantId p
    refine ⟨accepted, q, ?_, ?_, honly⟩
    · rw [checkCredentials, run_bind,
        show (clientId <|> (AssertionClaims.peek? text).bind (·.subject)).getD ""
          = (Credentials.assertion clientId text).named from rfl, hrun]
      rfl
    · rw [Credentials.Accepted, hrun]
      simp

/-- A client is authenticated when it is bound to the tenant and its credentials are accepted;
otherwise the request is refused. -/
theorem run_authenticate (tenantId : String) (c : Credentials) (p : Provider) :
    ∃ q, p.OnlyAuthenticates q ∧
      ((∃ client, p.store.boundClient? tenantId c.named = some client ∧ c.Accepted p tenantId ∧
          (authenticate tenantId c).run p = (.ok client, q)) ∨
        ((∀ client, p.store.boundClient? tenantId c.named = some client →
            ¬c.Accepted p tenantId) ∧
          ∃ error, (authenticate tenantId c).run p = (.error (.refused error), q))) := by
  obtain ⟨accepted, q, hrun, haccepted, honly⟩ := run_checkCredentials tenantId c p
  have hbound : q.store.boundClient? tenantId c.named = p.store.boundClient? tenantId c.named := by
    have hentities := honly.sameBut.entities (by decide)
    simp only [Store.boundClient?, Store.enabledClient?, Store.activeTenant?, Store.client?,
      Store.tenant?, hentities.clients, hentities.tenants]
  have hlog (event : AuditEvent) : p.OnlyAuthenticates { q with log := q.log ++ [event] } :=
    ⟨honly.sameBut.trans ((Touches.emit event).sameBut_run (run_emit event q)), honly.uses⟩
  rw [authenticate, run_bind, hrun]
  dsimp only
  rw [run_bind, run_provider]
  dsimp only
  rw [hbound]
  cases hclient : (p.store.boundClient? tenantId c.named).filter fun _ => accepted with
  | some client =>
    obtain ⟨hclient, hyes⟩ := Option.filter_eq_some_iff.mp hclient
    exact ⟨_, hlog _, .inl ⟨client, hclient, haccepted.mp hyes, rfl⟩⟩
  | none =>
    refine ⟨_, hlog _, .inr ⟨fun client hbound hyes => ?_, _, rfl⟩⟩
    rw [hbound, haccepted.mpr hyes] at hclient
    cases hclient

end Op

/-- The client that a request authenticates. -/
def ClientEvidence.client (e : ClientEvidence) (tenantId : String) : Op Client := do
  let credentials ← Op.ofExcept e.credentials
  Op.authenticate tenantId credentials

/-- A request authenticates one client, or it is refused. -/
theorem ClientEvidence.run_client (e : ClientEvidence) (tenantId : String) (p : Provider) :
    ∃ q, p.OnlyAuthenticates q ∧
      ((∃ client, (∀ c, e.Authenticates p tenantId c ↔ c = client) ∧
          (e.client tenantId).run p = (.ok client, q)) ∨
        ((∀ c, ¬e.Authenticates p tenantId c) ∧
          ∃ error, (e.client tenantId).run p = (.error (.refused error), q))) := by
  simp only [authenticates_iff]
  rw [client, Op.run_bind, Op.run_ofExcept]
  cases hc : e.credentials with
  | error error => exact ⟨p, .refl p, .inr ⟨by simp, error, rfl⟩⟩
  | ok c =>
    obtain ⟨q, honly, ⟨client, hbound, haccepted, hrun⟩ | ⟨hnot, error, hrun⟩⟩ :=
      Op.run_authenticate tenantId c p
    · refine ⟨q, honly, .inl ⟨client, fun d => ⟨?_, ?_⟩, hrun⟩⟩
      · rintro ⟨c', hc', hd, -⟩
        obtain rfl := Except.ok.inj hc'
        exact Option.some.inj (hd.symm.trans hbound)
      · rintro rfl
        exact ⟨c, rfl, hbound, haccepted⟩
    · refine ⟨q, honly, .inr ⟨?_, error, hrun⟩⟩
      rintro d ⟨c', hc', hd, haccepted⟩
      obtain rfl := Except.ok.inj hc'
      exact hnot d hd haccepted

namespace Http.Service

/-! ## Endpoints -/

variable {α β : Type}

theorem run_answering (x : Op Response) (p : Provider) : (answering x).run p = match x.run p with
    | (.ok response, q) => (.ok response, q)
    | (.error (.refused e), q) => (.ok (errorResponse e), q)
    | (.error .outOfRange, q) => (.error .outOfRange, q) := by
  rw [answering, Op.run_tryCatch]
  rcases x.run p with ⟨(e | e) | response, q⟩ <;> rfl

theorem answering_congr {x y : Op Response} {p q : Provider} (h : x.run p = y.run q) :
    (answering x).run p = (answering y).run q := by
  rw [run_answering, run_answering, h]

/-- An endpoint hands a request of a client over in a state: whatever handles requests, it
answers what comes of handling this one. -/
def HandsOver (endpoint : (Client → α → Op β) → Op Response) (respond : β → Response)
    (p : Provider) (client : Client) (request : α) (q : Provider) : Prop :=
  ∀ handle, (endpoint handle).run p
    = (answering (do return respond (← handle client request))).run q

variable {endpoint : (Client → α → Op β) → Op Response} {respond : β → Response} {p q q' : Provider}
  {client client' : Client} {request request' : α}

theorem HandsOver.run_of_refuse (h : HandsOver endpoint respond p client request q)
    {handle : Client → α → Op β} {e : ProtocolError} (he : handle client request = Op.refuse e) :
    (endpoint handle).run p = (.ok (errorResponse e), q) := by
  rw [h, he]
  rfl

/-- A request is handed over once. -/
theorem HandsOver.unique (h : HandsOver endpoint respond p client request q)
    (h' : HandsOver endpoint respond p client' request' q') :
    client' = client ∧ request' = request ∧ q' = q := by
  classical
  -- The handler tells the first request from all others by the status of its refusal.
  let handle (c : Client) (x : α) : Op β :=
    Op.refuse (if c = client ∧ x = request then .noSigningKey else .invalidRequest "")
  have hrun : (endpoint handle).run p = (.ok (errorResponse .noSigningKey), q) :=
    h.run_of_refuse (by simp [handle])
  have hrun' : (endpoint handle).run p = (.ok (errorResponse _), q') := h'.run_of_refuse rfl
  obtain ⟨hresponse, rfl⟩ := Prod.mk.inj (hrun'.symm.trans hrun)
  by_cases hsame : client' = client ∧ request' = request
  · exact ⟨hsame.1, hsame.2, rfl⟩
  · rw [if_neg hsame] at hresponse
    have hstatus := congrArg Response.status (Except.ok.inj hresponse)
    exact absurd hstatus (by decide)

/-- An endpoint hands over the requests of authenticated clients, and no others. -/
structure Guarded (endpoint : (Client → α → Op β) → Op Response) (respond : β → Response)
    (request? : Option α) (evidence : α → ClientEvidence) (tenantId : String) (p : Provider) :
    Prop where
  /-- A request is handed over with a client exactly when it authenticates that client. -/
  handsOver_iff : ∀ client request, (∃ q, HandsOver endpoint respond p client request q) ↔
    request? = some request ∧ (evidence request).Authenticates p tenantId client
  /-- Before that, nothing but the use of an assertion is kept. -/
  handedOver : ∀ client request q, HandsOver endpoint respond p client request q →
    p.OnlyAuthenticates q
  /-- A request that is not handed over has one answer, and no more is kept. -/
  answered : (∀ client request q, ¬HandsOver endpoint respond p client request q) →
    ∃ response q, (∀ handle, (endpoint handle).run p = (.ok response, q)) ∧ p.OnlyAuthenticates q

section

variable {request? : Option α} {evidence : α → ClientEvidence} {tenantId : String}

theorem guarded_of_handsOver (h : HandsOver endpoint respond p client request q)
    (honly : p.OnlyAuthenticates q) (hrequest : request? = some request)
    (hclient : ∀ c, (evidence request).Authenticates p tenantId c ↔ c = client) :
    Guarded endpoint respond request? evidence tenantId p where
  handsOver_iff client' request' := by
    constructor
    · rintro ⟨q', h'⟩
      obtain ⟨rfl, rfl, rfl⟩ := h.unique h'
      exact ⟨hrequest, (hclient client').mpr rfl⟩
    · rintro ⟨hrequest', hauthenticates⟩
      obtain rfl := Option.some.inj (hrequest.symm.trans hrequest')
      obtain rfl := (hclient client').mp hauthenticates
      exact ⟨q, h⟩
  handedOver client' request' q' h' := by
    obtain ⟨rfl, rfl, rfl⟩ := h.unique h'
    exact honly
  answered hnone := absurd h (hnone client request q)

theorem guarded_of_answer {response : Response}
    (h : ∀ handle, (endpoint handle).run p = (.ok response, q)) (honly : p.OnlyAuthenticates q)
    (hnone : ∀ request, request? = some request →
      ∀ c, ¬(evidence request).Authenticates p tenantId c) :
    Guarded endpoint respond request? evidence tenantId p := by
  -- An answer that does not depend on the handler is not what comes of handling a request.
  have hnot (client : Client) (request : α) (q' : Provider) :
      ¬HandsOver endpoint respond p client request q' := by
    intro h'
    have hrefused (e : ProtocolError) : response = errorResponse e := by
      have hrun : (endpoint fun _ _ => Op.refuse e).run p = (.ok (errorResponse e), q') :=
        h'.run_of_refuse rfl
      rw [h] at hrun
      exact Except.ok.inj (Prod.mk.inj hrun).1
    have hsame := (hrefused .noSigningKey).symm.trans (hrefused (.invalidRequest ""))
    exact absurd (congrArg Response.status hsame) (by decide)
  exact {
    handsOver_iff client request := by
      constructor
      · rintro ⟨q', h'⟩
        exact absurd h' (hnot client request q')
      · rintro ⟨hrequest, hauthenticates⟩
        exact absurd hauthenticates (hnone request hrequest client)
    handedOver client request q' h' := absurd h' (hnot client request q')
    answered _ := ⟨response, q, h, honly⟩ }

/-- An endpoint that accepts a request in a form, and has it handled. -/
def handlingWith (ps : Except Response (List Form.Pair))
    (accept : List Form.Pair → Op (Client × α)) (respond : β → Response)
    (handle : Client → α → Op β) : Op Response :=
  withParameters ps fun ps => do
    let (client, request) ← accept ps
    return respond (← handle client request)

/-- An endpoint is guarded when it accepts the request of the client that this authenticates,
and refuses all others. -/
theorem guarded_handlingWith {form : Except Response (List Form.Pair)}
    {accept : List Form.Pair → Op (Client × α)}
    (hform : form.toOption = none → request? = none)
    (haccept : ∀ ps, form.toOption = some ps → ∃ q, p.OnlyAuthenticates q ∧
      ((∃ client request, request? = some request ∧
          (∀ c, (evidence request).Authenticates p tenantId c ↔ c = client) ∧
          (accept ps).run p = (.ok (client, request), q)) ∨
        ((∀ request, request? = some request →
            ∀ c, ¬(evidence request).Authenticates p tenantId c) ∧
          ∃ error, (accept ps).run p = (.error (.refused error), q)))) :
    Guarded (handlingWith form accept respond) respond request? evidence tenantId p := by
  cases form with
  | error response =>
    exact guarded_of_answer (fun handle => rfl) (.refl p) (by simp [hform rfl])
  | ok ps =>
    have hrun (handle : Client → α → Op β) : (handlingWith (.ok ps) accept respond handle).run p
        = (answering (accept ps >>= fun x => do return respond (← handle x.1 x.2))).run p := rfl
    obtain ⟨q, honly, ⟨client, request, hrequest, hclient, haccepted⟩ | ⟨hnone, error, herror⟩⟩ :=
      haccept ps rfl
    · refine guarded_of_handsOver (fun handle => ?_) honly hrequest hclient
      rw [hrun]
      exact answering_congr (by rw [Op.run_bind, haccepted])
    · have hanswer (handle : Client → α → Op β) :
          (handlingWith (.ok ps) accept respond handle).run p = (.ok (errorResponse error), q) := by
        rw [hrun, run_answering, Op.run_bind, herror]
      exact guarded_of_answer hanswer honly hnone

end

/-! ## Token and revocation requests -/

/-- What a token request says of its client. -/
def tokenEvidence (r : Request) (x : TokenRequest) : ClientEvidence :=
  ⟨r.header? "authorization", x.clientId, x.clientSecret, x.clientAssertion,
    x.clientAssertionType⟩

/-- What a revocation request says of its client. -/
def revocationEvidence (r : Request) (x : RevocationRequest) : ClientEvidence :=
  ⟨r.header? "authorization", x.clientId, x.clientSecret, x.clientAssertion,
    x.clientAssertionType⟩

/-- The token request that parameters make. -/
def readToken (ps : List Form.Pair) : TokenRequest :=
  Id.run (TokenRequest.ofFields ((ps.lookup "grant_type").getD "") fun name => ps.lookup name)

/-- The revocation request that parameters make. -/
def readRevocation (ps : List Form.Pair) : RevocationRequest :=
  Id.run (RevocationRequest.ofFields ((ps.lookup "token").getD "") fun name => ps.lookup name)

/-- The token request in the form that a request has. -/
def tokenRequest? (r : Request) : Option TokenRequest :=
  (formParameters TokenRequest.names r).toOption.map readToken

/-- The revocation request in the form that a request has, if it names a token. -/
def revocationRequest? (r : Request) : Option RevocationRequest :=
  ((formParameters RevocationRequest.names r).toOption.map readRevocation).filter (·.token ≠ "")

/-- Accepts a token request of a client. -/
def acceptToken (tenantId : String) (r : Request) (ps : List Form.Pair) :
    Op (Client × TokenRequest) := do
  let request := readToken ps
  let client ← (tokenEvidence r request).client tenantId
  return (client, request)

/-- Accepts a revocation request of a client. -/
def acceptRevocation (tenantId : String) (r : Request) (ps : List Form.Pair) :
    Op (Client × RevocationRequest) := do
  let request := readRevocation ps
  let client ← (revocationEvidence r request).client tenantId
  if request.token = "" then Op.refuse (.invalidRequest "token is required")
  return (client, request)

/-- The token endpoint, with a handler in the place of the grants. -/
def tokenWith (tenantId : String) (r : Request) :
    (Client → TokenRequest → Op TokenResponse) → Op Response :=
  handlingWith (formParameters TokenRequest.names r) (acceptToken tenantId r) tokenResponse

/-- The revocation endpoint, with a handler in the place of the revocation. -/
def revokeWith (tenantId : String) (r : Request) :
    (Client → RevocationRequest → Op Unit) → Op Response :=
  handlingWith (formParameters RevocationRequest.names r) (acceptRevocation tenantId r)
    fun _ => .bare 200

theorem token_eq (tenantId : String) (r : Request) :
    token tenantId r = tokenWith tenantId r (Op.grant tenantId) := by
  simp only [token, tokenWith, handlingWith, acceptToken, ClientEvidence.client, bind_assoc,
    pure_bind]
  rfl

theorem revoke_eq (tenantId : String) (r : Request) : revoke tenantId r
    = revokeWith tenantId r fun client x => Op.revoke tenantId client x.token := by
  have hguard (c : Prop) [Decidable c] (x : Client × RevocationRequest)
      (k : Client × RevocationRequest → Op Response) :
      (if c then (Op.refuse (.invalidRequest "token is required") : Op PUnit) >>= fun _ => k x
        else k x)
      = (if c then (Op.refuse (.invalidRequest "token is required") : Op PUnit) >>= fun _ => pure x
          else pure x) >>= k := by
    split
    · rw [bind_assoc]
      rfl
    · rw [pure_bind]
  simp only [revoke, revokeWith, handlingWith, acceptRevocation, ClientEvidence.client,
    bind_assoc, ← hguard]
  rfl

theorem guarded_token (tenantId : String) (r : Request) (p : Provider) :
    Guarded (tokenWith tenantId r) tokenResponse (tokenRequest? r) (tokenEvidence r)
      tenantId p := by
  refine guarded_handlingWith (fun hps => by simp [tokenRequest?, hps]) fun ps hps => ?_
  have hrequest : tokenRequest? r = some (readToken ps) := by
    rw [tokenRequest?, hps]
    rfl
  obtain ⟨q, honly, ⟨client, hclient, hrun⟩ | ⟨hnot, error, hrun⟩⟩ :=
    (tokenEvidence r (readToken ps)).run_client tenantId p
  · refine ⟨q, honly, .inl ⟨client, readToken ps, hrequest, hclient, ?_⟩⟩
    rw [acceptToken, Op.run_bind, hrun]
    rfl
  · refine ⟨q, honly, .inr ⟨fun request hsome => ?_, error, ?_⟩⟩
    · obtain rfl := Option.some.inj (hrequest.symm.trans hsome)
      exact hnot
    · rw [acceptToken, Op.run_bind, hrun]

theorem guarded_revoke (tenantId : String) (r : Request) (p : Provider) :
    Guarded (revokeWith tenantId r) (fun _ => .bare 200) (revocationRequest? r)
      (revocationEvidence r) tenantId p := by
  refine guarded_handlingWith (fun hps => by simp [revocationRequest?, hps]) fun ps hps => ?_
  have hrequest (request : RevocationRequest) : revocationRequest? r = some request ↔
      readRevocation ps = request ∧ request.token ≠ "" := by
    rw [revocationRequest?, hps, Option.map_some, Option.filter_eq_some_iff]
    simp
  obtain ⟨q, honly, ⟨client, hclient, hrun⟩ | ⟨hnot, error, hrun⟩⟩ :=
    (revocationEvidence r (readRevocation ps)).run_client tenantId p
  · have hrest : (acceptRevocation tenantId r ps).run p
        = if (readRevocation ps).token = ""
          then (.error (.refused (.invalidRequest "token is required")), q)
          else (.ok (client, readRevocation ps), q) := by
      rw [acceptRevocation, Op.run_bind, hrun]
      exact Op.run_guard ..
    by_cases htoken : (readRevocation ps).token = ""
    · rw [if_pos htoken] at hrest
      refine ⟨q, honly, .inr ⟨fun request hsome => ?_, _, hrest⟩⟩
      obtain ⟨rfl, hne⟩ := (hrequest request).mp hsome
      exact absurd htoken hne
    · rw [if_neg htoken] at hrest
      exact ⟨q, honly, .inl ⟨client, _, (hrequest _).mpr ⟨rfl, htoken⟩, hclient, hrest⟩⟩
  · refine ⟨q, honly, .inr ⟨fun request hsome => ?_, error, ?_⟩⟩
    · obtain ⟨rfl, -⟩ := (hrequest request).mp hsome
      exact hnot
    · rw [acceptRevocation, Op.run_bind, hrun]

end Http.Service

open Http Http.Service

/-- **No grant and no revocation without authentication.** The token endpoint is the endpoint
that hands requests over to the grants, and the revocation endpoint is the one that hands
them over to the revocation. Each hands a request over exactly when the form has one and it
authenticates the client, by one method alone, as a stored and enabled client of the active
tenant; a revocation has to name a token besides. Whether or not a request is handed over,
the endpoint itself changes nothing but that it may keep the use of one assertion. -/
theorem requests_handled_iff_authenticated (tenantId : String) (r : Request) (p : Provider) :
    (token tenantId r = tokenWith tenantId r (Op.grant tenantId) ∧
      Guarded (tokenWith tenantId r) tokenResponse (tokenRequest? r) (tokenEvidence r)
        tenantId p) ∧
    (revoke tenantId r
        = revokeWith tenantId r (fun client x => Op.revoke tenantId client x.token) ∧
      Guarded (revokeWith tenantId r) (fun _ => .bare 200) (revocationRequest? r)
        (revocationEvidence r) tenantId p) :=
  ⟨⟨token_eq tenantId r, guarded_token tenantId r p⟩,
    revoke_eq tenantId r, guarded_revoke tenantId r p⟩

end OpenIdProvider
