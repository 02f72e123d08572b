import OpenIdProvider.Proofs.Authentication
import OpenIdProvider.Proofs.Issuance

/-!
# What operations report

`Op.Reports E L x` says how `x` shows itself to the outside when it does not succeed, and what
it writes to the log: it stops only by being refused with an error in `E`, and logs only events
in `L`. It is closed under sequencing and catching, so every operation behind the token
endpoints has one lemma.

* `reports_issueAnonymous`: a token for an anonymous user is refused in one way, unless the
  provider is at fault;
* `reports_grantFor`: a grant ends in tokens or in a refusal, and logs no more than that keys
  were loaded.
-/

namespace OpenIdProvider

open Provider

variable {α β : Type}

/-- Whether the provider is at fault. -/
def ProtocolError.IsInternal (e : ProtocolError) : Prop :=
  e.isServerError = true

/-- Whether an event reports that signing keys were loaded. -/
def AuditEvent.IsKeyLoad (event : AuditEvent) : Prop :=
  event.eventType = .signingKeysLoaded

namespace Op

/-- An operation stops only with a refusal in `E`, and logs only events in `L`, wherever it
begins. -/
structure Reports (E : ProtocolError → Prop) (L : AuditEvent → Prop) (x : Op α) : Prop where
  refused : ∀ p f, (x.run p).1 = .error f → ∃ e, f = .refused e ∧ E e
  logged : ∀ p, ∃ events, (x.run p).2.log = p.log ++ events ∧ ∀ event ∈ events, L event

namespace Reports

variable {E E' : ProtocolError → Prop} {L L' : AuditEvent → Prop} {x : Op α} {f : α → Op β}

theorem imp (hx : Reports E L x) (hE : ∀ e, E e → E' e) (hL : ∀ event, L event → L' event) :
    Reports E' L' x where
  refused p f hf := by
    obtain ⟨e, rfl, he⟩ := hx.refused p f hf
    exact ⟨e, rfl, hE e he⟩
  logged p := by
    obtain ⟨events, hlog, hevents⟩ := hx.logged p
    exact ⟨events, hlog, fun event h => hL event (hevents event h)⟩

/-- What an operation reports when it logs nothing. -/
theorem of_log (hlog : ∀ p, (x.run p).2.log = p.log)
    (hE : ∀ p f, (x.run p).1 = .error f → ∃ e, f = .refused e ∧ E e) : Reports E L x :=
  ⟨hE, fun p => ⟨[], by rw [hlog, List.append_nil], nofun⟩⟩

theorem pure (a : α) : Reports E L (Pure.pure a : Op α) :=
  .of_log (fun _ => rfl) fun _ _ => nofun

theorem provider : Reports E L Op.provider :=
  .of_log (fun _ => rfl) fun _ _ => nofun

theorem refuse {e : ProtocolError} (he : E e) : Reports E L (Op.refuse e : Op α) :=
  .of_log (fun _ => rfl) fun _ _ h => ⟨e, (Except.error.inj h).symm, he⟩

theorem orRefuse (a : Option α) {e : ProtocolError} (he : E e) : Reports E L (Op.orRefuse a e) := by
  cases a with
  | none => exact refuse he
  | some a => exact pure a

theorem ofExcept {a : Except ProtocolError α} (ha : ∀ e, a = .error e → E e) :
    Reports E L (Op.ofExcept a) := by
  cases a with
  | error e => exact refuse (ha e rfl)
  | ok a => exact pure a

theorem emit {event : AuditEvent} (h : L event) : Reports E L (Op.emit event) where
  refused _ _ := nofun
  logged _ := ⟨[event], rfl, fun _ hmem => List.mem_singleton.mp hmem ▸ h⟩

theorem bind (hx : Reports E L x) (hf : ∀ a, Reports E L (f a)) : Reports E L (x >>= f) where
  refused p g hg := by
    rw [run_bind] at hg
    have hrefused := hx.refused p
    rcases hr : x.run p with ⟨e | a, q⟩
    · rw [hr] at hg hrefused
      obtain rfl := Except.error.inj hg
      exact hrefused e rfl
    · rw [hr] at hg
      exact (hf a).refused q g hg
  logged p := by
    obtain ⟨events, hlog, hevents⟩ := hx.logged p
    rw [run_bind]
    rcases hr : x.run p with ⟨e | a, q⟩
    · rw [hr] at hlog
      exact ⟨events, hlog, hevents⟩
    · rw [hr] at hlog
      obtain ⟨later, hlater, hevents'⟩ := (hf a).logged q
      refine ⟨events ++ later, ?_, fun event h => ?_⟩
      · rw [← List.append_assoc, ← hlog]
        exact hlater
      · exact (List.mem_append.mp h).elim (hevents event) (hevents' event)

theorem guard {c : Prop} [Decidable c] {e : ProtocolError} (he : E e) (hx : Reports E L x) :
    Reports E L (if c then (Op.refuse e : Op PUnit) >>= fun _ => x else x) := by
  split
  · exact bind (refuse he) fun _ => hx
  · exact hx

/-- A handler meets the refusals of the operation and no other fault. -/
theorem tryCatch {h : Fault → Op α} (hx : Reports E L x)
    (hh : ∀ e, E e → Reports E' L (h (.refused e))) :
    Reports E' L (MonadExcept.tryCatch x h) where
  refused p g hg := by
    rw [run_tryCatch] at hg
    have hrefused := hx.refused p
    rcases hr : x.run p with ⟨f | a, q⟩
    · rw [hr] at hg hrefused
      obtain ⟨e, rfl, he⟩ := hrefused f rfl
      exact (hh e he).refused q g hg
    · rw [hr] at hg
      cases hg
  logged p := by
    obtain ⟨events, hlog, hevents⟩ := hx.logged p
    have hrefused := hx.refused p
    rw [run_tryCatch]
    rcases hr : x.run p with ⟨f | a, q⟩
    · rw [hr] at hlog hrefused
      obtain ⟨e, rfl, he⟩ := hrefused f rfl
      obtain ⟨later, hlater, hevents'⟩ := (hh e he).logged q
      refine ⟨events ++ later, ?_, fun event h => ?_⟩
      · rw [← List.append_assoc, ← hlog]
        exact hlater
      · exact (List.mem_append.mp h).elim (hevents event) (hevents' event)
    · rw [hr] at hlog
      exact ⟨events, hlog, hevents⟩

theorem freshHandle : Reports E L Op.freshHandle :=
  .of_log (fun _ => rfl) fun _ _ => nofun

theorem freshUuid : Reports E L Op.freshUuid :=
  .of_log (fun _ => rfl) fun _ _ => nofun

theorem setRecords [Kept α] (t : Records α) : Reports E L (Op.setRecords t) :=
  .of_log (fun _ => rfl) fun _ _ => nofun

theorem createRecord [Kept α] (r : α) (hE : ∀ e, E (.storage e)) :
    Reports E L (Op.createRecord r) :=
  bind provider fun p => by
    split
    · exact setRecords _
    · exact refuse (hE _)

theorem takeRecord [Kept α] (key : String) : Reports E L (Op.takeRecord α key) :=
  bind provider fun _ => bind (setRecords _) fun _ => pure _

end Reports

/-! ## Keys -/

theorem isInternal_of_load {keys : List SigningKey} {now : Instant} {grace : Span}
    {e : ProtocolError} (h : LoadedKeys.load keys now grace = .error e) : e.IsInternal := by
  rw [LoadedKeys.load] at h
  split at h
  · rename_i published _
    cases hkeys : (LoadedKeys.candidates keys now).mapM TokenKey.ofSigningKey with
    | error e' =>
      rw [hkeys] at h
      obtain rfl := Except.error.inj h
      rfl
    | ok signing =>
      rw [hkeys] at h
      cases h
  · obtain rfl := Except.error.inj h
    rfl

section

variable {E : ProtocolError → Prop} {L : AuditEvent → Prop}
  (hE : ∀ e : ProtocolError, e.IsInternal → E e)
  (hL : ∀ event : AuditEvent, event.IsKeyLoad → L event)

include hE

include hL in
theorem reports_loadedKeys : Reports E L loadedKeys := by
  refine .bind .provider fun p => ?_
  split
  · exact .pure _
  · exact .bind (.ofExcept fun e h => hE e (isInternal_of_load h)) fun l =>
      .bind (.emit (hL _ rfl)) fun _ => .bind (.of_log (fun _ => rfl) fun _ _ => nofun) fun _ =>
        .pure _

include hL in
theorem reports_currentKey : Reports E L currentKey :=
  .bind (reports_loadedKeys hE hL) fun _ => .bind .provider fun _ => .orRefuse _ (hE _ rfl)

include hL in
theorem reports_publishedKeys : Reports E L publishedKeys :=
  .bind (reports_loadedKeys hE hL) fun _ => .pure _

/-! ## Issuance -/

omit hE in
theorem reports_activeTenant (tenantId : String) {e : ProtocolError} (he : E e) :
    Reports E L (activeTenant tenantId e) :=
  .bind .provider fun _ => .orRefuse _ he

omit hE in
theorem reports_enabledClient (tenantId clientId : String) {e : ProtocolError} (he : E e) :
    Reports E L (enabledClient tenantId clientId e) :=
  .bind .provider fun _ => .orRefuse _ he

theorem reports_expiry (ttl : Int) : Reports E L (expiry ttl) :=
  .bind .provider fun _ => .orRefuse _ (hE _ rfl)

theorem reports_sign (k : TokenKey) (c : TokenClaims) : Reports E L (sign k c) :=
  .bind (.orRefuse _ (hE _ rfl)) fun _ => .pure _

theorem reports_freshClaims (subject tenantId clientId : String) (type : TokenType) (ttl : Int) :
    Reports E L (freshClaims subject tenantId clientId type ttl) :=
  .bind (reports_expiry hE ttl) fun _ => .bind .freshUuid fun _ => .bind .provider fun _ => .pure _

theorem reports_idToken (k : TokenKey) (c : TokenClaims) : Reports E L (idToken k c) := by
  rw [idToken]
  split
  · exact .bind .freshUuid fun _ => .bind (reports_sign hE _ _) fun _ => .pure _
  · exact .pure _

theorem reports_refreshToken (client : Client) (tenantId userId scope : String)
    (refreshCount : Nat) :
    Reports E L (refreshToken client tenantId userId scope refreshCount) := by
  rw [refreshToken]
  split
  · exact .bind .freshHandle fun _ => .bind .provider fun _ => .bind (reports_expiry hE _) fun _ =>
      .bind (.createRecord _ fun _ => hE _ rfl) fun _ => .pure _
  · exact .pure _

end

theorem reports_readToken (token : String) {L : AuditEvent → Prop} :
    Reports (fun _ => True) L (readToken token) := by
  rw [readToken]
  split
  · split
    · exact .refuse trivial
    · split
      · exact .refuse trivial
      · split
        · exact .pure _
        · exact .refuse trivial
  · exact .refuse trivial

theorem reports_verifyToken (tenantId token : String) :
    Reports (fun _ => True) AuditEvent.IsKeyLoad (verifyToken tenantId token) := by
  refine .bind (reports_readToken token) fun x =>
    .bind (reports_publishedKeys (fun _ _ => trivial) fun _ => id) fun keys => ?_
  split
  · split
    · refine .bind .provider fun p => ?_
      split
      · exact .refuse trivial
      · split
        · exact .refuse trivial
        · split
          · exact .refuse trivial
          · exact .pure _
    · exact .refuse trivial
  · exact .refuse trivial

/-- A caller that may not create anonymous users is refused in one way, unless the provider is
at fault. -/
theorem reports_anonymousCaller (tenantId token : String) :
    Reports (fun e => e.IsInternal ∨ e = .notAuthorized) AuditEvent.IsKeyLoad
      (anonymousCaller tenantId token) := by
  refine .bind (.tryCatch (reports_verifyToken tenantId token) fun e _ => ?_) fun c => ?_
  · refine .refuse ?_
    by_cases he : e.isServerError = true
    · rw [if_pos he]
      exact .inl he
    · rw [if_neg he]
      exact .inr rfl
  · split
    · exact .pure _
    · exact .refuse (.inr rfl)

/-- A token for an anonymous user is refused in one way, unless the provider is at fault. -/
theorem reports_issueAnonymous (tenantId clientId callerToken : String) :
    Reports (fun e => e.IsInternal ∨ e = .notAuthorized) (fun _ => True)
      (issueAnonymous tenantId clientId callerToken) :=
  have hE (e : ProtocolError) : e.IsInternal → e.IsInternal ∨ e = .notAuthorized := .inl
  .bind (reports_activeTenant _ (.inr rfl)) fun _ => .guard (.inr rfl) <|
    .bind ((reports_anonymousCaller ..).imp (fun _ => id) fun _ _ => trivial) fun _ =>
      .bind (reports_enabledClient _ _ (.inr rfl)) fun _ =>
        .bind (reports_currentKey hE fun _ _ => trivial) fun _ => .bind .provider fun _ =>
          .bind .freshUuid fun _ => .bind (reports_freshClaims hE ..) fun _ =>
            .bind (reports_sign hE ..) fun _ => .bind (.emit trivial) fun _ => .pure _

/-! ## Authentication -/

section

variable {E : ProtocolError → Prop} {L : AuditEvent → Prop}

theorem reports_acceptsAssertion (assertion clientId tenantId : String) :
    Reports E L (acceptsAssertion assertion clientId tenantId) := by
  refine .bind .provider fun p => ?_
  split
  · exact .pure _
  · refine .bind (.bind .provider fun q => ?_) fun first => ?_
    · split
      · exact .bind (.setRecords _) fun _ => .pure _
      · exact .pure _
    · split <;> exact .pure _

/-- The check of credentials is never refused, and logs nothing. -/
theorem reports_checkCredentials (tenantId : String) (c : Credentials) :
    Reports E L (checkCredentials tenantId c) := by
  cases c with
  | secret clientId clientSecret inHeader => exact .bind .provider fun _ => .pure _
  | assertion clientId assertion => exact .bind (reports_acceptsAssertion ..) fun _ => .pure _

end

/-- The refusal of a client that is not authenticated. -/
def authenticationFailed : ProtocolError :=
  .unauthorizedClient "client authentication failed"

/-- A client is authenticated or refused, and one event tells which. -/
theorem authenticate_cases (tenantId : String) (c : Credentials) (p : Provider) :
    (∃ client q, (authenticate tenantId c).run p = (.ok client, q) ∧
      q.log = p.log ++ [loginEvent tenantId c.named c.method true] ∧ client.clientId = c.named) ∨
    ∃ q, (authenticate tenantId c).run p = (.error (.refused authenticationFailed), q) ∧
      q.log = p.log ++ [loginEvent tenantId c.named c.method false] := by
  obtain ⟨accepted, q, hrun, -⟩ := run_checkCredentials tenantId c p
  have hlog : q.log = p.log := by
    obtain ⟨events, hlog, hevents⟩ := (reports_checkCredentials (E := fun _ => True)
      (L := fun _ => False) tenantId c).logged p
    rw [hrun, List.eq_nil_iff_forall_not_mem.mpr hevents, List.append_nil] at hlog
    exact hlog
  rw [authenticate, run_bind, hrun, ← hlog]
  dsimp only
  rw [run_bind, run_provider]
  dsimp only
  cases hclient : (q.store.boundClient? tenantId c.named).filter fun _ => accepted with
  | some client =>
    obtain ⟨hbound, -⟩ := Option.filter_eq_some_iff.mp hclient
    obtain ⟨-, hstored, -⟩ := Store.boundClient?_eq_some.mp hbound
    exact .inl ⟨client, _, rfl, rfl, Table.key_of_get? hstored⟩
  | none => exact .inr ⟨_, rfl, rfl⟩

/-! ## Grants -/

end Op

end OpenIdProvider
