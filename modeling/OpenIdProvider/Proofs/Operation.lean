import OpenIdProvider.Provider.ClientAuthentication
import OpenIdProvider.Provider.Grants

/-!
# What operations do

How an operation runs, step by step (`Op.run_bind` and its like), and what it leaves
alone. `SameBut parts p q` says that `q` is `p` but for some parts of the state;
`Op.Touches parts x` says that running `x` does no more than that, whether it succeeds or
not. It is closed under sequencing and catching, so every operation of the provider has
one lemma that lists the parts it may change.

Nothing changes the settings or the random values, and values that were drawn stay drawn.
Keys in use come from nowhere but the store (`Provider.Reloads`).
-/

namespace OpenIdProvider

variable {α β : Type}

namespace Op

/-! ## Running -/

theorem run_pure (a : α) (p : Provider) : (pure a : Op α).run p = (.ok a, p) := rfl

theorem run_bind (x : Op α) (f : α → Op β) (p : Provider) :
    (x >>= f).run p = match x.run p with
      | (.ok a, q) => (f a).run q
      | (.error e, q) => (.error e, q) := by
  simp only [run, ExceptT.run_bind, StateT.run_bind]
  show (match (ExceptT.run x).run p with | (a, s) => _ : Except Fault β × Provider) = _
  rcases h : (ExceptT.run x).run p with ⟨a | a, q⟩ <;> rfl

theorem run_bind_of_ok {x : Op α} {f : α → Op β} {p q : Provider} {a : α}
    (h : x.run p = (.ok a, q)) : (x >>= f).run p = (f a).run q := by
  rw [run_bind, h]

theorem run_bind_of_error {x : Op α} {f : α → Op β} {p q : Provider} {e : Fault}
    (h : x.run p = (.error e, q)) : (x >>= f).run p = (.error e, q) := by
  rw [run_bind, h]

theorem run_tryCatch (x : Op α) (f : Fault → Op α) (p : Provider) :
    (tryCatch x f).run p = match x.run p with
      | (.ok a, q) => (.ok a, q)
      | (.error e, q) => (f e).run q := by
  show (ExceptT.run (tryCatch x f)).run p = _
  simp only [tryCatch, tryCatchThe, MonadExceptOf.tryCatch, ExceptT.tryCatch, ExceptT.run_mk,
    StateT.run_bind]
  rcases h : x.run p with ⟨e | a, q⟩ <;>
  · rw [show StateT.run x p = _ from h]
    rfl

theorem run_provider (p : Provider) : provider.run p = (.ok p, p) := rfl

theorem run_refuse (e : ProtocolError) (p : Provider) :
    (refuse e : Op α).run p = (.error (.refused e), p) := rfl

theorem run_ofExcept (x : Except ProtocolError α) (p : Provider) :
    (ofExcept x).run p = (x.mapError .refused, p) := by
  cases x <;> rfl

theorem run_orRefuse (x : Option α) (e : ProtocolError) (p : Provider) :
    (orRefuse x e).run p = (match x with | some a => .ok a | none => .error (.refused e), p) := by
  cases x <;> rfl

theorem run_orRefuse_some {x : Option α} {a : α} (h : x = some a) (e : ProtocolError)
    (p : Provider) : (orRefuse x e).run p = (.ok a, p) := by
  rw [run_orRefuse, h]

theorem run_orRefuse_none {x : Option α} (h : x = none) (e : ProtocolError) (p : Provider) :
    (orRefuse x e).run p = (.error (.refused e), p) := by
  rw [run_orRefuse, h]

theorem run_emit (e : AuditEvent) (p : Provider) :
    (emit e).run p = (.ok (), { p with log := p.log ++ [e] }) := rfl

theorem run_freshHandle (p : Provider) :
    freshHandle.run p = (.ok (handleText (p.random p.drawn)), { p with drawn := p.drawn + 1 }) :=
  rfl

theorem run_createRecord [Kept α] (r : α) (p : Provider) :
    (createRecord r).run p = match (Kept.records p.store).create p.now r with
      | .ok t => (.ok (), { p with store := Kept.withRecords p.store t })
      | .error e => (.error (.refused (.storage e)), p) := by
  simp only [createRecord, run_bind, run_provider]
  cases (Kept.records p.store).create p.now r <;> rfl

theorem run_later (seconds : Int) (p : Provider) :
    (later seconds).run p = match (Span.ofSeconds? seconds).bind p.now.add? with
      | some t => (.ok t, p)
      | none => (.error .outOfRange, p) := by
  simp only [later, run_bind, run_provider]
  cases (Span.ofSeconds? seconds).bind p.now.add? <;> rfl

/-- A guard refuses, or lets the rest run. -/
theorem run_guard (c : Prop) [Decidable c] (e : ProtocolError) (rest : Op α) (p : Provider) :
    (if c then (refuse e : Op PUnit) >>= fun _ => rest else rest).run p
      = if c then (.error (.refused e), p) else rest.run p := by
  split <;> rfl

/-- A sequence that gives a result has run both of its parts. -/
theorem bind_eq_ok {x : Op α} {f : α → Op β} {p q : Provider} {b : β} :
    (x >>= f).run p = (.ok b, q) ↔ ∃ a r, x.run p = (.ok a, r) ∧ (f a).run r = (.ok b, q) := by
  rw [run_bind]
  rcases hx : x.run p with ⟨e | a, r⟩
  · simp
  · constructor
    · exact fun h => ⟨a, r, rfl, h⟩
    · rintro ⟨a', r', h, hf⟩
      cases h
      exact hf

theorem orRefuse_eq_ok {x : Option α} {e : ProtocolError} {p q : Provider} {a : α} :
    (orRefuse x e).run p = (.ok a, q) ↔ x = some a ∧ p = q := by
  rw [run_orRefuse]
  cases x <;> simp

/-- Whether an operation never gives a result. -/
def Fails (x : Op α) : Prop :=
  ∀ p a q, x.run p ≠ (.ok a, q)

theorem fails_throw (e : Fault) : (throw e : Op α).Fails := by
  intro p a q h
  cases (Prod.mk.inj h).1

theorem fails_refuse (e : ProtocolError) : (refuse e : Op α).Fails :=
  fails_throw _

theorem Fails.bind {x : Op α} {f : α → Op β} (hf : ∀ a, (f a).Fails) : (x >>= f).Fails := by
  intro p b q h
  obtain ⟨a, r, -, hlast⟩ := bind_eq_ok.mp h
  exact hf a r b q hlast

/-- A result that a handler cannot have given is that of the operation itself. -/
theorem eq_ok_of_tryCatch {x : Op α} {f : Fault → Op α} {p q : Provider} {a : α}
    (hf : ∀ e, (f e).Fails) (h : (tryCatch x f).run p = (.ok a, q)) : x.run p = (.ok a, q) := by
  rw [run_tryCatch] at h
  rcases hx : x.run p with ⟨e | a', r⟩
  · rw [hx] at h
    exact absurd h (hf e r a q)
  · rw [hx] at h
    exact h

end Op

/-! ## Parts of the state -/

/-- A part of a provider's state that something may change. -/
inductive Part where
  | clock
  | entities
  | pendingLogins
  | codes
  | refreshGrants
  | assertionUses
  | keys
  deriving DecidableEq

/-- What a store holds besides records that expire. -/
structure Store.SameEntities (s t : Store) : Prop where
  tenants : t.tenants = s.tenants
  clients : t.clients = s.clients
  users : t.users = s.users
  scopes : t.scopes = s.scopes
  scopeGrants : t.scopeGrants = s.scopeGrants
  signingKeys : t.signingKeys = s.signingKeys

theorem Store.SameEntities.refl (s : Store) : s.SameEntities s :=
  ⟨rfl, rfl, rfl, rfl, rfl, rfl⟩

theorem Store.SameEntities.trans {s t u : Store} (h : s.SameEntities t) (h' : t.SameEntities u) :
    s.SameEntities u :=
  ⟨h'.tenants.trans h.tenants, h'.clients.trans h.clients, h'.users.trans h.users,
    h'.scopes.trans h.scopes, h'.scopeGrants.trans h.scopeGrants,
    h'.signingKeys.trans h.signingKeys⟩

/-- The keys that are read from the store as it is now. -/
def Provider.loadKeys (p : Provider) : Except ProtocolError LoadedKeys :=
  LoadedKeys.load (p.store.signingKeysOf p.config.keys.rootTenantId) p.now p.grace

/-- Whether keys in use are those of a state, or are forgotten, or are read from its store. -/
def Provider.Reloads (p : Provider) (keys : Option LoadedKeys) : Prop :=
  keys = p.keys ∨ keys = none ∨ ∃ l, p.loadKeys = .ok l ∧ keys = some l

/-- `q` is `p` but for some parts, for values drawn and for events logged. -/
structure SameBut (parts : List Part) (p q : Provider) : Prop where
  config : q.config = p.config
  grace : q.grace = p.grace
  random : q.random = p.random
  drawn : p.drawn ≤ q.drawn
  now : .clock ∉ parts → q.now = p.now
  entities : .entities ∉ parts → p.store.SameEntities q.store
  pendingLogins : .pendingLogins ∉ parts → q.store.pendingLogins = p.store.pendingLogins
  codes : .codes ∉ parts → q.store.codes = p.store.codes
  refreshGrants : .refreshGrants ∉ parts → q.store.refreshGrants = p.store.refreshGrants
  assertionUses : .assertionUses ∉ parts → q.store.assertionUses = p.store.assertionUses
  keys : .keys ∉ parts → q.keys = p.keys
  reloads : .clock ∉ parts → .entities ∉ parts → p.Reloads q.keys

namespace SameBut

variable {ps qs : List Part} {p q r : Provider}

theorem refl (ps : List Part) (p : Provider) : SameBut ps p p :=
  ⟨rfl, rfl, rfl, Nat.le_refl _, fun _ => rfl, fun _ => .refl _, fun _ => rfl, fun _ => rfl,
    fun _ => rfl, fun _ => rfl, fun _ => rfl, fun _ _ => .inl rfl⟩

/-- The same keys are read from a store that holds the same entities at the same instant. -/
theorem loadKeys_eq (h : SameBut ps p q) (hclock : .clock ∉ ps) (hentities : .entities ∉ ps) :
    q.loadKeys = p.loadKeys := by
  rw [Provider.loadKeys, Provider.loadKeys, Store.signingKeysOf, Store.signingKeysOf,
    (h.entities hentities).signingKeys, h.now hclock, h.grace, h.config]

theorem trans (h : SameBut ps p q) (h' : SameBut ps q r) : SameBut ps p r where
  config := h'.config.trans h.config
  grace := h'.grace.trans h.grace
  random := h'.random.trans h.random
  drawn := Nat.le_trans h.drawn h'.drawn
  now hn := (h'.now hn).trans (h.now hn)
  entities hn := (h.entities hn).trans (h'.entities hn)
  pendingLogins hn := (h'.pendingLogins hn).trans (h.pendingLogins hn)
  codes hn := (h'.codes hn).trans (h.codes hn)
  refreshGrants hn := (h'.refreshGrants hn).trans (h.refreshGrants hn)
  assertionUses hn := (h'.assertionUses hn).trans (h.assertionUses hn)
  keys hn := (h'.keys hn).trans (h.keys hn)
  reloads hc he := by
    rcases h'.reloads hc he with hsame | hnone | ⟨l, hl, hkeys⟩
    · exact hsame ▸ h.reloads hc he
    · exact .inr (.inl hnone)
    · exact .inr (.inr ⟨l, (h.loadKeys_eq hc he).symm.trans hl, hkeys⟩)

theorem mono (h : SameBut ps p q) (hs : ps ⊆ qs) : SameBut qs p q :=
  { h with
    now := fun hn => h.now fun hm => hn (hs hm)
    entities := fun hn => h.entities fun hm => hn (hs hm)
    pendingLogins := fun hn => h.pendingLogins fun hm => hn (hs hm)
    codes := fun hn => h.codes fun hm => hn (hs hm)
    refreshGrants := fun hn => h.refreshGrants fun hm => hn (hs hm)
    assertionUses := fun hn => h.assertionUses fun hm => hn (hs hm)
    keys := fun hn => h.keys fun hm => hn (hs hm)
    reloads := fun hc he => h.reloads (fun hm => hc (hs hm)) fun hm => he (hs hm) }

/-- Where at most the keys in use change, the store does not. -/
theorem store_eq (h : SameBut [.keys] p q) : q.store = p.store := by
  have hentities := h.entities (by decide)
  calc q.store
      = ⟨q.store.tenants, q.store.clients, q.store.users, q.store.scopes, q.store.scopeGrants,
          q.store.signingKeys, q.store.pendingLogins, q.store.codes, q.store.refreshGrants,
          q.store.assertionUses⟩ := rfl
    _ = p.store := by
        rw [hentities.tenants, hentities.clients, hentities.users, hentities.scopes,
          hentities.scopeGrants, hentities.signingKeys, h.pendingLogins (by decide),
          h.codes (by decide), h.refreshGrants (by decide), h.assertionUses (by decide)]

end SameBut

namespace Op

/-- Whether an operation changes no other parts than some. -/
def Touches (parts : List Part) (x : Op α) : Prop :=
  ∀ p, SameBut parts p (x.run p).2

namespace Touches

variable {ps qs : List Part} {x : Op α} {f : α → Op β}

theorem mono (h : Touches ps x) (hs : ps ⊆ qs) : Touches qs x :=
  fun p => (h p).mono hs

theorem pure (a : α) : Touches ps (Pure.pure a : Op α) :=
  fun p => .refl ps p

theorem throw (e : Fault) : Touches ps (MonadExcept.throw e : Op α) :=
  fun p => .refl ps p

theorem refuse (e : ProtocolError) : Touches ps (Op.refuse e : Op α) :=
  fun p => .refl ps p

theorem provider : Touches ps Op.provider :=
  fun p => .refl ps p

theorem ofExcept (a : Except ProtocolError α) : Touches ps (Op.ofExcept a) := by
  cases a <;> exact fun p => .refl ps p

theorem orRefuse (a : Option α) (e : ProtocolError) : Touches ps (Op.orRefuse a e) := by
  cases a <;> exact fun p => .refl ps p

theorem emit (e : AuditEvent) : Touches ps (Op.emit e) :=
  fun p => { SameBut.refl ps p with }

theorem draw : Touches ps Op.draw :=
  fun p => { SameBut.refl ps p with drawn := Nat.le_succ p.drawn }

theorem bind (hx : Touches ps x) (hf : ∀ a, Touches ps (f a)) : Touches ps (x >>= f) := by
  intro p
  rw [run_bind]
  have h := hx p
  rcases hr : x.run p with ⟨e | a, q⟩
  · simpa [hr] using h
  · rw [hr] at h
    exact h.trans (hf a q)

/-- After the first part of a sequence, no more changes than what the second part touches. -/
theorem sameBut_bind (ps : List Part) (x : Op α) (hf : ∀ a, Touches ps (f a)) (p : Provider) :
    SameBut ps (x.run p).2 ((x >>= f).run p).2 := by
  rw [run_bind]
  rcases x.run p with ⟨e | a, q⟩
  · exact .refl ps q
  · exact hf a q

/-- After what may fail, no more changes than what the handler touches. -/
theorem sameBut_tryCatch (ps : List Part) (x : Op α) {f : Fault → Op α}
    (hf : ∀ e, Touches ps (f e)) (p : Provider) :
    SameBut ps (x.run p).2 ((MonadExcept.tryCatch x f).run p).2 := by
  rw [run_tryCatch]
  rcases x.run p with ⟨e | a, q⟩
  · exact hf e q
  · exact .refl ps q

theorem guard {c : Prop} [Decidable c] {e : ProtocolError} (hx : Touches ps x) :
    Touches ps (if c then (Op.refuse e : Op PUnit) >>= fun _ => x else x) := by
  split
  · exact bind (refuse e) fun _ => hx
  · exact hx

theorem tryCatch {f : Fault → Op α} (hx : Touches ps x) (hf : ∀ e, Touches ps (f e)) :
    Touches ps (MonadExcept.tryCatch x f) := by
  intro p
  rw [run_tryCatch]
  have h := hx p
  rcases hr : x.run p with ⟨e | a, q⟩
  · rw [hr] at h
    exact h.trans (hf e q)
  · simpa [hr] using h

theorem sameBut_run (hx : Touches ps x) {a : α} {p q : Provider} (h : x.run p = (.ok a, q)) :
    SameBut ps p q := by
  have hsame := hx p
  rwa [h] at hsame

theorem freshHandle : Touches ps Op.freshHandle :=
  bind draw fun _ => pure _

theorem freshUuid : Touches ps Op.freshUuid :=
  bind draw fun _ => pure _

theorem later (seconds : Int) : Touches ps (Op.later seconds) :=
  bind provider fun p => by
    split
    · exact pure _
    · exact throw _

end Touches

/-! ## Records -/

/-- Whether replacing the table of a kind of records changes no other parts than some. -/
def KeptIn (parts : List Part) (α : Type) [Kept α] : Prop :=
  ∀ (p : Provider) (t : Records α),
    SameBut parts p { p with store := Kept.withRecords p.store t }

theorem keptIn_pendingLogins : KeptIn [.pendingLogins] PendingLogin :=
  fun p _ => { SameBut.refl _ p with
    entities := fun _ => ⟨rfl, rfl, rfl, rfl, rfl, rfl⟩
    pendingLogins := fun h => absurd List.mem_cons_self h }

theorem keptIn_codes : KeptIn [.codes] AuthorizationCode :=
  fun p _ => { SameBut.refl _ p with
    entities := fun _ => ⟨rfl, rfl, rfl, rfl, rfl, rfl⟩
    codes := fun h => absurd List.mem_cons_self h }

theorem keptIn_refreshGrants : KeptIn [.refreshGrants] RefreshGrant :=
  fun p _ => { SameBut.refl _ p with
    entities := fun _ => ⟨rfl, rfl, rfl, rfl, rfl, rfl⟩
    refreshGrants := fun h => absurd List.mem_cons_self h }

theorem keptIn_assertionUses : KeptIn [.assertionUses] AssertionUse :=
  fun p _ => { SameBut.refl _ p with
    entities := fun _ => ⟨rfl, rfl, rfl, rfl, rfl, rfl⟩
    assertionUses := fun h => absurd List.mem_cons_self h }

namespace Touches

variable {ps : List Part} [Kept α]

theorem setRecords (h : KeptIn ps α) (t : Records α) : Touches ps (Op.setRecords t) :=
  fun p => h p t

theorem createRecord (h : KeptIn ps α) (r : α) : Touches ps (Op.createRecord r) :=
  bind provider fun p => by
    split
    · exact setRecords h _
    · exact refuse _

theorem takeRecord (h : KeptIn ps α) (key : String) : Touches ps (Op.takeRecord α key) :=
  bind provider fun _ => bind (setRecords h _) fun _ => pure _

end Touches

end Op

end OpenIdProvider
