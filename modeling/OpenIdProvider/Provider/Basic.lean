import OpenIdProvider.Audit
import OpenIdProvider.Config
import OpenIdProvider.Key.Current
import OpenIdProvider.Store.Basic

/-!
# The provider

The state of a provider, and the operations on it. An operation gives a result or
a fault, and in both cases the state that it leaves: what it wrote before a fault
stays written.

* `Op.run` runs an operation;
* `Op.freshHandle` and `Op.freshUuid` draw random values, each from bytes that
  were not drawn before;
* `Op.later` is the instant some seconds from now, or a fault if that is out of
  range;
* `Op.loadedKeys` reads the signing keys, unless they were read recently.
-/

namespace OpenIdProvider

/-- The state of a provider. -/
structure Provider where
  config : Config
  /-- For how long an expired key is still published. -/
  grace : Span
  now : Instant
  store : Store
  /-- The keys that were read last. -/
  keys : Option LoadedKeys
  /-- The random values, of which the first `drawn` have been used. -/
  random : Nat → Vector UInt8 32
  drawn : Nat
  /-- The events so far, in order. -/
  log : List AuditEvent

namespace Provider

/-- A provider with a store, which has drawn nothing and logged nothing. There is
none if the grace period of the settings is out of range. -/
def create? (config : Config) (store : Store) (now : Instant) (random : Nat → Vector UInt8 32) :
    Option Provider := do
  let grace ← Span.ofSeconds? config.keys.gracePeriod
  return { config, grace, now, store, keys := none, random, drawn := 0, log := [] }

end Provider

/-- An operation on a provider. -/
abbrev Op (α : Type) : Type :=
  ExceptT Fault (StateM Provider) α

/-- A table of records that the store keeps. -/
class Kept (α : Type) extends Expiring α where
  records : Store → Records α
  withRecords : Store → Records α → Store

instance : Kept PendingLogin where
  records := Store.pendingLogins
  withRecords s t := { s with pendingLogins := t }

instance : Kept AuthorizationCode where
  records := Store.codes
  withRecords s t := { s with codes := t }

instance : Kept RefreshGrant where
  records := Store.refreshGrants
  withRecords s t := { s with refreshGrants := t }

instance : Kept AssertionUse where
  records := Store.assertionUses
  withRecords s t := { s with assertionUses := t }

namespace Op

variable {α : Type}

/-- Runs an operation. -/
def run (op : Op α) (p : Provider) : Except Fault α × Provider :=
  (ExceptT.run op).run p

/-- The state. -/
def provider : Op Provider :=
  get

/-- Refuses the operation. -/
def refuse (e : ProtocolError) : Op α :=
  throw (.refused e)

/-- The value of a computation that may refuse. -/
def ofExcept (x : Except ProtocolError α) : Op α :=
  match x with
  | .ok a => pure a
  | .error e => refuse e

/-- An optional value, or a refusal for none. -/
def orRefuse (x : Option α) (e : ProtocolError) : Op α :=
  match x with
  | some a => pure a
  | none => refuse e

/-- Adds an event to the log. -/
def emit (e : AuditEvent) : Op Unit :=
  modify fun p => { p with log := p.log ++ [e] }

/-- The instant some seconds from now. -/
def later (seconds : Int) : Op Instant := do
  match (Span.ofSeconds? seconds).bind (← provider).now.add? with
  | some t => return t
  | none => throw .outOfRange

/-! ## Random values -/

/-- Random bytes that were not drawn before. -/
def draw : Op (Vector UInt8 32) := do
  let p ← provider
  set { p with drawn := p.drawn + 1 }
  return p.random p.drawn

/-- The text of a handle: its bytes in hexadecimal. -/
def handleText (bytes : Vector UInt8 32) : String :=
  Hex.encode bytes.toList

/-- A handle that nobody can guess. -/
def freshHandle : Op String := do
  return handleText (← draw)

/-- A random UUID. -/
def freshUuid : Op String := do
  return (Uuid.random ((← draw).take 16)).text

/-! ## Records -/

/-- Changes the table of a kind of records. -/
def setRecords [Kept α] (t : Records α) : Op Unit :=
  modify fun p => { p with store := Kept.withRecords p.store t }

/-- Adds a record. -/
def createRecord [Kept α] (r : α) : Op Unit := do
  let p ← provider
  match (Kept.records p.store).create p.now r with
  | .ok t => setRecords t
  | .error e => refuse (.storage e)

/-- Removes and gives the record of a key; an expired one is only removed. -/
def takeRecord (α : Type) [Kept α] (key : String) : Op (Option α) := do
  let p ← provider
  let (r, t) := (Kept.records p.store : Records α).take p.now key
  setRecords t
  return r

/-! ## Keys -/

/-- The event of signing keys that were read. -/
def keysLoadedEvent (rootTenantId : String) (count : Nat) : AuditEvent :=
  { eventType := .signingKeysLoaded, tenantId := rootTenantId
    details := [("signing_keys", Decimal.ofNat count)] }

/-- The keys in use. They are read again from the store when they were read too
long ago, or not at all. -/
def loadedKeys : Op LoadedKeys := do
  let p ← provider
  match p.keys.filter fun l => l.isFresh p.now p.config.keyCacheTtl with
  | some l => return l
  | none =>
    let root := p.config.keys.rootTenantId
    let l ← ofExcept (LoadedKeys.load (p.store.signingKeysOf root) p.now p.grace)
    emit (keysLoadedEvent root l.signing.length)
    modify fun p => { p with keys := some l }
    return l

/-- The key with which tokens are signed now. -/
def currentKey : Op TokenKey := do
  let l ← loadedKeys
  orRefuse (l.current? (← provider).now) .noSigningKey

/-- The keys that are published now. -/
def publishedKeys : Op KeySet := do
  return (← loadedKeys).published

/-- Forgets the keys that were read. -/
def invalidateKeys : Op Unit :=
  modify fun p => { p with keys := none }

end Op

end OpenIdProvider
