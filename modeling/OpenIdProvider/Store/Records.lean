import OpenIdProvider.Error
import OpenIdProvider.Record.Basic
import OpenIdProvider.Store.Table

/-!
# Tables of records that expire

An expired record is as good as absent: it is not found, and another record may
take its key. It leaves its table when it is removed, taken or purged.
-/

namespace OpenIdProvider

/-- A table of records of one kind. -/
abbrev Records (α : Type) [Expiring α] : Type :=
  Table (Expiring.key : α → String)

namespace Records

variable {α : Type} [Expiring α]

/-- Adds a record, unless its key belongs to one that has not expired. -/
def create (now : Instant) (t : Records α) (r : α) : Except StoreError (Records α) :=
  match t.get? (Expiring.key r) with
  | some old =>
    if Expiring.expired now old then .ok (t.put r)
    else .error (.duplicate (Expiring.kind α) (Expiring.key r))
  | none => .ok (t.put r)

/-- The record of a key, unless it has expired. -/
def find? (now : Instant) (t : Records α) (key : String) : Option α :=
  (t.get? key).filter fun r => !Expiring.expired now r

/-- Removes and gives the record of a key; an expired one is only removed. -/
def take (now : Instant) (t : Records α) (key : String) : Option α × Records α :=
  (t.find? now key, t.erase key)

/-- Removes the record of a key, and says whether it had not expired. -/
def delete (now : Instant) (t : Records α) (key : String) : Bool × Records α :=
  ((t.find? now key).isSome, t.erase key)

/-- Removes and gives the record of a key in two steps: it is found at one instant and
deleted at another. -/
def takeByFind (found now : Instant) (t : Records α) (key : String) : Option α × Records α :=
  match t.find? found key with
  | none => (none, t)
  | some r =>
    let (live, t) := t.delete now key
    (if live then some r else none, t)

/-- Removes the records that satisfy a condition, and counts them. -/
def deleteWhere (t : Records α) (p : α → Bool) : Nat × Records α :=
  ((t.rows.filter p).length, t.keep fun r => !p r)

/-- Removes the expired records, and counts them. -/
def purge (now : Instant) (t : Records α) : Nat × Records α :=
  t.deleteWhere (Expiring.expired now)

end Records

/-- Removes the refresh grants of a user to a client, expired or not, and counts
them. -/
def Records.deleteForGrant (t : Records RefreshGrant) (userId tenantId clientId : String) :
    Nat × Records RefreshGrant :=
  t.deleteWhere fun g => g.userId == userId && g.tenantId == tenantId && g.clientId == clientId

end OpenIdProvider
