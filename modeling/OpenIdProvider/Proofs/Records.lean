import OpenIdProvider.Proofs.Time
import OpenIdProvider.Store.Records

/-!
# Tables of records, seen by key

What each operation on a table of records does to the record of a key: a record is added
only where no unexpired one stands (`create_eq_ok`), and a purge leaves those that have
not expired (`get?_purge`).
-/

namespace OpenIdProvider.Records

variable {α : Type} [Expiring α] {t t' : Records α} {now : Instant} {key : String} {r : α}

theorem expired_eq_false : Expiring.expired now r = false ↔ now < Expiring.expiry r := by
  rw [Expiring.expired, Bool.not_eq_false']
  exact Iff.rfl

theorem find?_eq_some :
    t.find? now key = some r ↔ t.get? key = some r ∧ now < Expiring.expiry r := by
  rw [find?, Option.filter_eq_some_iff, Bool.not_eq_true', expired_eq_false]

theorem find?_of_get? (h : t.get? key = none) (now : Instant) : t.find? now key = none := by
  rw [find?, h, Option.filter_none]

theorem create_eq_ok :
    create now t r = .ok t' ↔ t.find? now (Expiring.key r) = none ∧ t' = t.put r := by
  rw [create, find?]
  cases h : t.get? (Expiring.key r) with
  | none => simp [eq_comm (a := t')]
  | some old =>
    by_cases he : Expiring.expired now old = true <;> simp [he, Option.filter, eq_comm (a := t')]

theorem create_eq_error {e : StoreError} :
    create now t r = .error e ↔ t.find? now (Expiring.key r) ≠ none ∧
      e = .duplicate (Expiring.kind α) (Expiring.key r) := by
  rw [create, find?]
  cases h : t.get? (Expiring.key r) with
  | none => simp
  | some old =>
    by_cases he : Expiring.expired now old = true <;> simp [he, Option.filter, eq_comm (a := e)]

theorem get?_of_create (h : create now t r = .ok t') (key : String) :
    t'.get? key = if key = Expiring.key r then some r else t.get? key := by
  rw [(create_eq_ok.mp h).2, Table.get?_put]

theorem get?_purge (now : Instant) (t : Records α) (key : String) :
    (t.purge now).2.get? key = (t.get? key).filter fun r => !Expiring.expired now r := by
  rw [purge, deleteWhere, Table.get?_keep]

/-- A purge leaves a record that has not expired, and brings none. -/
theorem get?_purge_eq_some :
    (t.purge now).2.get? key = some r ↔ t.get? key = some r ∧ now < Expiring.expiry r := by
  rw [get?_purge, ← find?, find?_eq_some]

/-- What was granted to a user and a client is deleted, and nothing else is. -/
theorem get?_deleteForGrant {t : Records RefreshGrant} {userId tenantId clientId : String}
    {g : RefreshGrant} :
    (t.deleteForGrant userId tenantId clientId).2.get? key = some g ↔ t.get? key = some g ∧
      ¬ (g.userId = userId ∧ g.tenantId = tenantId ∧ g.clientId = clientId) := by
  rw [deleteForGrant, deleteWhere, Table.get?_keep, Option.filter_eq_some_iff,
    Bool.not_eq_true', ← Bool.not_eq_true]
  simp only [Bool.and_eq_true, beq_iff_eq, and_assoc]

end OpenIdProvider.Records
