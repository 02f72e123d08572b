import Mathlib.Data.List.Induction
import OpenIdProvider.Proofs.Footprint
import OpenIdProvider.Proofs.Time

/-!
# Runs

A run is a list of actions on a provider: calls of its operations with any arguments,
changes of the clock, changes of entities, and housekeeping. `Provider.step` is the state
after one action, whether or not the action succeeds, and `Provider.exec` that after a run.

* `sameBut_step`: an action changes no other parts of the state than `Action.parts`;
* `ClockForward`: the clock is never set back during a run;
* `exists_origin`: what a state holds and its run did not begin with was brought by one of
  its actions.
-/

namespace OpenIdProvider

/-! ## Changes of entities -/

/-- A change of what a store holds besides records that expire. -/
inductive EntityChange where
  | createTenant (t : Tenant)
  | updateTenant (t : Tenant)
  | createClient (c : Client)
  | updateClient (c : Client)
  | createUser (u : User)
  | createScope (x : Scope)
  | grantScope (g : ScopeGrant)
  | createSigningKey (k : SigningKey)
  | revokeSigningKey (keyId : String)

namespace EntityChange

/-- The result of a change. -/
def result (s : Store) : EntityChange → Except StoreError Store
  | createTenant t => s.createTenant t
  | updateTenant t => s.updateTenant t
  | createClient c => s.createClient c
  | updateClient c => s.updateClient c
  | createUser u => s.createUser u
  | createScope x => s.createScope x
  | grantScope g => .ok (s.grantScope g)
  | createSigningKey k => s.createSigningKey k
  | revokeSigningKey keyId => s.revokeSigningKey keyId

/-- The store after a change; one that fails changes nothing. -/
def apply (c : EntityChange) (s : Store) : Store :=
  match c.result s with
  | .ok t => t
  | .error _ => s

/-- What no change of entities touches. -/
structure SameRecords (s t : Store) : Prop where
  pendingLogins : t.pendingLogins = s.pendingLogins
  codes : t.codes = s.codes
  refreshGrants : t.refreshGrants = s.refreshGrants
  assertionUses : t.assertionUses = s.assertionUses

theorem sameRecords_of_result {c : EntityChange} {s t : Store} (h : c.result s = .ok t) :
    SameRecords s t := by
  cases c <;> simp only [result, Store.createTenant, Store.updateTenant, Store.createClient,
    Store.updateClient, Store.createUser, Store.createScope, Store.grantScope,
    Store.createSigningKey, Store.revokeSigningKey] at h <;> (repeat' split at h) <;>
    cases h <;> exact ⟨rfl, rfl, rfl, rfl⟩

theorem sameRecords_apply (c : EntityChange) (s : Store) : SameRecords s (c.apply s) := by
  rw [apply]
  split
  · rename_i t h
    exact sameRecords_of_result h
  · exact ⟨rfl, rfl, rfl, rfl⟩

end EntityChange

/-! ## Actions -/

/-- Something that happens to a provider. -/
inductive Action where
  | setClock (now : Instant)
  | administer (c : EntityChange)
  | authorize (tenantId : String) (r : AuthorizationRequest)
  | completeLogin (token userId : String)
  | redeem (tenantId clientId code : String) (redirectUri verifier : Option String)
  | validateAssertion (assertion clientId tenantId : String)
  | authenticate (tenantId : String) (c : Credentials)
  | issueEndUser (tenantId clientId userId scope : String) (refreshCount : Nat)
  | issueService (tenantId clientId : String) (scope : Option String)
  | issueAnonymous (tenantId clientId callerToken : String)
  | verify (tenantId token : String)
  | grant (tenantId : String) (client : Client) (r : TokenRequest)
  | revoke (tenantId : String) (client : Client) (token : String)
  | currentKey
  | publishedKeys
  | invalidateKeys
  | purge

namespace Action

/-- The parts of the state that an action may change. -/
def parts : Action → List Part
  | setClock _ => [.clock]
  | administer _ => [.entities]
  | authorize _ _ => [.pendingLogins]
  | completeLogin _ _ => [.pendingLogins, .codes]
  | redeem _ _ _ _ _ => [.codes]
  | validateAssertion _ _ _ | authenticate _ _ => [.assertionUses]
  | issueEndUser _ _ _ _ _ => [.refreshGrants, .keys]
  | grant _ _ _ => [.codes, .refreshGrants, .keys]
  | revoke _ _ _ => [.refreshGrants]
  | issueService _ _ _ | issueAnonymous _ _ _ | verify _ _ => [.keys]
  | currentKey | publishedKeys | invalidateKeys => [.keys]
  | purge => [.pendingLogins, .codes, .refreshGrants, .assertionUses]

/-! An action of a run `as` is named by what is before and after it: `as = before ++ a :: after`. -/

section

variable {as before after before' after' : List Action} {a b : Action}

/-- An action of a run is the last one, or it comes before this. -/
theorem last_or_before (h : as ++ [b] = before ++ a :: after) :
    (before = as ∧ a = b ∧ after = []) ∨
      ∃ rest, after = rest ++ [b] ∧ as = before ++ a :: rest := by
  rcases List.eq_nil_or_concat after with rfl | ⟨rest, c, rfl⟩
  · obtain ⟨rfl, hlast⟩ := List.append_inj' h rfl
    exact .inl ⟨rfl, (List.singleton_inj.mp hlast).symm, rfl⟩
  · rw [List.concat_eq_append, ← List.cons_append, ← List.append_assoc] at h
    obtain ⟨rfl, hlast⟩ := List.append_inj' h rfl
    obtain rfl := List.singleton_inj.mp hlast
    exact .inr ⟨rest, List.concat_eq_append, rfl⟩

/-- Of two actions of a run, the second is the first one or comes before it, or it comes after
it. -/
theorem before_or_after (h : before ++ a :: after = before' ++ b :: after') :
    (∃ rest, before = before' ++ rest ∧ after ⊆ after') ∨
      ∃ rest, before' = before ++ a :: rest := by
  rcases List.append_eq_append_iff.mp h with ⟨rest, hbefore', hafter⟩ | ⟨rest, hbefore, hafter'⟩
  · cases rest with
    | nil =>
      obtain ⟨-, rfl⟩ := List.cons.inj hafter
      exact .inl ⟨[], by simpa using hbefore'.symm, fun _ hc => hc⟩
    | cons c rest =>
      obtain ⟨rfl, -⟩ := List.cons.inj hafter
      exact .inr ⟨rest, hbefore'⟩
  · cases rest with
    | nil =>
      obtain ⟨-, rfl⟩ := List.cons.inj hafter'
      exact .inl ⟨[], by simpa using hbefore, fun _ hc => hc⟩
    | cons c rest =>
      obtain ⟨-, rfl⟩ := List.cons.inj hafter'
      exact .inl ⟨c :: rest, hbefore, fun _ hc =>
        List.mem_append_right _ (List.mem_cons_of_mem _ hc)⟩

end

end Action

namespace Provider

variable {p q : Provider} {a : Action} {as bs : List Action}

/-- The state after an action, whether or not it succeeds. -/
def step (p : Provider) : Action → Provider
  | .setClock now => { p with now }
  | .administer c => { p with store := c.apply p.store }
  | .authorize t r => ((Op.authorize t r).run p).2
  | .completeLogin token u => ((Op.completeLogin token u).run p).2
  | .redeem t c code uri v => ((Op.redeem t c code uri v).run p).2
  | .validateAssertion x c t => ((Op.acceptsAssertion x c t).run p).2
  | .authenticate t c => ((Op.authenticate t c).run p).2
  | .issueEndUser t c u scope n => ((Op.issueEndUser t c u scope n).run p).2
  | .issueService t c scope => ((Op.issueService t c scope).run p).2
  | .issueAnonymous t c caller => ((Op.issueAnonymous t c caller).run p).2
  | .verify t token => ((Op.verifyToken t token).run p).2
  | .grant t c r => ((Op.grant t c r).run p).2
  | .revoke t c token => ((Op.revoke t c token).run p).2
  | .currentKey => (Op.currentKey.run p).2
  | .publishedKeys => (Op.publishedKeys.run p).2
  | .invalidateKeys => (Op.invalidateKeys.run p).2
  | .purge => { p with store := (p.store.purge p.now).2 }

/-- The state after a run. -/
def exec (p : Provider) (as : List Action) : Provider :=
  as.foldl step p

theorem exec_nil (p : Provider) : p.exec [] = p := rfl

theorem exec_cons (p : Provider) (a : Action) (as : List Action) :
    p.exec (a :: as) = (p.step a).exec as := rfl

theorem exec_append (p : Provider) (as bs : List Action) :
    p.exec (as ++ bs) = (p.exec as).exec bs :=
  List.foldl_append

theorem exec_concat (p : Provider) (as : List Action) (a : Action) :
    p.exec (as ++ [a]) = (p.exec as).step a := by
  rw [exec_append]
  rfl

/-- An action changes no other parts of the state than its own. -/
theorem sameBut_step (p : Provider) (a : Action) : SameBut a.parts p (p.step a) := by
  cases a with
  | setClock now =>
    exact { SameBut.refl _ p with
      now := fun h => absurd List.mem_cons_self h
      reloads := fun h => absurd List.mem_cons_self h }
  | administer c =>
    obtain ⟨h₁, h₂, h₃, h₄⟩ := c.sameRecords_apply p.store
    exact ⟨rfl, rfl, rfl, Nat.le_refl _, fun _ => rfl, fun h => absurd List.mem_cons_self h,
      fun _ => h₁, fun _ => h₂, fun _ => h₃, fun _ => h₄, fun _ => rfl, fun _ _ => .inl rfl⟩
  | authorize t r => exact Op.touches_authorize t r p
  | completeLogin token u => exact Op.touches_completeLogin token u p
  | redeem t c code uri v => exact Op.touches_redeem t c code uri v p
  | validateAssertion x c t => exact Op.touches_acceptsAssertion x c t p
  | authenticate t c => exact Op.touches_authenticate t c p
  | issueEndUser t c u scope n => exact Op.touches_issueEndUser t c u scope n p
  | issueService t c scope => exact Op.touches_issueService t c scope p
  | issueAnonymous t c caller => exact Op.touches_issueAnonymous t c caller p
  | verify t token => exact Op.touches_verifyToken t token p
  | grant t c r => exact Op.touches_grant t c r p
  | revoke t c token => exact Op.touches_revoke t c token p
  | currentKey => exact Op.touches_currentKey p
  | publishedKeys => exact Op.touches_publishedKeys p
  | invalidateKeys => exact Op.touches_invalidateKeys p
  | purge =>
    exact ⟨rfl, rfl, rfl, Nat.le_refl _, fun _ => rfl, fun _ => ⟨rfl, rfl, rfl, rfl, rfl, rfl⟩,
      fun h => absurd (by decide) h, fun h => absurd (by decide) h, fun h => absurd (by decide) h,
      fun h => absurd (by decide) h, fun _ => rfl, fun _ _ => .inl rfl⟩

/-! ## What a whole run keeps -/

theorem config_exec (p : Provider) (as : List Action) : (p.exec as).config = p.config := by
  induction as generalizing p with
  | nil => rfl
  | cons a as ih => exact (ih _).trans (sameBut_step p a).config

theorem grace_exec (p : Provider) (as : List Action) : (p.exec as).grace = p.grace := by
  induction as generalizing p with
  | nil => rfl
  | cons a as ih => exact (ih _).trans (sameBut_step p a).grace

theorem random_exec (p : Provider) (as : List Action) : (p.exec as).random = p.random := by
  induction as generalizing p with
  | nil => rfl
  | cons a as ih => exact (ih _).trans (sameBut_step p a).random

theorem drawn_le_exec (p : Provider) (as : List Action) : p.drawn ≤ (p.exec as).drawn := by
  induction as generalizing p with
  | nil => exact Nat.le_refl _
  | cons a as ih => exact Nat.le_trans (sameBut_step p a).drawn (ih _)

/-- The clock is never set back during a run. -/
def ClockForward (p : Provider) : List Action → Prop
  | [] => True
  | a :: as => p.now ≤ (p.step a).now ∧ (p.step a).ClockForward as

theorem clockForward_append :
    p.ClockForward (as ++ bs) ↔ p.ClockForward as ∧ (p.exec as).ClockForward bs := by
  induction as generalizing p with
  | nil => simp [ClockForward, exec_nil]
  | cons a as ih => simp [ClockForward, exec_cons, ih, and_assoc]

theorem ClockForward.now_le (h : p.ClockForward as) : p.now ≤ (p.exec as).now := by
  induction as generalizing p with
  | nil => exact Instant.le_refl _
  | cons a as ih => exact Instant.le_trans h.1 (ih h.2)

/-- What a state holds, and its run did not begin with, was brought by an action. -/
theorem exists_origin {α : Type} (holds : Provider → α → Prop)
    {brings : Provider → Action → α → Prop}
    (hstep : ∀ p a x, holds (p.step a) x → holds p x ∨ brings p a x)
    (hbegin : ∀ x, ¬ holds p x) {x : α} (h : holds (p.exec as) x) :
    ∃ as₁ a as₂, as = as₁ ++ a :: as₂ ∧ brings (p.exec as₁) a x := by
  induction as using List.reverseRecOn with
  | nil => exact absurd h (hbegin x)
  | append_singleton as a ih =>
    rw [exec_concat] at h
    rcases hstep _ _ _ h with h | h
    · obtain ⟨as₁, b, as₂, rfl, hb⟩ := ih h
      exact ⟨as₁, b, as₂ ++ [a], by simp, hb⟩
    · exact ⟨as, a, [], rfl, h⟩

end Provider

end OpenIdProvider
