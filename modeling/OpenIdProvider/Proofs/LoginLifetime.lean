import OpenIdProvider.Proofs.AuthorizationDecision
import OpenIdProvider.Proofs.LoginCompletion
import OpenIdProvider.Proofs.Reports

/-!
# Lifetimes that lead out of range

The expiry of a login and the one of a code are computed by `Op.later`, which does not refuse a
lifetime that leads out of range but aborts the operation (`Op.Aborts`). So a request that passes
every check is aborted, and so is a login that would be completed, exactly where the lifetime
leaves the range of instants (`Op.authorize_aborts_iff`, `Op.completeLogin_aborts_iff`). A request
that is aborted stores nothing; a login that is aborted is lost, since its handle is used up
before (`login_lost`). The issue of tokens refuses such lifetimes and never aborts
(`Op.not_aborts_issue`).
-/

namespace OpenIdProvider

open Op Provider

variable {α : Type} {p q : Provider} {tenantId : String} {r : AuthorizationRequest}
  {a : AcceptedRequest} {token userId : String} {seconds : Int}

namespace Op

/-! ## Aborted operations -/

/-- An operation is aborted: an expiry leads out of range, and there is no answer. -/
def Aborts (x : Op α) (p q : Provider) : Prop :=
  x.run p = (.error .outOfRange, q)

/-- Whether an operation stops by being refused alone. -/
def OnlyRefuses (x : Op α) : Prop :=
  Reports (fun _ => True) (fun _ => True) x

theorem OnlyRefuses.not_aborts {x : Op α} (h : x.OnlyRefuses) : ¬x.Aborts p q := by
  intro haborts
  obtain ⟨e, he, -⟩ := h.refused p _ (congrArg Prod.fst haborts)
  cases he

/-- An expiry that is out of range is all that aborts an operation that computes it first. -/
theorem aborts_later_bind {f : Instant → Op α} (hf : ∀ t, (f t).OnlyRefuses) :
    (later seconds >>= f).Aborts p q ↔ p.now.LeavesRange seconds ∧ q = p := by
  rw [Aborts, run_bind, run_later, ← Instant.bind_add?_eq_none_iff]
  cases hexpiry : (Span.ofSeconds? seconds).bind p.now.add? with
  | none => simp [eq_comm]
  | some t => exact iff_of_false (hf t).not_aborts fun h => nomatch h.1

/-! ## Logins -/

theorem beginLogin_aborts_iff : (beginLogin tenantId r a).Aborts p q ↔
    p.now.LeavesRange p.config.tokens.pendingLoginTtl ∧ q = { p with drawn := p.drawn + 1 } := by
  rw [Aborts, beginLogin, run_bind_of_ok (run_provider p), run_bind_of_ok (run_freshHandle p)]
  exact aborts_later_bind fun t => .bind (.ofExcept fun _ _ => trivial) fun _ =>
    .bind (.createRecord _ fun _ => trivial) fun _ => .bind (.emit trivial) fun _ => .pure _

theorem onlyRefuses_rejectRequest (e : AuthorizationError) :
    (rejectRequest tenantId r e).OnlyRefuses :=
  .bind (.emit trivial) fun _ => .bind .provider fun _ =>
    .bind (.ofExcept fun _ _ => trivial) fun _ => .pure _

/-- A request is aborted exactly when it passes every check and the expiry of the login is out of
range, and nothing is stored. -/
theorem authorize_aborts_iff : (authorize tenantId r).Aborts p q ↔
    (∀ e, ¬r.Fails p.store tenantId e) ∧ p.now.LeavesRange p.config.tokens.pendingLoginTtl ∧
      q = { p with drawn := p.drawn + 1 } := by
  rw [Aborts, authorize, run_bind_of_ok (run_provider p), ← AuthorizationRequest.check_isOk_iff]
  cases hcheck : r.check p.store tenantId with
  | error e =>
    refine iff_of_false (onlyRefuses_rejectRequest e).not_aborts ?_
    rintro ⟨⟨a, ha⟩, -⟩
    cases ha
  | ok a => exact beginLogin_aborts_iff.trans (and_iff_right ⟨a, rfl⟩).symm

/-- A login is aborted exactly when it would be completed but for the expiry of the code, and its
handle is used up. -/
theorem completeLogin_aborts_iff : (completeLogin token userId).Aborts p q ↔
    (∃ pending, p.store.pendingLogins.find? p.now token = some pending ∧
      (p.store.enabledUser? pending.tenantId userId).isSome) ∧
    p.now.LeavesRange p.config.tokens.authorizationCodeTtl ∧
    q = { p with
      store := { p.store with pendingLogins := p.store.pendingLogins.erase token }
      drawn := p.drawn + 1 } := by
  rw [Aborts, completeLogin, run_bind_of_ok (run_takeLogin token p)]
  cases hheld : p.store.pendingLogins.find? p.now token with
  | none =>
    refine iff_of_false (OnlyRefuses.not_aborts (.refuse trivial)) ?_
    rintro ⟨⟨_, habsent, -⟩, -⟩
    cases habsent
  | some pending =>
    dsimp only
    rw [run_bind_of_ok (run_provider _), run_guard]
    split
    · rename_i hisNone
      have hnone : p.store.enabledUser? pending.tenantId userId = none :=
        Option.isNone_iff_eq_none.mp hisNone
      refine iff_of_false (OnlyRefuses.not_aborts (.refuse trivial)) ?_
      rintro ⟨⟨_, hpending, huser⟩, -⟩
      obtain rfl := Option.some.inj hpending
      rw [hnone] at huser
      cases huser
    · rename_i hsome
      have huser : (p.store.enabledUser? pending.tenantId userId).isSome :=
        Option.isSome_iff_ne_none.mpr (mt Option.isNone_iff_eq_none.mpr hsome)
      rw [run_bind_of_ok (run_freshHandle _)]
      refine Iff.trans (aborts_later_bind fun t => ?_) (and_iff_right ⟨pending, rfl, huser⟩).symm
      exact .bind (.ofExcept fun _ _ => trivial) fun _ =>
        .bind (.createRecord _ fun _ => trivial) fun _ => .bind (.emit trivial) fun _ => .pure _

/-! ## Tokens -/

/-- The issue of tokens is never aborted. -/
theorem not_aborts_issue (call : IssueCall) : ¬call.op.Aborts p q := by
  intro haborts
  rcases ends_issue call p with ⟨e, q', hrun, -⟩ | ⟨response, q', hrun, -⟩
  · cases haborts.symm.trans hrun
  · cases haborts.symm.trans hrun

end Op

/-- **Lifetimes that lead out of range.** At every instant and with every setting:

* a request is aborted if and only if it passes every check and the lifetime of the login leaves
  the range of instants; then nothing is stored;
* a login is aborted if and only if its handle is good, its user may log in, and the lifetime of
  the code leaves the range of instants; then the handle is used up, and no code is stored;
* an issue of tokens is not aborted, whatever the lifetimes. -/
theorem lifetimes_abort_logins (p : Provider) (tenantId : String) (r : AuthorizationRequest)
    (token userId : String) (call : IssueCall) (q : Provider) :
    ((authorize tenantId r).Aborts p q ↔
      (∀ e, ¬r.Fails p.store tenantId e) ∧ p.now.LeavesRange p.config.tokens.pendingLoginTtl ∧
        q = { p with drawn := p.drawn + 1 }) ∧
    ((completeLogin token userId).Aborts p q ↔
      (∃ pending, p.store.pendingLogins.find? p.now token = some pending ∧
        (p.store.enabledUser? pending.tenantId userId).isSome) ∧
      p.now.LeavesRange p.config.tokens.authorizationCodeTtl ∧
      q = { p with
        store := { p.store with pendingLogins := p.store.pendingLogins.erase token }
        drawn := p.drawn + 1 }) ∧
    ¬call.op.Aborts p q :=
  ⟨authorize_aborts_iff, completeLogin_aborts_iff, not_aborts_issue call⟩

/-! ## A login that is lost -/

namespace LifetimeSample

open CompletionSample (pending)

/-- A provider where codes live for as many seconds as can be set, with a login that has begun. -/
def provider : Provider :=
  { CompletionSample.provider "app:/cb" with
    config := { Config.standard with
      tokens := { Config.standard.tokens with authorizationCodeTtl := 2 ^ 63 - 1 } }
    store := { (CompletionSample.provider "app:/cb").store with
      pendingLogins := Table.empty.put (pending "app:/cb") } }

theorem held : provider.store.pendingLogins.find? provider.now (pending "app:/cb").token
    = some (pending "app:/cb") := by
  decide +kernel

theorem leavesRange : provider.now.LeavesRange provider.config.tokens.authorizationCodeTtl :=
  .inr (by decide)

end LifetimeSample

open LifetimeSample CompletionSample in
/-- The login of an enabled user is aborted, and its handle is used up. -/
theorem login_lost :
    LifetimeSample.provider.store.pendingLogins.find? LifetimeSample.provider.now
        (pending "app:/cb").token = some (pending "app:/cb") ∧
      (LifetimeSample.provider.store.enabledUser? "T1" "U1").isSome ∧
      ∃ q, (completeLogin (pending "app:/cb").token "U1").Aborts LifetimeSample.provider q ∧
        q.store.pendingLogins.get? (pending "app:/cb").token = none ∧ q.store.codes = .empty := by
  refine ⟨held, rfl, _,
    completeLogin_aborts_iff.mpr ⟨⟨_, held, rfl⟩, LifetimeSample.leavesRange, rfl⟩, ?_, rfl⟩
  exact (Table.get?_erase _ _ _).trans (if_pos rfl)

end OpenIdProvider
