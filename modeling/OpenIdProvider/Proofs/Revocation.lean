import OpenIdProvider.Proofs.Refresh

/-!
# Revocation

A revocation deletes every refresh grant of one user to one client in one tenant, and no
other (`Records.get?_deleteForGrant`). Nothing brings a deleted grant back: a token that was
drawn before stands for what it stood for, or for nothing (`Provider.grant_of_exec`), and a
grant that is put back after a failure was held when the request came.

So after a revocation every refresh token that was ever held for the user and the client is
refused for good, and all others stay as they are (`revocation_complete_and_exact`).
-/

namespace OpenIdProvider

open Op Provider

variable {p q : Provider} {as : List Action}

/-- A refresh token is refused, whoever presents it. -/
def Provider.Refuses (p : Provider) (token : String) : Prop :=
  ∀ tenantId client request, request.presentedGrant? = some token →
    ((grant tenantId client request).run p).1
      = .error (.refused (.invalidGrant "invalid refresh token"))

namespace Provider

/-- A refresh token that is not held is refused. -/
theorem refuses_of_absent {token : String}
    (h : p.store.refreshGrants.find? p.now token = none) : p.Refuses token := by
  intro tenantId client request hpresented
  rw [TokenRequest.presentedGrant?] at hpresented
  split at hpresented
  · rename_i htype
    have hnone : refreshable? p tenantId client token = none := by
      rw [refreshable?, h, Option.filter_none]
    have hrefresh : (grantForRefresh tenantId client request).run p
        = (.error (.refused (.invalidGrant "invalid refresh token")), p) := by
      rw [grantForRefresh, run_bind, run_orRefuse, hpresented]
      dsimp only
      rw [run_bind, run_provider]
      dsimp only
      rw [run_bind, run_orRefuse, hnone]
    rw [grant, run_bind, run_orRefuse, htype,
      show GrantType.ofName? "refresh_token" = some .refreshToken from rfl]
    dsimp only
    rw [run_bind, run_tryCatch, grantFor, hrefresh]
    rfl
  · cases hpresented

end Provider

/-- A revocation deletes the grants of the user and the client of the token. -/
theorem get?_of_revocation {tenantId token key : String} {client : Client} {g g' : RefreshGrant}
    (hheld : p.store.refreshGrants.find? p.now token = some g)
    (howner : g.tenantId = tenantId ∧ g.clientId = client.clientId) :
    (p.step (.revoke tenantId client token)).store.refreshGrants.get? key = some g' ↔
      p.store.refreshGrants.get? key = some g' ∧ ¬ g'.SameParties g := by
  rw [step, run_revoke, hheld]
  dsimp only
  rw [if_pos howner]
  dsimp only
  rw [Records.get?_deleteForGrant, RefreshGrant.SameParties, howner.1, howner.2]

/-- In every state of a run from an empty table of refresh grants, a revocation

* that presents a token which the client holds succeeds, deletes the refresh grants of the
  token's user to the client and no others, and makes every refresh token refused for good
  that was held for them at any time, as long as the handles that are drawn are different;
* that presents a token which is not held succeeds and changes nothing;
* that presents a token which another client or tenant holds fails and changes nothing but
  the log. -/
theorem revocation_complete_and_exact {tenantId token : String} {client : Client}
    (hgrants : p.store.refreshGrants = .empty) :
    (∀ g, (p.exec as).store.refreshGrants.find? (p.exec as).now token = some g →
      g.tenantId = tenantId → g.clientId = client.clientId →
        ((revoke tenantId client token).run (p.exec as)).1 = .ok () ∧
        (∀ key g', ((p.exec as).step (.revoke tenantId client token)).store.refreshGrants.get? key
            = some g' ↔
          (p.exec as).store.refreshGrants.get? key = some g' ∧ ¬ g'.SameParties g) ∧
        ∀ bs q, q = p.exec (as ++ .revoke tenantId client token :: bs) →
          p.DrawsDistinct q.drawn →
            ∀ as₁ as₂ key g', as = as₁ ++ as₂ →
              (p.exec as₁).store.refreshGrants.get? key = some g' → g'.SameParties g →
                q.Refuses key) ∧
    ((p.exec as).store.refreshGrants.find? (p.exec as).now token = none →
      (revoke tenantId client token).run (p.exec as) = (.ok (), p.exec as)) ∧
    ∀ g, (p.exec as).store.refreshGrants.find? (p.exec as).now token = some g →
      ¬ (g.tenantId = tenantId ∧ g.clientId = client.clientId) →
        ∃ event, (revoke tenantId client token).run (p.exec as)
          = (.error (.refused (.unauthorizedClient "token was not issued to this client")),
            { p.exec as with log := (p.exec as).log ++ [event] }) := by
  refine ⟨fun g hheld htenant hclient => ⟨?_, ?_, ?_⟩, fun habsent => ?_, fun g hheld hother => ?_⟩
  · rw [run_revoke, hheld]
    dsimp only
    rw [if_pos ⟨htenant, hclient⟩]
  · exact fun key g' => get?_of_revocation hheld ⟨htenant, hclient⟩
  · rintro bs q rfl hdistinct as₁ as₂ key g' rfl hbefore hparties
    have hdrew := drew_of_refreshGrants hgrants hbefore
    refine refuses_of_absent (Records.find?_of_get? (Option.eq_none_iff_forall_ne_some.mpr ?_) _)
    intro x hlast
    rw [exec_append, exec_cons] at hlast hdistinct
    -- Whatever the token stands for, it stood for after the revocation and at `as₁`.
    have hdrew' : p.Drew ((p.exec (as₁ ++ as₂)).step (.revoke tenantId client token)) key := by
      refine hdrew.mono rfl (Nat.le_refl _) (Nat.le_trans ?_ (sameBut_step _ _).drawn)
      rw [exec_append]
      exact drawn_le_exec _ _
    have hafter := grant_of_exec hdrew' ((sameBut_step _ _).random.trans (random_exec p _))
      hdistinct hlast
    obtain ⟨hkept, hother⟩ := (get?_of_revocation hheld ⟨htenant, hclient⟩).mp hafter
    rw [exec_append] at hkept hdistinct
    have hfirst := grant_of_exec hdrew (random_exec p as₁)
      (hdistinct.mono (Nat.le_trans (sameBut_step _ _).drawn (drawn_le_exec _ bs))) hkept
    obtain rfl := Option.some.inj (hbefore.symm.trans hfirst)
    exact hother hparties
  · rw [run_revoke, habsent]
  · rw [run_revoke, hheld]
    dsimp only
    rw [if_neg hother]
    exact ⟨_, rfl⟩

section

open RefreshSample

/-- The client revokes the refresh token that came with its first tokens, and cannot use it
any more. -/
theorem revoked_token_refused :
    provider.store.refreshGrants = .empty ∧
      ((revoke "T1" client token).run (provider.exec opening)).1 = .ok () ∧
      (provider.exec (opening ++ [.revoke "T1" client token])).Refuses token := by
  obtain ⟨g, hheld, htenant, hclient⟩ := holds_token
  have hempty : provider.store.refreshGrants = .empty := rfl
  obtain ⟨hok, -, hrefused⟩ := (revocation_complete_and_exact hempty).1 g hheld htenant hclient
  refine ⟨hempty, hok, hrefused [] _ rfl (drawsDistinct ?_) opening [] token g
    (List.append_nil _).symm (Records.find?_eq_some.mp hheld).1 ⟨rfl, rfl, rfl⟩⟩
  decide +kernel

end

end OpenIdProvider
