import OpenIdProvider.Proofs.Refresh

/-!
# Chains of refresh grants

The refresh grants that descend from a code are those that come with the tokens for the
code, and with the tokens for a refresh grant that descends from it (`Provider.chain`). A
step either leaves a chain alone, or redeems its last grant and adds at most one
(`Chain.Sound.concat`), so

* at most one grant of a chain is held at any time, and they count 0, 1, 2, …, one more each
  time that one is redeemed;
* no more of them are redeemed than the client could refresh at some time in the run.

Both are parts of `refresh_chain_bounded`.
-/

namespace OpenIdProvider

open Op Provider

variable {p : Provider} {a : Action} {as : List Action} {code : String}

/-! ## The chain of a code -/

/-- The refresh grants that descend from a code, in the order in which they were stored, and
how often one of them was redeemed. -/
structure Chain where
  grants : List RefreshGrant
  renewals : Nat

namespace Chain

/-- The tokens of the grants. -/
def tokens (k : Chain) : List String :=
  k.grants.map RefreshGrant.refreshToken

/-- The chain of a code after an action. If that is answered for the code or for a grant of
the chain, the refresh grant that comes with the answer is added. -/
def step (code : String) (p : Provider) (k : Chain) (a : Action) : Chain :=
  if (a.answer? p).isNone then k
  else if a.presentedCode? = some code then
    { k with grants := k.grants ++ (a.handedOut? p).toList }
  else if a.presentedGrant?.any (k.tokens.contains ·) then
    ⟨k.grants ++ (a.handedOut? p).toList, k.renewals + 1⟩
  else k

/-- The chain of a code after a run. -/
def follow (code : String) (k : Chain) : Provider → List Action → Chain
  | _, [] => k
  | p, a :: as => follow code (k.step code p a) (p.step a) as

theorem follow_concat (k : Chain) (p : Provider) (as : List Action) (a : Action) :
    k.follow code p (as ++ [a]) = (k.follow code p as).step code (p.exec as) a := by
  induction as generalizing k p with
  | nil => rfl
  | cons b as ih => exact ih _ _

end Chain

/-- The chain of a code in a run. -/
def Provider.chain (p : Provider) (code : String) (as : List Action) : Chain :=
  Chain.follow code ⟨[], 0⟩ p as

theorem Provider.chain_concat (p : Provider) (code : String) (as : List Action) (a : Action) :
    p.chain code (as ++ [a]) = (p.chain code as).step code (p.exec as) a :=
  Chain.follow_concat ..

namespace Chain

variable {k : Chain}

theorem mem_handedOut {g : RefreshGrant} :
    g ∈ k.grants ++ (a.handedOut? p).toList ↔ g ∈ k.grants ∨ a.handedOut? p = some g := by
  rw [List.mem_append, Option.mem_toList]

/-- Tokens for the code begin the chain. -/
theorem step_of_redeemsCode {c : AuthorizationCode} {r : TokenResponse}
    (h : RedeemsCode p a c r) :
    k.step c.code p a = { k with grants := k.grants ++ (a.handedOut? p).toList } := by
  rw [step, h.answered, h.presented.1, if_neg (by simp), if_pos rfl]

/-- Tokens for a grant of the chain continue it. -/
theorem step_of_redeemsGrant {g : RefreshGrant} {r : TokenResponse} (h : RedeemsGrant p a g r)
    (htoken : g.refreshToken ∈ k.tokens) (code : String) :
    k.step code p a = ⟨k.grants ++ (a.handedOut? p).toList, k.renewals + 1⟩ := by
  rw [step, h.answered, h.presented.1, h.presented.2, if_neg (by simp), if_neg (by nofun),
    if_pos (by simpa using htoken)]

/-- What an action does to a chain: nothing, or it redeems the code or a grant. -/
theorem step_cases (code : String) (p : Provider) (k : Chain) (a : Action) :
    k.step code p a = k ∨
    (∃ c r, RedeemsCode p a c r ∧ c.code = code ∧
      k.step code p a = { k with grants := k.grants ++ (a.handedOut? p).toList }) ∨
    ∃ g r, RedeemsGrant p a g r ∧ g.refreshToken ∈ k.tokens ∧
      k.step code p a = ⟨k.grants ++ (a.handedOut? p).toList, k.renewals + 1⟩ := by
  cases hanswer : a.answer? p with
  | none => exact .inl (by rw [step, hanswer]; rfl)
  | some r =>
    rcases redeems_of_answer hanswer with ⟨c, hc⟩ | ⟨g, hg⟩ | ⟨hcode, hgrant, -⟩
    · by_cases hcode : c.code = code
      · exact .inr (.inl ⟨c, r, hc, hcode, hcode ▸ step_of_redeemsCode hc⟩)
      · refine .inl ?_
        rw [step, hanswer, hc.presented.1, hc.presented.2, if_neg (by simp),
          if_neg fun h => hcode (Option.some.inj h)]
        rfl
    · by_cases htoken : g.refreshToken ∈ k.tokens
      · exact .inr (.inr ⟨g, r, hg, htoken, step_of_redeemsGrant hg htoken code⟩)
      · refine .inl ?_
        rw [step, hanswer, hg.presented.1, hg.presented.2, if_neg (by simp), if_neg (by nofun),
          if_neg (by simpa using htoken)]
    · exact .inl (by rw [step, hanswer, hcode, hgrant]; rfl)

/-- A chain loses no grants. -/
theorem grants_subset_step (code : String) (p : Provider) (k : Chain) (a : Action) :
    k.grants ⊆ (k.step code p a).grants := by
  rcases k.step_cases code p a with hstep | ⟨c, r, -, -, hstep⟩ | ⟨g, r, -, -, hstep⟩ <;>
    rw [hstep]
  · exact List.Subset.refl _
  · exact List.subset_append_left _ _
  · exact List.subset_append_left _ _

end Chain

/-! ## What is true of a chain -/

/-- What is true of the chain of a code after a run. -/
structure Chain.Sound (p : Provider) (code : String) (as : List Action) (k : Chain) : Prop where
  spent : k.grants ≠ [] → p.Drew (p.exec as) code ∧ ¬ (p.exec as).HoldsCode code
  counts : k.grants.map RefreshGrant.refreshCount = List.range k.grants.length
  length : k.renewals ≤ k.grants.length ∧ k.grants.length ≤ k.renewals + 1
  drew : ∀ g ∈ k.grants, p.Drew (p.exec as) g.refreshToken
  held : ∀ g ∈ k.grants, ∀ g', (p.exec as).store.refreshGrants.get? g.refreshToken = some g' →
    g' = g ∧ g.refreshCount = k.renewals
  limit : ∀ g ∈ k.grants, ∃ before after client, as = before ++ after ∧
    (p.exec before).store.client? g.clientId = some client ∧
    g.refreshCount < client.maxRefreshTokenCount
  parties : ∀ g ∈ k.grants, ∀ g' ∈ k.grants, g.SameParties g'

namespace Chain.Sound

variable {k : Chain}

theorem nil (p : Provider) (code : String) : Sound p code [] ⟨[], 0⟩ where
  spent h := absurd rfl h
  counts := rfl
  length := ⟨Nat.le_refl _, Nat.zero_le _⟩
  drew _ h := absurd h List.not_mem_nil
  held _ h := absurd h List.not_mem_nil
  limit _ h := absurd h List.not_mem_nil
  parties _ h := absurd h List.not_mem_nil

/-- Different grants of a chain have different counts. -/
theorem eq_of_count (h : Sound p code as k) {g g' : RefreshGrant} (hg : g ∈ k.grants)
    (hg' : g' ∈ k.grants) (hcount : g.refreshCount = g'.refreshCount) : g = g' :=
  List.inj_on_of_nodup_map (h.counts ▸ List.nodup_range) hg hg' hcount

theorem count_lt (h : Sound p code as k) {g : RefreshGrant} (hg : g ∈ k.grants) :
    g.refreshCount < k.grants.length := by
  rw [← List.mem_range, ← h.counts]
  exact List.mem_map_of_mem hg

/-- A code that is redeemed has no chain yet. -/
theorem grants_eq_nil (h : Sound p code as k) {c : AuthorizationCode} {r : TokenResponse}
    (hc : RedeemsCode (p.exec as) a c r) (hcode : c.code = code) : k.grants = [] := by
  by_contra hne
  exact (h.spent hne).2 ⟨c, hcode ▸ hc.held⟩

/-- A grant of a chain that is redeemed is its last one. -/
theorem last_of_redeemsGrant (h : Sound p code as k) {g : RefreshGrant} {r : TokenResponse}
    (hg : RedeemsGrant (p.exec as) a g r) (htoken : g.refreshToken ∈ k.tokens) :
    g ∈ k.grants ∧ g.refreshCount = k.renewals ∧ k.grants.length = k.renewals + 1 := by
  obtain ⟨g', hg', htoken⟩ := List.mem_map.mp htoken
  have hheld := hg.get?_eq
  rw [← htoken] at hheld
  obtain ⟨rfl, hcount⟩ := h.held g' hg' g hheld
  have hlt := h.count_lt hg'
  have hlength := h.length.2
  exact ⟨hg', hcount, by omega⟩

/-- What is true of a chain stays true, as long as nothing is added to it. -/
theorem step (h : Sound p code as k) (hdistinct : p.DrawsDistinct (p.exec (as ++ [a])).drawn) :
    Sound p code (as ++ [a]) k := by
  have hle := (sameBut_step (p.exec as) a).drawn
  rw [← exec_concat] at hle
  refine ⟨fun hne => ?_, h.counts, h.length, fun g hg => ?_, fun g hg g' hheld => ?_,
    fun g hg => ?_, h.parties⟩
  · obtain ⟨hdrew, hgone⟩ := h.spent hne
    refine ⟨hdrew.mono rfl (Nat.le_refl _) hle, fun hholds => ?_⟩
    rw [exec_concat] at hholds hdistinct
    rcases holdsCode_step hholds with hholds | ⟨heq, hdrawn⟩
    · exact hgone hholds
    · exact hdrew.not_drew (random_exec p as) hdistinct
        ⟨_, Nat.le_refl _, hdrawn ▸ Nat.lt_succ_self _, heq⟩
  · exact (h.drew g hg).mono rfl (Nat.le_refl _) hle
  · rw [exec_append] at hdistinct hheld
    exact h.held g hg g' (grant_of_exec (h.drew g hg) (random_exec p as) hdistinct hheld)
  · obtain ⟨before, after, client, rfl, hlimit⟩ := h.limit g hg
    exact ⟨before, after ++ [a], client, List.append_assoc .., hlimit⟩

/-- A grant may be added to a chain of which none is held. -/
theorem extend {new : Option RefreshGrant} (h : Sound p code as k)
    (hspent : p.Drew (p.exec as) code ∧ ¬ (p.exec as).HoldsCode code)
    (hgone : ∀ g ∈ k.grants, (p.exec as).store.refreshGrants.get? g.refreshToken = none)
    (hnew : ∀ g, new = some g → g.refreshCount = k.grants.length ∧
      p.Drew (p.exec as) g.refreshToken ∧
      (p.exec as).store.refreshGrants.get? g.refreshToken = some g ∧
      (∃ before after client, as = before ++ after ∧
        (p.exec before).store.client? g.clientId = some client ∧
        g.refreshCount < client.maxRefreshTokenCount) ∧
      ∀ g' ∈ k.grants, g.SameParties g') :
    Sound p code as ⟨k.grants ++ new.toList, k.grants.length⟩ := by
  cases new with
  | none =>
    rw [Option.toList_none, List.append_nil]
    exact { h with
      spent := fun _ => hspent
      length := ⟨Nat.le_refl _, Nat.le_succ _⟩
      held := fun g hg g' hheld => by
        rw [hgone g hg] at hheld
        cases hheld }
  | some g =>
    obtain ⟨hcount, hdrew, hheld, hlimit, hparties⟩ := hnew g rfl
    rw [Option.toList_some]
    have hmem : ∀ x ∈ k.grants ++ [g], x ∈ k.grants ∨ x = g := fun x hx =>
      (List.mem_append.mp hx).imp_right List.mem_singleton.mp
    refine ⟨fun _ => hspent, ?_, ?_, fun x hx => ?_, fun x hx x' hx' => ?_, fun x hx => ?_,
      fun x hx x' hx' => ?_⟩
    · rw [List.map_append, h.counts, List.length_append, List.length_singleton, List.range_succ,
        List.map_singleton, hcount]
    · rw [List.length_append, List.length_singleton]
      exact ⟨Nat.le_succ _, Nat.le_refl _⟩
    · rcases hmem x hx with hx | rfl
      · exact h.drew x hx
      · exact hdrew
    · rcases hmem x hx with hx | rfl
      · rw [hgone x hx] at hx'
        cases hx'
      · exact ⟨Option.some.inj (hx'.symm.trans hheld), hcount⟩
    · rcases hmem x hx with hx | rfl
      · exact h.limit x hx
      · exact hlimit
    · rcases hmem x hx with hold | rfl <;> rcases hmem x' hx' with hold' | rfl
      · exact h.parties x hold x' hold'
      · exact (hparties x hold).symm
      · exact hparties x' hold'
      · exact .refl _

end Chain.Sound

/-- The refresh grant that comes with an answer at the end of a run. -/
theorem handedOut?_exec {kept : Records RefreshGrant} {tenantId clientId userId scope : String}
    {refreshCount : Nat} {r : TokenResponse} (hanswer : a.answer? (p.exec as) = some r)
    (h : (p.exec as).IssuesTokens ((p.exec as).step a) kept tenantId clientId userId scope
      refreshCount r) {g : RefreshGrant} (hg : a.handedOut? (p.exec as) = some g) :
    p.Drew (p.exec (as ++ [a])) g.refreshToken ∧
      (p.exec (as ++ [a])).store.refreshGrants.get? g.refreshToken = some g ∧
      ∃ before after client, as ++ [a] = before ++ after ∧
        (p.exec before).store.client? g.clientId = some client ∧
        g.refreshCount < client.maxRefreshTokenCount := by
  obtain ⟨hbrings, -⟩ := handedOut?_of_issues hanswer h hg
  obtain ⟨client, hclient, hlimit⟩ := hbrings.limit
  refine ⟨hbrings.drew.of_step, ?_, as, [a], client, rfl, hclient, hlimit⟩
  rw [exec_concat]
  exact hbrings.get?_eq

/-- What is true of a chain is true of it after every run. -/
theorem sound_chain (hcodes : p.store.codes = .empty)
    (hdistinct : p.DrawsDistinct (p.exec as).drawn) (code : String) :
    Chain.Sound p code as (p.chain code as) := by
  induction as using List.reverseRecOn with
  | nil => exact .nil p code
  | append_singleton as a ih =>
    have hle := (sameBut_step (p.exec as) a).drawn
    rw [← exec_concat] at hle
    have hk := ih (hdistinct.mono hle)
    have hnext := hk.step hdistinct
    rw [chain_concat]
    generalize p.chain code as = k at hk hnext ⊢
    rcases k.step_cases code (p.exec as) a with
      hsame | ⟨c, r, hc, rfl, hstep⟩ | ⟨g, r, hg, htoken, hstep⟩
    · rw [hsame]
      exact hnext
    · have hnil := hk.grants_eq_nil hc rfl
      have hzero : k.renewals = k.grants.length := by
        have hlength := hk.length.1
        rw [hnil] at hlength ⊢
        exact Nat.le_zero.mp hlength
      have hdrew := drew_of_codes hcodes hc.held
      rw [hstep, hzero]
      refine hnext.extend ⟨hdrew.mono rfl (Nat.le_refl _) hle, ?_⟩ ?_ ?_
      · rintro ⟨x, hx⟩
        rw [exec_concat, codes_of_presentedCode hc.presented.1, Table.get?_erase, if_pos rfl] at hx
        cases hx
      · rw [hnil]
        exact fun g hg => absurd hg List.not_mem_nil
      · intro g hg
        obtain ⟨hdrew, hget, hlimit⟩ := handedOut?_exec hc.answered hc.issues hg
        obtain ⟨-, -, -, -, -, hcount⟩ := handedOut?_of_issues hc.answered hc.issues hg
        rw [hnil]
        exact ⟨hcount, hdrew, hget, hlimit, fun g' hg' => absurd hg' List.not_mem_nil⟩
    · obtain ⟨hmem, hcount, hlength⟩ := hk.last_of_redeemsGrant hg htoken
      obtain ⟨_, _, _, -, -, -, hissues⟩ := hg.redeems
      rw [hstep, ← hlength]
      refine hnext.extend (hnext.spent (List.ne_nil_of_mem hmem)) ?_ ?_
      · -- Only the last grant of the chain can have been held, and that was redeemed.
        refine fun x hx => Option.eq_none_iff_forall_ne_some.mpr fun y hy => ?_
        have hlast := (hnext.held x hx y hy).2
        obtain rfl := hk.eq_of_count hx hmem (hlast.trans hcount.symm)
        rw [exec_concat] at hy hdistinct
        rw [get?_of_redeemsGrant hg (hk.drew x hx) (random_exec p as) hdistinct] at hy
        cases hy
      · intro new hnew
        obtain ⟨hdrew, hget, hlimit⟩ := handedOut?_exec hg.answered hissues hnew
        obtain ⟨-, htenant, hclient, huser, -, hcount'⟩ :=
          handedOut?_of_issues hg.answered hissues hnew
        refine ⟨by rw [hcount', hcount, hlength], hdrew, hget, hlimit, fun x hx => ?_⟩
        exact RefreshGrant.SameParties.trans ⟨huser, htenant, hclient⟩ (hk.parties g hmem x hx)

/-! ## Bounds -/

/-- No client of an identifier may refresh more often than `bound` times, at any time in a
run. -/
def Provider.LimitedTo (p : Provider) (as : List Action) (clientId : String) (bound : Nat) :
    Prop :=
  ∀ before after client, as = before ++ after →
    (p.exec before).store.client? clientId = some client → client.maxRefreshTokenCount ≤ bound

/-- What bounds the chain `k` of a code after a run. -/
structure Chain.Bounded (p : Provider) (as : List Action) (k : Chain) : Prop where
  /-- The grants count 0, 1, 2, …, and there is at most one for each time that one was
  redeemed, besides the first. -/
  counts : k.grants.map RefreshGrant.refreshCount = List.range k.grants.length
  renewals : k.renewals ≤ k.grants.length ∧ k.grants.length ≤ k.renewals + 1
  /-- What is stored under a token of the chain is the grant that came with it, and counts how
  often one was redeemed. -/
  stored : ∀ g ∈ (p.exec as).store.refreshGrants.rows, g.refreshToken ∈ k.tokens →
    g ∈ k.grants ∧ g.refreshCount = k.renewals
  single : ∀ g ∈ (p.exec as).store.refreshGrants.rows, g.refreshToken ∈ k.tokens →
    ∀ g' ∈ (p.exec as).store.refreshGrants.rows, g'.refreshToken ∈ k.tokens → g = g'
  /-- No more grants were redeemed than the client could refresh at some time. -/
  limit : ∀ g ∈ k.grants, ∀ bound, p.LimitedTo as g.clientId bound → k.renewals ≤ bound

theorem Chain.Sound.bounded {k : Chain} (h : Sound p code as k) : k.Bounded p as := by
  have hstored : ∀ g ∈ (p.exec as).store.refreshGrants.rows, g.refreshToken ∈ k.tokens →
      g ∈ k.grants ∧ g.refreshCount = k.renewals := by
    intro g hrow htoken
    obtain ⟨g', hg', htoken⟩ := List.mem_map.mp htoken
    have hget := Table.get?_eq_some_iff.mpr ⟨hrow, htoken.symm⟩
    obtain ⟨rfl, hcount⟩ := h.held g' hg' g hget
    exact ⟨hg', hcount⟩
  refine ⟨h.counts, h.length, hstored, fun g hrow htoken g' hrow' htoken' => ?_,
    fun g hg bound hbound => ?_⟩
  · obtain ⟨hg, hcount⟩ := hstored g hrow htoken
    obtain ⟨hg', hcount'⟩ := hstored g' hrow' htoken'
    exact h.eq_of_count hg hg' (hcount.trans hcount'.symm)
  · -- The grant that was redeemed last was below the limit when it was stored.
    rcases Nat.eq_zero_or_pos k.renewals with hzero | hpos
    · rw [hzero]
      exact Nat.zero_le _
    · have hmem : k.renewals - 1 ∈ k.grants.map RefreshGrant.refreshCount := by
        rw [h.counts, List.mem_range]
        have hlength := h.length.1
        omega
      obtain ⟨last, hlast, hcount⟩ := List.mem_map.mp hmem
      obtain ⟨before, after, client, has, hclient, hlimit⟩ := h.limit last hlast
      rw [← (h.parties g hg last hlast).2.2] at hclient
      have hle := hbound before after client has hclient
      omega

/-- A refresh token is answered when its grant is redeemed. -/
theorem redeemed_of_answer {token : String} {r : TokenResponse} (h : a.answer? p = some r)
    (htoken : a.presentedGrant? = some token) :
    ∃ g, RedeemsGrant p a g r ∧ g.refreshToken = token := by
  rcases redeems_of_answer h with ⟨c, hc⟩ | ⟨g, hg⟩ | ⟨-, hnone, -⟩
  · rw [hc.presented.2] at htoken
    cases htoken
  · exact ⟨g, hg, Option.some.inj (hg.presented.1.symm.trans htoken)⟩
  · rw [hnone] at htoken
    cases htoken

/-- In every run from empty tables in which the handles that are drawn are all different:

* the refresh grants that descend from a code are bounded (`Chain.Bounded`);
* a refresh token is redeemed at most once, and only before it expires;
* the count of a refresh grant that is renewed does not overflow, as long as the limit of the
  client does not. -/
theorem refresh_chain_bounded (hcodes : p.store.codes = .empty)
    (hgrants : p.store.refreshGrants = .empty) (hdistinct : p.DrawsDistinct (p.exec as).drawn) :
    (∀ code, (p.chain code as).Bounded p as) ∧
    (∀ before a after token r, as = before ++ a :: after → a.presentedGrant? = some token →
      a.answer? (p.exec before) = some r →
        (∃ g, (p.exec before).store.refreshGrants.get? token = some g ∧
          (p.exec before).now < g.expiresAt) ∧
        ∀ middle b rest, after = middle ++ b :: rest → b.presentedGrant? = some token →
          b.answer? (p.exec (before ++ a :: middle)) = none) ∧
    ∀ before tenantId client request after g,
      as = before ++ .grant tenantId client request :: after →
      request.refreshToken.bind (refreshable? (p.exec before) tenantId client) = some g →
        client.maxRefreshTokenCount < UInt32.size → g.refreshCount + 1 < UInt32.size := by
  refine ⟨fun code => (sound_chain hcodes hdistinct code).bounded, ?_, ?_⟩
  · rintro before a after token r rfl htoken hanswer
    obtain ⟨g, hg, rfl⟩ := redeemed_of_answer hanswer htoken
    obtain ⟨hheld, hlater⟩ := Records.find?_eq_some.mp hg.held
    refine ⟨⟨g, hheld, hlater⟩, ?_⟩
    rintro middle b rest rfl htoken'
    refine Option.eq_none_iff_forall_ne_some.mpr fun r' hanswer' => ?_
    obtain ⟨g', hg', htoken'⟩ := redeemed_of_answer hanswer' htoken'
    have hagain := hg'.get?_eq
    rw [htoken', exec_append, exec_cons] at hagain
    rw [exec_append, exec_cons, exec_append] at hdistinct
    have hmiddle := hdistinct.mono (drawn_le_exec _ _)
    have hdrew := drew_of_refreshGrants hgrants hheld
    -- The token is gone once it is redeemed, and a run does not bring it back.
    have hgone := get?_of_redeemsGrant hg hdrew (random_exec p before)
      (hmiddle.mono (drawn_le_exec _ middle))
    have hback := grant_of_exec
      (hdrew.mono rfl (Nat.le_refl _) (sameBut_step (p.exec before) a).drawn)
      ((sameBut_step _ a).random.trans (random_exec p before)) hmiddle hagain
    rw [hgone] at hback
    cases hback
  · rintro before tenantId client request after g - hg hlimit
    obtain ⟨token, -, hg⟩ := Option.bind_eq_some_iff.mp hg
    obtain ⟨-, -, -, hcount⟩ := refreshable?_eq_some.mp hg
    omega

section

open RefreshSample

/-- The client gets tokens for the code, and refreshes them once. -/
theorem chain_of_one_renewal :
    provider.store.codes = .empty ∧ provider.store.refreshGrants = .empty ∧
      provider.DrawsDistinct (provider.exec (opening ++ [refresh])).drawn ∧
      (provider.chain RefreshSample.code (opening ++ [refresh])).renewals = 1 ∧
      (provider.chain RefreshSample.code (opening ++ [refresh])).grants.map
        RefreshGrant.refreshCount = [0, 1] := by
  have hcodes : provider.store.codes = .empty := rfl
  have hgrants : provider.store.refreshGrants = .empty := rfl
  have hdistinct : provider.DrawsDistinct (provider.exec (opening ++ [refresh])).drawn :=
    drawsDistinct (by decide +kernel)
  have hrenewals : (provider.chain RefreshSample.code (opening ++ [refresh])).renewals = 1 := by
    decide +kernel
  have hlength : (provider.chain RefreshSample.code (opening ++ [refresh])).grants.length = 2 := by
    decide +kernel
  have hcounts := ((refresh_chain_bounded hcodes hgrants hdistinct).1 RefreshSample.code).counts
  rw [hlength] at hcounts
  exact ⟨hcodes, hgrants, hdistinct, hrenewals, hcounts⟩

end

end OpenIdProvider
