import OpenIdProvider.Time.Instant

/-!
# Order and arithmetic of instants

Instants are ordered by second, then by nanosecond (`lt_iff`, `le_iff`). The span to an instant
is no shorter from an earlier instant than from a later one (`since_le_since`), unless one of
them lies within a leap second; then it is shorter by less than two seconds
(`since_lt_since_add`).

A sum of an instant and whole seconds is known (`add?_seconds`), and it has a result if and only
if its second is in range (`bind_add?_eq_none_iff`). A span that is not negative is added to the
nanoseconds from the epoch (`nanos_of_add?`), and there is a result if and only if these are in
range (`add?_eq_none_iff`).
-/

namespace OpenIdProvider.Instant

variable {a b c : Instant}

theorem lt_iff : a < b ↔ a.second < b.second ∨ (a.second = b.second ∧ a.nano < b.nano) := by
  show a.before b = true ↔ _
  simp [before]

theorem le_iff : a ≤ b ↔ a.second < b.second ∨ (a.second = b.second ∧ a.nano ≤ b.nano) := by
  show b.before a = false ↔ _
  simp only [before, Bool.or_eq_false_iff, decide_eq_false_iff_not, Bool.and_eq_false_iff,
    beq_eq_false_iff_ne]
  omega

theorem le_refl (a : Instant) : a ≤ a := by
  rw [le_iff]
  omega

theorem le_trans (h : a ≤ b) (h' : b ≤ c) : a ≤ c := by
  rw [le_iff] at *
  omega

theorem lt_of_le_of_lt (h : a ≤ b) (h' : b < c) : a < c := by
  rw [le_iff] at h
  rw [lt_iff] at *
  omega

theorem lt_of_lt_of_le (h : a < b) (h' : b ≤ c) : a < c := by
  rw [le_iff] at h'
  rw [lt_iff] at *
  omega

theorem not_lt : ¬ a < b ↔ b ≤ a := by
  rw [lt_iff, le_iff]
  omega

theorem le_total (a b : Instant) : a ≤ b ∨ b ≤ a := by
  rw [le_iff, le_iff]
  omega

theorem second_le_of_le (h : a ≤ b) : a.second ≤ b.second := by
  rw [le_iff] at h
  omega

theorem before_iff : a.before b = true ↔ a < b := Iff.rfl

/-! ## Whole seconds -/

theorem ofParts?_eq_some {second : Int} {nano : Nat} (h : ofParts? second nano = some a) :
    a.second = second ∧ a.nano = nano := by
  rw [ofParts?] at h
  split at h
  · obtain rfl := Option.some.inj h
    exact ⟨rfl, rfl⟩
  · cases h

theorem ofParts?_eq_none_iff {second : Int} {nano : Nat} (hnano : nano < 1000000000) :
    ofParts? second nano = none ↔ second < -8334601228800 ∨ 8210266876799 < second := by
  rw [ofParts?, dite_eq_right_iff]
  simp only [reduceCtorEq, imp_false]
  omega

/-- An instant is before a whole second when its own second is. -/
theorem lt_ofSeconds?_iff {second : Int} (h : ofSeconds? second = some b) :
    a < b ↔ a.second < second := by
  obtain ⟨hs, hn⟩ := ofParts?_eq_some h
  rw [lt_iff, hs, hn]
  omega

/-- Whether an instant lies within a leap second. -/
def IsLeap (t : Instant) : Prop :=
  1000000000 ≤ t.nano

instance (t : Instant) : Decidable t.IsLeap := inferInstanceAs (Decidable (_ ≤ _))

/-- The second to which whole seconds lead. When seconds are taken from a time within a leap
second, it counts as a time of the next second. -/
def secondAfter (t : Instant) (seconds : Int) : Int :=
  if t.IsLeap ∧ seconds < 0 then t.second + 1 + seconds else t.second + seconds

/-- Whole seconds are added to the second, and the time within it stays. -/
theorem add?_seconds {seconds : Int} (h : ¬a.IsLeap ∨ seconds ≠ 0) :
    a.add? ⟨seconds * 1000000000⟩ = ofParts? (a.secondAfter seconds) (a.nano % 1000000000) := by
  have hdiv : (seconds * 1000000000).tdiv 1000000000 = seconds :=
    Int.mul_tdiv_cancel _ (by decide)
  have hmod : (seconds * 1000000000).tmod 1000000000 = 0 := Int.mul_tmod_left ..
  have hnano := a.nano_lt
  by_cases hleap : a.IsLeap
  · have hseconds : seconds ≠ 0 := h.resolve_left (absurd hleap)
    have hne : (seconds == 0) = false := beq_eq_false_iff_ne.mpr hseconds
    have hlong : ¬a.nano < 1000000000 := Nat.not_lt.mpr hleap
    by_cases hneg : seconds < 0
    · have hpos : ¬0 < seconds := Int.not_lt.mpr (Int.le_of_lt hneg)
      simp only [add?, hdiv, hmod, hne, Bool.and_false, Bool.false_and, Bool.false_eq_true,
        if_false, leaveLeap, if_neg hlong, hpos, decide_false, Int.lt_irrefl, Bool.or_false,
        secondAfter, if_pos (And.intro hleap hneg)]
      congr 1 <;> omega
    · have hpos : 0 < seconds := by omega
      simp only [add?, hdiv, hmod, hne, Bool.and_false, Bool.false_and, Bool.false_eq_true,
        if_false, leaveLeap, if_neg hlong, hpos, decide_true, Bool.true_or, if_true, secondAfter,
        if_neg (not_and_of_not_right a.IsLeap hneg)]
      congr 1 <;> omega
  · have hregular : a.nano < 1000000000 := Nat.lt_of_not_le hleap
    have hshort : decide (1000000000 ≤ a.nano) = false := decide_eq_false hleap
    simp only [add?, hdiv, hmod, hshort, Bool.false_and, Bool.false_eq_true, if_false, leaveLeap,
      if_pos hregular, secondAfter, if_neg (not_and_of_not_left (seconds < 0) hleap)]
    congr 1
    omega

/-- Nothing is added, even within a leap second. -/
theorem add?_zero (a : Instant) : a.add? ⟨0⟩ = some a := by
  have hnano := a.nano_lt
  by_cases hleap : a.IsLeap
  · simp only [add?, Int.zero_tdiv, Int.zero_tmod, show 1000000000 ≤ a.nano from hleap]
    exact ofParts?_parts a
  · have hsecond : a.secondAfter 0 = a.second := by simp [secondAfter]
    have hpart : a.nano % 1000000000 = a.nano := Nat.mod_eq_of_lt (Nat.lt_of_not_le hleap)
    have hadd : a.add? ⟨0 * 1000000000⟩ = ofParts? (a.secondAfter 0) (a.nano % 1000000000) :=
      add?_seconds (.inl hleap)
    rw [Int.zero_mul, hsecond, hpart] at hadd
    exact hadd.trans (ofParts?_parts a)

theorem eq_of_ofSeconds? {seconds : Int} {d : Span} (h : Span.ofSeconds? seconds = some d) :
    d = ⟨seconds * 1000000000⟩ := by
  rw [Span.ofSeconds?] at h
  split at h
  · exact (Option.some.inj h).symm
  · cases h

/-- Whether whole seconds lead out of the years in which instants lie. -/
def LeavesRange (t : Instant) (seconds : Int) : Prop :=
  t.secondAfter seconds < -8334601228800 ∨ 8210266876799 < t.secondAfter seconds

/-- A sum has no result exactly when it leaves the range of instants. A span that is too long
leaves it from every instant. -/
theorem bind_add?_eq_none_iff {seconds : Int} :
    (Span.ofSeconds? seconds).bind a.add? = none ↔ a.LeavesRange seconds := by
  rw [LeavesRange]
  have hfirst := a.first_le
  have hlast := a.le_last
  by_cases hspan : seconds.natAbs ≤ Span.maxMillis / 1000
  · rw [Span.ofSeconds?, if_pos hspan, Option.bind_some,
      show (⟨seconds * nanosPerSecond⟩ : Span) = ⟨seconds * 1000000000⟩ from rfl]
    by_cases hstays : a.IsLeap ∧ seconds = 0
    · obtain ⟨hleap, rfl⟩ := hstays
      rw [Int.zero_mul, add?_zero, secondAfter, if_neg fun h => Int.lt_irrefl 0 h.2]
      exact iff_of_false nofun (by omega)
    · rw [add?_seconds (Decidable.not_and_iff_not_or_not.mp hstays),
        ofParts?_eq_none_iff (Nat.mod_lt _ (by decide))]
  · rw [Span.ofSeconds?, if_neg hspan, Option.bind_none]
    have hlong : 9223372036854775 < seconds.natAbs := Nat.lt_of_not_le hspan
    refine iff_of_true rfl ?_
    rw [secondAfter]
    split <;> omega

/-- Whole seconds are added to the second; they lead from within a leap second to the time of
the next second. -/
theorem parts_of_add? {seconds : Int} (hseconds : a.nano < 1000000000 ∨ 0 < seconds) {d : Span}
    (hd : Span.ofSeconds? seconds = some d) (h : a.add? d = some b) :
    b.second = a.second + seconds ∧ b.nano = a.nano % 1000000000 := by
  have hforward : ¬(a.IsLeap ∧ seconds < 0) := by
    rw [IsLeap]
    omega
  rw [eq_of_ofSeconds? hd, add?_seconds (hseconds.imp Nat.not_le.mpr Int.ne_of_gt), secondAfter,
    if_neg hforward] at h
  exact ofParts?_eq_some h

/-- Whole seconds are added to the second, even from within a leap second. -/
theorem second_of_add? {seconds : Int} (hseconds : 0 ≤ seconds) {d : Span}
    (hd : Span.ofSeconds? seconds = some d) (h : a.add? d = some b) :
    b.second = a.second + seconds := by
  rcases Int.lt_or_eq_of_le hseconds with hpos | rfl
  · exact (parts_of_add? (.inr hpos) hd h).1
  · obtain rfl : d = ⟨0⟩ := (Option.some.inj hd).symm
    obtain rfl := Option.some.inj ((add?_zero a).symm.trans h)
    exact (Int.add_zero _).symm

/-- An instant is not before one to which a span that is not negative is added. -/
theorem le_of_add? {seconds : Int} (hseconds : 0 ≤ seconds) {d : Span}
    (hd : Span.ofSeconds? seconds = some d) (h : a.add? d = some b) : a ≤ b := by
  rcases Int.lt_or_eq_of_le hseconds with hpos | rfl
  · have hsecond := second_of_add? hseconds hd h
    rw [le_iff]
    omega
  · obtain rfl : d = ⟨0⟩ := (Option.some.inj hd).symm
    obtain rfl := Option.some.inj ((add?_zero a).symm.trans h)
    exact le_refl a

/-! ## Spans that are not negative -/

/-- The nanoseconds from the epoch; a time within a leap second counts as the one a second
before. -/
def nanos (t : Instant) : Int :=
  t.second * 1000000000 + (t.nano % 1000000000 : Nat)

theorem lt_iff_nanos_lt (ha : ¬a.IsLeap) (hb : ¬b.IsLeap) : a < b ↔ a.nanos < b.nanos := by
  rw [IsLeap] at ha hb
  rw [lt_iff, nanos, nanos, Nat.mod_eq_of_lt (by omega), Nat.mod_eq_of_lt (by omega)]
  omega

/-- A span that ends within a leap second moves the nanoseconds there, and any other span leads to
the second in which the nanoseconds from the epoch lie. -/
theorem add?_of_nonneg {d : Span} (hd : 0 ≤ d.nanos) :
    a.add? d = if a.IsLeap ∧ a.nano + d.nanos < 2000000000
      then ofParts? a.second (a.nano + d.nanos).toNat
      else ofParts? ((a.nanos + d.nanos) / 1000000000)
        ((a.nanos + d.nanos) % 1000000000).toNat := by
  have hnano := a.nano_lt
  simp only [add?, Int.tdiv_eq_ediv_of_nonneg hd, Int.tmod_eq_emod_of_nonneg hd, leaveLeap, nanos]
  by_cases hleap : a.IsLeap
  · have hlong : 1000000000 ≤ a.nano := hleap
    by_cases hends : a.nano + d.nanos < 2000000000
    · -- The span is shorter than a second and ends before the leap second does.
      have hzero : d.nanos / 1000000000 = 0 := by omega
      have hrest : d.nanos % 1000000000 = d.nanos := by omega
      have hstays : ¬2000000000 - d.nanos ≤ a.nano := by omega
      simp [hlong, hzero, hrest, hstays, hleap, hends]
    · have hforward : 0 < d.nanos / 1000000000 ∨ (0 < d.nanos % 1000000000 ∧
          2000000000 - d.nanos % 1000000000 ≤ (a.nano : Int)) := by omega
      have hleaves : ¬(d.nanos / 1000000000 = 0 ∧ (¬0 < d.nanos % 1000000000 ∨
          ¬2000000000 - d.nanos % 1000000000 ≤ (a.nano : Int))) := by omega
      simp only [hlong, Bool.and_eq_true, Bool.or_eq_true, Bool.not_eq_true', Bool.and_eq_false_iff,
        decide_eq_false_iff_not, decide_eq_true_eq, beq_iff_eq, decide_true, true_and, hends,
        and_false, if_false, if_neg (Nat.not_lt.mpr hlong), if_neg hleaves, if_pos hforward]
      congr 1 <;> omega
  · have hregular : a.nano < 1000000000 := Nat.lt_of_not_le hleap
    have hshort : decide (1000000000 ≤ a.nano) = false := decide_eq_false hleap
    simp only [hshort, Bool.false_and, Bool.false_eq_true, if_false, if_pos hregular,
      if_neg (not_and_of_not_left _ hleap)]
    congr 1 <;> omega

theorem nanos_of_add? {d : Span} (hd : 0 ≤ d.nanos) (h : a.add? d = some b) :
    b.nanos = a.nanos + d.nanos := by
  have hnano := a.nano_lt
  rw [add?_of_nonneg hd] at h
  split at h
  · rename_i hstays
    obtain ⟨hleap, hends⟩ := hstays
    have hlong : 1000000000 ≤ a.nano := hleap
    obtain ⟨hs, hn⟩ := ofParts?_eq_some h
    rw [nanos, nanos, hs, hn]
    omega
  · obtain ⟨hs, hn⟩ := ofParts?_eq_some h
    rw [nanos, hs, hn]
    omega

theorem not_isLeap_of_add? {d : Span} (hd : 0 ≤ d.nanos) (ha : ¬a.IsLeap)
    (h : a.add? d = some b) : ¬b.IsLeap := by
  rw [add?_of_nonneg hd, if_neg (not_and_of_not_left _ ha)] at h
  rw [IsLeap, (ofParts?_eq_some h).2]
  omega

/-- Whether a span leads past the years in which instants lie. -/
def Overruns (t : Instant) (d : Span) : Prop :=
  8210266876799 < (t.nanos + d.nanos) / 1000000000

instance (t : Instant) (d : Span) : Decidable (t.Overruns d) := inferInstanceAs (Decidable (_ < _))

theorem add?_eq_none_iff {d : Span} (hd : 0 ≤ d.nanos) : a.add? d = none ↔ a.Overruns d := by
  have hnano := a.nano_lt
  have hfirst := a.first_le
  have hlast := a.le_last
  rw [add?_of_nonneg hd, Overruns]
  split
  · rename_i hstays
    obtain ⟨hleap, hends⟩ := hstays
    have hlong : 1000000000 ≤ a.nano := hleap
    rw [ofParts?, dite_eq_right_iff, nanos]
    simp only [reduceCtorEq, imp_false]
    omega
  · rw [ofParts?_eq_none_iff (by omega), nanos]
    omega

/-! ## Spans between instants -/

theorem since_le_since (ha : ¬a.IsLeap) (hb : ¬b.IsLeap) (hc : ¬c.IsLeap) (hab : a ≤ b) :
    (c.since b).nanos ≤ (c.since a).nanos := by
  rw [IsLeap] at ha hb hc
  rw [le_iff] at hab
  have hsince : ∀ t : Instant, ¬1000000000 ≤ t.nano →
      (c.since t).nanos = (c.second - t.second) * 1000000000 + ((c.nano : Int) - t.nano) := by
    intro t ht
    simp [since, ht, hc]
  rw [hsince a ha, hsince b hb]
  omega

theorem since_lt_since_add (hab : a ≤ b) :
    (c.since b).nanos < (c.since a).nanos + 2000000000 := by
  have ha := a.nano_lt
  have hb := b.nano_lt
  have hc := c.nano_lt
  rw [le_iff] at hab
  simp only [since, Bool.and_eq_true, decide_eq_true_eq]
  split <;> split <;> (try split) <;> (try split) <;> omega

end OpenIdProvider.Instant
