import OpenIdProvider.Text.Utf8

/-!
# Comparison of secrets

A comparison of byte strings of equal length that looks at all bytes, whether or
not the first ones differ. `equal_iff`: it is equality.
-/

namespace OpenIdProvider.Secret

/-- The bits in which two byte strings differ, anywhere. -/
def difference (a b : Bytes) : UInt8 :=
  (List.zipWith (· ^^^ ·) a b).foldl (· ||| ·) 0

/-- Whether two byte strings are equal. -/
def equal (a b : Bytes) : Bool :=
  a.length == b.length && difference a b == 0

theorem foldl_or_eq_zero (xs : Bytes) (acc : UInt8) :
    xs.foldl (· ||| ·) acc = 0 ↔ acc = 0 ∧ ∀ x ∈ xs, x = 0 := by
  induction xs generalizing acc with
  | nil => simp
  | cons x xs ih =>
    rw [List.foldl_cons, ih, UInt8.or_eq_zero_iff, and_assoc]
    simp

theorem equal_iff (a b : Bytes) : equal a b = true ↔ a = b := by
  rw [equal, Bool.and_eq_true, beq_iff_eq, beq_iff_eq, difference, foldl_or_eq_zero]
  constructor
  · rintro ⟨hl, -, h⟩
    induction a generalizing b with
    | nil => exact (List.length_eq_zero_iff.mp hl.symm).symm
    | cons x a ih =>
      obtain _ | ⟨y, b⟩ := b
      · simp at hl
      · simp only [List.zipWith_cons_cons, List.mem_cons, forall_eq_or_imp,
          UInt8.xor_eq_zero_iff] at h
        rw [h.1, ih b (by simpa using hl) h.2]
  · rintro rfl
    refine ⟨rfl, rfl, fun x hx => ?_⟩
    induction a with
    | nil => simp at hx
    | cons y a ih =>
      rcases List.mem_cons.mp (List.zipWith_cons_cons ▸ hx) with rfl | hx
      · exact UInt8.xor_self
      · exact ih hx

/-- Whether two texts are equal. -/
def same (a b : String) : Bool :=
  equal (Utf8.ofString a) (Utf8.ofString b)

end OpenIdProvider.Secret
