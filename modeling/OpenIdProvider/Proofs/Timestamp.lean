import Mathlib.Algebra.GroupWithZero.Nat
import Mathlib.Data.List.TakeWhile
import OpenIdProvider.Proofs.Calendar
import OpenIdProvider.Proofs.Text
import OpenIdProvider.Time.Timestamp

/-!
# Timestamps that are read back

The timestamp of an instant is read back as that instant (`Instant.read?_timestamp`), in all
years and with all nanoseconds, a leap second included.

Each part of a timestamp is read back with any text after it: a number of a fixed width
(`readPair?_padded`), a year (`readYear?_yearChars`), a fraction (`readFraction?_fractionChars`).
A number ends where its width is full or where no digit follows.
-/

namespace OpenIdProvider

/-! ## Numbers of a fixed width -/

namespace Decimal

theorem isDigit_of_mem_padded {width n : Nat} {c : Char} (h : c ∈ padded width n) :
    isDigit c = true := by
  rcases List.mem_append.mp h with h | h
  · rw [List.eq_of_mem_replicate h]
    decide
  · exact isDigit_of_mem_digits h

/-- Zeros on the left do not count. -/
theorem value_padded (width n : Nat) : value (padded width n) = n := by
  have hzeros : ∀ k, value (List.replicate k '0' ++ digits n) = value (digits n) := by
    intro k
    induction k with
    | zero => rfl
    | succ k ih => simpa [value, List.replicate_succ] using ih
  rw [padded, hzeros, value_digits]

theorem length_digits_le {n width : Nat} (hpos : 0 < width) (h : n < 10 ^ width) :
    (digits n).length ≤ width := by
  induction width generalizing n with
  | zero => cases hpos
  | succ width ih =>
    rw [digits]
    split
    · exact hpos
    · have hwidth : 0 < width := by
        rcases width with - | width
        · omega
        · exact Nat.succ_pos _
      have := ih hwidth (n := n / 10) (by rw [Nat.pow_succ] at h; omega)
      simpa using this

theorem length_padded {width n : Nat} (hpos : 0 < width) (h : n < 10 ^ width) :
    (padded width n).length = width := by
  have := length_digits_le hpos h
  rw [padded, List.length_append, List.length_replicate]
  omega

theorem padded_ne_nil (width n : Nat) : padded width n ≠ [] := by
  have hdigits : digits n ≠ [] := by
    rw [digits]
    split <;> simp
  simp [padded, hdigits]

theorem exists_padded_cons (width n : Nat) : ∃ c r, padded width n = c :: r ∧ isDigit c = true := by
  obtain ⟨c, r, h⟩ := List.exists_cons_of_ne_nil (padded_ne_nil width n)
  exact ⟨c, r, h, isDigit_of_mem_padded (h ▸ List.mem_cons_self)⟩

theorem not_isBlank_of_isDigit {c : Char} (h : isDigit c = true) : Text.isBlank c = false := by
  simp only [isDigit, Bool.and_eq_true, decide_eq_true_eq, Char.le_def,
    UInt32.le_iff_toNat_le] at h
  obtain ⟨h₀, h₉⟩ := h
  have hlow : ('0' : Char).val.toNat = 48 := rfl
  have hhigh : ('9' : Char).val.toNat = 57 := rfl
  have hn : c.toNat = c.val.toNat := rfl
  simp only [Text.isBlank, Bool.or_eq_false_iff, Bool.and_eq_false_iff, decide_eq_false_iff_not,
    beq_eq_false_iff_ne]
  omega

end Decimal

namespace Instant

open Decimal (padded isDigit value)

variable {rest : List Char}

theorem dropBlanks_cons {c : Char} (h : Text.isBlank c = false) (r : List Char) :
    dropBlanks (c :: r) = c :: r := by
  simp [dropBlanks, h]

/-- Digits are read as their number, if they fill the width or no digit follows. -/
theorem readNumber?_append {width : Nat} {ds : List Char} (hdigits : ∀ c ∈ ds, isDigit c = true)
    (hne : ds ≠ []) (hwidth : ds.length ≤ width)
    (hend : ds.length = width ∨ ∀ c ∈ rest.head?, isDigit c = false) :
    readNumber? width (ds ++ rest) = some (value ds, rest) := by
  have hrest : (rest.take (width - ds.length)).takeWhile isDigit = [] := by
    rcases hend with hfull | hend
    · simp [hfull]
    · cases rest with
      | nil => simp
      | cons c r =>
        have hc := hend c rfl
        cases width - ds.length <;> simp [hc]
  have htaken : ((ds ++ rest).take width).takeWhile isDigit = ds := by
    rw [List.take_append, List.take_of_length_le hwidth, List.takeWhile_append_of_pos hdigits,
      hrest, List.append_nil]
  simp [readNumber?, htaken, hne]

theorem readNumber?_padded {width n : Nat} (hpos : 0 < width) (h : n < 10 ^ width)
    (rest : List Char) : readNumber? width (padded width n ++ rest) = some (n, rest) := by
  have hlength := Decimal.length_padded hpos h
  rw [readNumber?_append (fun _ => Decimal.isDigit_of_mem_padded) (Decimal.padded_ne_nil width n)
    (Nat.le_of_eq hlength) (.inl hlength), Decimal.value_padded]

theorem dropBlanks_padded (width n : Nat) (rest : List Char) :
    dropBlanks (padded width n ++ rest) = padded width n ++ rest := by
  obtain ⟨c, r, hcons, hc⟩ := Decimal.exists_padded_cons width n
  rw [hcons, List.cons_append, dropBlanks_cons (Decimal.not_isBlank_of_isDigit hc)]

theorem readPair?_padded {n : Nat} (h : n < 100) (rest : List Char) :
    readPair? (padded 2 n ++ rest) = some (n, rest) := by
  rw [readPair?, dropBlanks_padded, readNumber?_padded (by decide) h]

theorem readMark?_cons {c : Char} (h : Text.isBlank c = false) (r : List Char) :
    readMark? c (c :: r) = some r := by
  rw [readMark?, dropBlanks_cons h]
  exact if_pos rfl

/-- A year of four digits is read back. -/
theorem readYear?_padded {n : Nat} (h : n < 10000) (rest : List Char) :
    readYear? (padded 4 n ++ rest) = some ((n : Int), rest) := by
  obtain ⟨c, r, hcons, hc⟩ := Decimal.exists_padded_cons 4 n
  have hnumber : readNumber? 4 (padded 4 n ++ rest) = some (n, rest) :=
    readNumber?_padded (by decide) h rest
  rw [readYear?, dropBlanks_padded]
  rw [hcons, List.cons_append] at hnumber ⊢
  split
  · rename_i heq
    rw [(List.cons.inj heq).1] at hc
    cases hc
  · rename_i heq
    rw [(List.cons.inj heq).1] at hc
    cases hc
  · rw [hnumber]
    rfl

/-- A year is read back, when no digit follows it. -/
theorem readYear?_yearChars (y : Int) (hrest : ∀ c ∈ rest.head?, isDigit c = false) :
    readYear? (yearChars y ++ rest) = some (y, rest) := by
  have hsigned : readNumber? (padded 4 y.natAbs ++ rest).length (padded 4 y.natAbs ++ rest)
      = some (y.natAbs, rest) := by
    rw [readNumber?_append (fun _ => Decimal.isDigit_of_mem_padded) (Decimal.padded_ne_nil 4 _)
      (by simp) (.inr hrest), Decimal.value_padded]
  rw [yearChars]
  split
  · rename_i hyear
    simp only [Bool.and_eq_true, decide_eq_true_eq] at hyear
    rw [readYear?_padded (by omega), Int.toNat_of_nonneg hyear.1]
  · rename_i hyear
    simp only [Bool.and_eq_true, decide_eq_true_eq] at hyear
    by_cases hneg : y < 0
    · rw [if_pos hneg, List.cons_append, readYear?, dropBlanks_cons (by decide)]
      simp only [hsigned, Option.map_some]
      congr 2
      omega
    · rw [if_neg hneg, List.cons_append, readYear?, dropBlanks_cons (by decide)]
      simp only [hsigned, Option.map_some]
      congr 2
      omega

/-- A fraction of a number of digits is read back as so many nanoseconds. -/
theorem readFraction?_padded {width n : Nat} (hpos : 0 < width) (hwidth : width ≤ 9)
    (h : n < 10 ^ width) :
    readFraction? ('.' :: padded width n ++ ['Z']) = some (n * Nat.pow 10 (9 - width), ['Z']) := by
  have hdigits : (padded width n ++ ['Z']).takeWhile isDigit = padded width n := by
    rw [List.takeWhile_append_of_pos fun _ => Decimal.isDigit_of_mem_padded,
      List.takeWhile_cons_of_neg (by decide), List.append_nil]
  have hlength := Decimal.length_padded hpos h
  have hcounted : (padded width n).take 9 = padded width n :=
    List.take_of_length_le (by omega)
  rw [List.cons_append, readFraction?]
  simp [hdigits, hcounted, Decimal.padded_ne_nil, Decimal.value_padded, hlength]

/-- The fraction of a second is read back. -/
theorem readFraction?_fractionChars {nano : Nat} (h : nano < 1000000000) :
    readFraction? (fractionChars nano ++ ['Z']) = some (nano, ['Z']) := by
  rw [fractionChars]
  split
  · rename_i hzero
    rw [hzero]
    rfl
  · split
    · rw [readFraction?_padded (by decide) (by decide) (by omega),
        show Nat.pow 10 (9 - 3) = 1000000 from rfl]
      congr 2
      omega
    · split
      · rw [readFraction?_padded (by decide) (by decide) (by omega),
          show Nat.pow 10 (9 - 6) = 1000 from rfl]
        congr 2
        omega
      · rw [readFraction?_padded (by decide) (by decide) (by omega),
          show Nat.pow 10 (9 - 9) = 1 from rfl, Nat.mul_one]

theorem readOffset?_utc : readOffset? (dropBlanks ['Z']) = some (0, []) := by
  decide

/-- The instant of a date and a time of day with a fraction, as it is read and checked. -/
theorem readChars?_of_parts {date : Calendar.Date} {hour minute second nano : Nat}
    (hdate : date.valid = true) (hfirst : -262143 ≤ date.year) (hlast : date.year ≤ 262142)
    (hhour : hour < 24) (hminute : minute < 60) (hsecond : second ≤ 60)
    (hnano : nano < 1000000000) :
    readChars? (yearChars date.year ++ '-' :: (padded 2 date.month ++ '-' :: (padded 2 date.day
      ++ 'T' :: (padded 2 hour ++ ':' :: (padded 2 minute ++ ':' :: (padded 2 second
      ++ (fractionChars nano ++ ['Z'])))))))
      = ofParts? (date.toDays * 86400 + (hour * 3600 + minute * 60
          + (second - (if second = 60 then 1 else 0) : Nat)))
        (nano + (if second = 60 then 1 else 0) * 1000000000) := by
  obtain ⟨hmonth, hday⟩ := Calendar.lt_of_valid hdate
  -- one rewriting of `bind` for each kind of part: a year, the text after a mark, a number
  rw [readChars?, Option.bind_eq_bind, Option.bind_eq_bind, Option.bind_eq_bind,
    readYear?_yearChars _ (by simp; decide), Option.bind_some]
  dsimp only
  rw [readMark?_cons (by decide), Option.bind_some, readPair?_padded hmonth, Option.bind_some]
  dsimp only
  rw [readMark?_cons (by decide), Option.bind_some, readPair?_padded hday, Option.bind_some]
  dsimp only
  rw [if_pos (by decide), Option.bind_some, readPair?_padded (by omega), Option.bind_some]
  dsimp only
  rw [readMark?_cons (by decide), Option.bind_some, readPair?_padded (by omega), Option.bind_some]
  dsimp only
  rw [readMark?_cons (by decide), Option.bind_some, readPair?_padded (by omega), Option.bind_some]
  dsimp only
  rw [readFraction?_fractionChars hnano, Option.bind_some]
  dsimp only
  rw [readOffset?_utc, Option.bind_some]
  dsimp only
  rw [if_neg, Int.sub_zero]
  have hvalid : (⟨date.year, date.month, date.day⟩ : Calendar.Date).valid = true := hdate
  simp only [hvalid, dropBlanks, List.dropWhile_nil, List.isEmpty_nil, Bool.not_true, Bool.or_false,
    Bool.false_or, Bool.or_eq_true, decide_eq_true_eq]
  omega

/-- The characters of an instant are read back as that instant. -/
theorem readChars?_chars (t : Instant) : readChars? t.chars = some t := by
  have hfirst := t.first_le
  have hlast := t.le_last
  have hnano := t.nano_lt
  have hdays : -96465292 ≤ t.second / 86400 ∧ t.second / 86400 ≤ 95026236 := by omega
  obtain ⟨hyear₀, hyear₁⟩ := Calendar.year_ofDays hdays.1 hdays.2
  generalize htime : (t.second % 86400).toNat = time
  -- In a leap second the 59th second of the minute is written as the 60th.
  have hsecond : time % 60 + t.nano / 1000000000 = 60 ↔ 1000000000 ≤ t.nano := by omega
  simp only [chars, htime, List.append_assoc, List.cons_append]
  rw [readChars?_of_parts (Calendar.valid_ofDays _) hyear₀ hyear₁ (by omega) (by omega) (by omega)
    (by omega), Calendar.toDays_ofDays]
  by_cases hleap : 1000000000 ≤ t.nano
  · rw [if_pos (hsecond.mpr hleap), ← ofParts?_parts t]
    congr 1 <;> omega
  · rw [if_neg (mt hsecond.mp hleap), ← ofParts?_parts t]
    congr 1 <;> omega

/-- The timestamp of an instant is read back as that instant. -/
theorem read?_timestamp (t : Instant) : read? t.timestamp = some t := by
  rw [read?, timestamp, String.toList_ofList, readChars?_chars]

end Instant

end OpenIdProvider
