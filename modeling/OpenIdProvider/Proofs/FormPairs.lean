import OpenIdProvider.Proofs.Text
import OpenIdProvider.Text.Form

/-!
# Pairs that are read back

Form-encoded pairs are read back as they were written, whatever characters their names and
values hold (`Form.decode_encode`), also behind other pairs (`Form.decode_append`).

A name or a value is percent-encoded text once each `+` is taken for a space
(`Form.map_encodeComponent`). It holds neither `&` nor `=`, so the pairs are found again. What is
written consists of letters, digits and eight signs (`Form.mem_encodeChars`).
-/

namespace OpenIdProvider

namespace Form

/-! ## Names and values -/

/-- Whether a character stands in a name or a value as it is, once `+` is taken for a space. -/
def isKept (c : Char) : Bool :=
  isPlain c || c == ' '

theorem map_encodeChar (c : Char) :
    (encodeChar c).map (fun d => if d = '+' then ' ' else d)
      = if isKept c then [c] else (String.utf8EncodeChar c).flatMap Percent.code := by
  by_cases hplain : isPlain c = true
  · have hc : c ≠ '+' := by
      rintro rfl
      exact absurd hplain (by decide)
    simp [encodeChar, isKept, hplain, hc]
  · by_cases hspace : c = ' '
    · subst hspace
      decide
    · have hcodes : ∀ d ∈ Percent.codeChars, d ≠ '+' :=
        Text.forall_mem_of_all (by decide)
      have hsame : ∀ d ∈ (String.utf8EncodeChar c).flatMap Percent.code,
          (if d = '+' then ' ' else d) = d :=
        fun d hd => if_neg (hcodes d (Percent.mem_codeChars hd))
      rw [encodeChar, if_neg hplain, if_neg hspace, if_neg (by simp [isKept, hplain, hspace]),
        List.map_congr_left hsame, List.map_id']

theorem map_encodeComponent (s : String) :
    (encodeComponent s).map (fun d => if d = '+' then ' ' else d)
      = Percent.encode isKept s.toList := by
  rw [encodeComponent, List.map_flatMap, Percent.encode]
  exact List.flatMap_congr fun c _ => map_encodeChar c

theorem decodeComponent_encodeComponent (s : String) :
    decodeComponent (encodeComponent s) = s := by
  rw [decodeComponent, map_encodeComponent, Percent.decode_encode (by decide), Utf8.decodeLossy,
    Utf8.decodeLossyChars_encode, String.ofList_toList]

/-- The characters of names and values. -/
theorem mem_encodeComponent {c : Char} {s : String} (h : c ∈ encodeComponent s) :
    isPlain c = true ∨ c = '+' ∨ c = '%' := by
  have hcodes : ∀ d ∈ Percent.codeChars, isPlain d = true ∨ d = '+' ∨ d = '%' :=
    Text.forall_mem_of_all (by decide)
  obtain ⟨d, -, hc⟩ := List.mem_flatMap.mp h
  unfold encodeChar at hc
  split at hc
  · rename_i hd
    rw [List.mem_singleton] at hc
    exact .inl (hc ▸ hd)
  · split at hc
    · rw [List.mem_singleton] at hc
      exact .inr (.inl hc)
    · exact hcodes c (Percent.mem_codeChars hc)

theorem notMem_encodeComponent {c : Char} (h : isPlain c = false) (hplus : c ≠ '+')
    (hpercent : c ≠ '%') (s : String) : c ∉ encodeComponent s := by
  intro hc
  rcases mem_encodeComponent hc with hplain | rfl | rfl
  · simp [h] at hplain
  · exact hplus rfl
  · exact hpercent rfl

/-! ## Pairs -/

theorem pieces_ne_nil (sep : Char) (s : List Char) : pieces sep s ≠ [] := by
  cases s with
  | nil => exact List.cons_ne_nil _ _
  | cons c s =>
    rw [pieces]
    split
    · exact List.cons_ne_nil _ _
    · split <;> exact List.cons_ne_nil _ _

theorem pieces_of_notMem {sep : Char} {s : List Char} (h : sep ∉ s) : pieces sep s = [s] := by
  induction s with
  | nil => rfl
  | cons c s ih =>
    rw [List.mem_cons, not_or] at h
    rw [pieces, if_neg (Ne.symm h.1), ih h.2]

/-- A separator ends a piece, and what comes after it has its own pieces. -/
theorem pieces_append (sep : Char) (s t : List Char) :
    pieces sep (s ++ sep :: t) = pieces sep s ++ pieces sep t := by
  induction s with
  | nil => simp [pieces]
  | cons c s ih =>
    rw [List.cons_append, pieces, pieces, ih]
    split
    · rfl
    · cases hs : pieces sep s with
      | nil => exact absurd hs (pieces_ne_nil sep s)
      | cons p ps => rfl

theorem decodeChars_append (s t : List Char) :
    decodeChars (s ++ '&' :: t) = decodeChars s ++ decodeChars t := by
  rw [decodeChars, pieces_append, List.filter_append, List.map_append]
  rfl

theorem decodePair_encodePair (p : Pair) : decodePair (encodePair p) = p := by
  have hname : ∀ c ∈ encodeComponent p.1, decide (c ≠ '=') = true := fun c hc =>
    decide_eq_true fun heq =>
      notMem_encodeComponent (by decide) (by decide) (by decide) p.1 (heq ▸ hc)
  have hsplit : splitPair (encodePair p) = (encodeComponent p.1, encodeComponent p.2) := by
    rw [splitPair, encodePair, List.takeWhile_append_of_pos hname,
      List.dropWhile_append_of_pos hname]
    simp
  rw [decodePair, hsplit]
  simp only [decodeComponent_encodeComponent]

theorem decodeChars_encodePair (p : Pair) : decodeChars (encodePair p) = [p] := by
  have hsep : '&' ∉ encodePair p := by
    have hnone := notMem_encodeComponent (c := '&') (by decide) (by decide) (by decide)
    rw [encodePair, List.mem_append, List.mem_cons]
    rintro (h | h | h)
    · exact hnone p.1 h
    · exact absurd h (by decide)
    · exact hnone p.2 h
  have hfull : (encodePair p).isEmpty = false := by simp [encodePair]
  rw [decodeChars, pieces_of_notMem hsep, List.filter_singleton, hfull]
  exact congrArg (fun q => [q]) (decodePair_encodePair p)

theorem decodeChars_encodeChars (ps : List Pair) : decodeChars (encodeChars ps) = ps := by
  induction ps with
  | nil => rfl
  | cons p ps ih =>
    rcases ps with _ | ⟨q, ps⟩
    · rw [encodeChars, List.map_singleton, List.intercalate_singleton, decodeChars_encodePair]
    · rw [encodeChars, List.map_cons, List.map_cons, List.intercalate_cons_cons, List.append_assoc,
        List.singleton_append, decodeChars_append, decodeChars_encodePair, ← List.map_cons,
        ← encodeChars, ih, List.singleton_append]

/-- Pairs are read back as they were written. -/
theorem decode_encode (ps : List Pair) : decode (encode ps) = ps := by
  rw [decode, encode, String.toList_ofList, decodeChars_encodeChars]

/-- Pairs are read back behind others. -/
theorem decode_append (s : String) (ps : List Pair) :
    decode (s ++ "&" ++ encode ps) = decode s ++ ps := by
  have hlist : (s ++ "&" ++ encode ps).toList = s.toList ++ '&' :: (encode ps).toList := by
    rw [String.toList_append, String.toList_append, List.append_assoc]
    rfl
  rw [decode, hlist, decodeChars_append, ← decode, ← decode, decode_encode]

/-! ## Characters -/

/-- The characters of encoded pairs. -/
def writtenChars : List Char :=
  "abcdefghijklmnopqrstuvwxyzABCDEFGHIJKLMNOPQRSTUVWXYZ0123456789*-._+%&=".toList

theorem mem_writtenChars_of_isPlain {c : Char} (h : isPlain c = true) : c ∈ writtenChars := by
  have hascii : c.toNat < 123 := by
    simp only [isPlain, Bool.or_eq_true, Bool.and_eq_true, decide_eq_true_eq, beq_iff_eq] at h
    rcases h with ((((((⟨-, h⟩ | ⟨-, h⟩) | ⟨-, h⟩) | rfl) | rfl) | rfl) | rfl)
    · exact Nat.lt_succ_of_le h
    · exact Nat.lt_of_le_of_lt h (by decide)
    · exact Nat.lt_of_le_of_lt h (by decide)
    all_goals decide
  have hall : ∀ n < 123, isPlain (Char.ofNat n) = true → Char.ofNat n ∈ writtenChars := by
    decide +kernel
  have hc := hall c.toNat hascii
  rw [Char.ofNat_toNat] at hc
  exact hc h

theorem mem_encodePair {c : Char} {p : Pair} (h : c ∈ encodePair p) : c ∈ writtenChars := by
  have hcomponent : ∀ s : String, c ∈ encodeComponent s → c ∈ writtenChars := by
    intro s hs
    rcases mem_encodeComponent hs with hplain | rfl | rfl
    · exact mem_writtenChars_of_isPlain hplain
    · decide
    · decide
  rw [encodePair, List.mem_append, List.mem_cons] at h
  rcases h with h | rfl | h
  · exact hcomponent p.1 h
  · decide
  · exact hcomponent p.2 h

theorem mem_encodeChars {c : Char} {ps : List Pair} (h : c ∈ encodeChars ps) :
    c ∈ writtenChars := by
  induction ps with
  | nil => cases h
  | cons p ps ih =>
    rcases ps with _ | ⟨q, ps⟩
    · rw [encodeChars, List.map_singleton, List.intercalate_singleton] at h
      exact mem_encodePair h
    · rw [encodeChars, List.map_cons, List.map_cons, List.intercalate_cons_cons, ← List.map_cons,
        ← encodeChars, List.append_assoc, List.mem_append, List.singleton_append,
        List.mem_cons] at h
      rcases h with h | rfl | h
      · exact mem_encodePair h
      · decide
      · exact ih h

end Form

end OpenIdProvider
