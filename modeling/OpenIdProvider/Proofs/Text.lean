import Mathlib.Data.List.Basic
import Mathlib.Data.List.TakeWhile
import OpenIdProvider.Text.Base64
import OpenIdProvider.Text.Blank
import OpenIdProvider.Text.Decimal
import OpenIdProvider.Text.Hex
import OpenIdProvider.Text.Percent

/-!
# Texts that are read back

What is written as text and read again is what was written:

* `Utf8.decode?_ofString`: a text from its bytes, and `Utf8.ofString_of_decode?`: these bytes
  from the text;
* `Base64.decodeUrl?_encodeUrl`: bytes from their URL-safe text, which has no dot
  (`Base64.dot_notMem_encodeUrl`), and `Base64.decode?_encode`: bytes from their padded text,
  which may also be the first of several (`Base64.decodeJoined?_append`);
* `Percent.decode_encode`: the bytes of a text from its percent codes, if the percent sign itself is
  encoded;
* `Text.words_unwords_words`: the words of a text, after they were joined again.

Texts that are joined have the words of each of them (`Text.words_unwords`), and blanks at the
ends of a text leave its words alone (`Text.words_trim`). What its words are is said without
reading it by `Text.HasWords` (`Text.wordsChars_eq_iff`).

The digits of a number are not read back here alone but inside JSON; the facts about
them that this takes are `Decimal.isDigit_of_mem_digits` and
`Decimal.digits_zero_cons`.
-/

namespace OpenIdProvider

/-- What holds of each of some characters can be evaluated, without a look at the other ones. -/
theorem Text.forall_mem_of_all {P : Char → Prop} [DecidablePred P] {cs : List Char}
    (h : (cs.all fun c => decide (P c)) = true) : ∀ c ∈ cs, P c :=
  fun c hc => of_decide_eq_true (List.all_eq_true.mp h c hc)

namespace Utf8

theorem head?_encodeChar (c : Char) (r : Bytes) :
    head? (String.utf8EncodeChar c ++ r) = some c := by
  have hlen : (String.utf8EncodeChar c).length ≤ 4 := by
    rw [String.length_utf8EncodeChar]
    exact c.utf8Size_le_four
  rw [head?, List.take_append, List.take_of_length_le hlen, List.toByteArray_append]
  exact ByteArray.utf8DecodeChar?_utf8EncodeChar_append

/-- Bytes that begin with those of a text begin with those of its first character. -/
theorem exists_encode_cons (c : Char) (s : List Char) (bs : Bytes) :
    ∃ b r, encode (c :: s) ++ bs = b :: r ∧ head? (b :: r) = some c ∧
      r.drop (c.utf8Size - 1) = encode s ++ bs := by
  have hlen := String.length_utf8EncodeChar c
  have hpos := c.utf8Size_pos
  have hhead := head?_encodeChar c (encode s ++ bs)
  rw [encode, List.flatMap_cons, ← encode, List.append_assoc]
  cases hbytes : String.utf8EncodeChar c with
  | nil =>
    rw [hbytes, List.length_nil] at hlen
    omega
  | cons b r =>
    rw [hbytes] at hhead hlen
    refine ⟨b, r ++ (encode s ++ bs), rfl, hhead, ?_⟩
    rw [← hlen, List.length_cons, Nat.add_sub_cancel, List.drop_left]

theorem decodeChars?_encode (s : List Char) : decodeChars? (encode s) = some s := by
  induction s with
  | nil => simp [encode, decodeChars?]
  | cons c s ih =>
    obtain ⟨b, r, hbytes, hhead, hrest⟩ := exists_encode_cons c s []
    rw [List.append_nil] at hbytes hrest
    rw [hbytes, decodeChars?, hhead]
    simp only [hrest, ih, Option.map_some]

/-- Nothing is replaced in the bytes of a text. -/
theorem decodeLossyChars_encode (s : List Char) : decodeLossyChars (encode s) = s := by
  induction s with
  | nil => simp [encode, decodeLossyChars]
  | cons c s ih =>
    obtain ⟨b, r, hbytes, hhead, hrest⟩ := exists_encode_cons c s []
    rw [List.append_nil] at hbytes hrest
    rw [hbytes, decodeLossyChars, hhead]
    simp only [hrest, ih]

/-- Nothing is marked in the bytes of a text, whatever bytes come after it. -/
theorem decodeMarking_append (mark s : List Char) (bs : Bytes) :
    decodeMarking mark (encode s ++ bs) = s ++ decodeMarking mark bs := by
  induction s with
  | nil => rfl
  | cons c s ih =>
    obtain ⟨b, r, hbytes, hhead, hrest⟩ := exists_encode_cons c s bs
    rw [hbytes, decodeMarking, hhead]
    simp only [hrest, ih, List.cons_append]

theorem decodeMarking_encode (mark s : List Char) : decodeMarking mark (encode s) = s := by
  have happend := decodeMarking_append mark s []
  rwa [decodeMarking, List.append_nil, List.append_nil] at happend

/-- A text is read back from its bytes. -/
theorem decode?_ofString (s : String) : decode? (ofString s) = some s := by
  rw [decode?, ofString, decodeChars?_encode, Option.map_some, String.ofList_toList]

theorem encode_injective {s t : List Char} (h : encode s = encode t) : s = t := by
  have hdecoded := congrArg decodeChars? h
  rwa [decodeChars?_encode, decodeChars?_encode, Option.some.injEq] at hdecoded

theorem exists_of_head? {bs : Bytes} {c : Char} (h : head? bs = some c) :
    ∃ r, bs = String.utf8EncodeChar c ++ r := by
  obtain ⟨l, hl⟩ := ByteArray.exists_of_utf8DecodeChar?_eq_some h
  have htake : bs.take 4 = String.utf8EncodeChar c ++ l.data.toList := by
    have hdata := congrArg (fun b : ByteArray => b.data.toList) hl
    simpa using hdata
  refine ⟨l.data.toList ++ bs.drop 4, ?_⟩
  rw [← List.append_assoc, ← htake, List.take_append_drop]

theorem encode_of_decodeChars? {bs : Bytes} {cs : List Char} (h : decodeChars? bs = some cs) :
    encode cs = bs := by
  fun_induction decodeChars? bs generalizing cs with
  | case1 =>
    obtain rfl := Option.some.inj h
    rfl
  | case2 b r c hc ih =>
    obtain ⟨tail, htail, rfl⟩ := Option.map_eq_some_iff.mp h
    obtain ⟨rest, hrest⟩ := exists_of_head? hc
    have hlen := String.length_utf8EncodeChar c
    have hpos := c.utf8Size_pos
    have hdrop : r.drop (c.utf8Size - 1) = rest := by
      rw [show r.drop (c.utf8Size - 1) = (b :: r).drop (c.utf8Size - 1 + 1) from rfl, hrest,
        Nat.sub_add_cancel hpos, ← hlen, List.drop_left]
    rw [encode, List.flatMap_cons, ← encode, ih htail, hdrop, hrest]
  | case3 b r hnone => cases h

/-- Bytes from which a text is read are the bytes of this text. -/
theorem ofString_of_decode? {bs : Bytes} {s : String} (h : decode? bs = some s) :
    ofString s = bs := by
  obtain ⟨cs, hcs, rfl⟩ := Option.map_eq_some_iff.mp h
  rw [ofString, String.toList_ofList]
  exact encode_of_decodeChars? hcs

/-! ### Colons -/

/-- The byte of the colon occurs in the colon alone. -/
theorem eq_colon_of_mem {c : Char} (h : 58 ∈ String.utf8EncodeChar c) : c = ':' := by
  unfold String.utf8EncodeChar at h
  dsimp only at h
  have hbyte (n : Nat) (h : (58 : UInt8) = UInt8.ofNat n) : n % 256 = 58 := by
    have hnat := congrArg UInt8.toNat h
    simpa using hnat.symm
  split at h
  · have hn := hbyte _ (List.mem_singleton.mp h)
    refine Char.ext (UInt32.toNat_inj.mp ?_)
    show c.val.toNat = 58
    omega
  -- Every byte of a longer code is at least 128.
  · split at h
    · simp only [List.mem_cons, List.not_mem_nil, or_false] at h
      rcases h with h | h <;> have hn := hbyte _ h <;> omega
    · split at h
      · simp only [List.mem_cons, List.not_mem_nil, or_false] at h
        rcases h with h | h | h <;> have hn := hbyte _ h <;> omega
      · simp only [List.mem_cons, List.not_mem_nil, or_false] at h
        rcases h with h | h | h | h <;> have hn := hbyte _ h <;> omega

/-- The bytes before the first colon are those of the characters before it. -/
theorem encode_takeWhile_colon (cs : List Char) :
    encode (cs.takeWhile (· ≠ ':')) = (encode cs).takeWhile (· ≠ 58) := by
  induction cs with
  | nil => rfl
  | cons c cs ih =>
    by_cases hc : c = ':'
    · subst hc
      rfl
    · have hbytes : ∀ b ∈ String.utf8EncodeChar c, decide (b ≠ 58) = true := fun b hb =>
        decide_eq_true fun h => hc (eq_colon_of_mem (h ▸ hb))
      have hcons : (c :: cs).takeWhile (· ≠ ':') = c :: cs.takeWhile (· ≠ ':') :=
        List.takeWhile_cons_of_pos (decide_eq_true hc)
      rw [hcons, encode, List.flatMap_cons, ← encode, ih, encode, encode, List.flatMap_cons,
        List.takeWhile_append_of_pos hbytes]

end Utf8

/-! ## Base64 -/

namespace Base64

variable {a : Alphabet}

/-- Bytes are read back from their characters, if the alphabet reads back its own. -/
theorem Alphabet.decode?_encode (h : ∀ n < 64, a.value? (a.char n) = some n) (bs : Bytes) :
    a.decode? (a.encode bs) = some bs := by
  fun_induction Alphabet.encode a bs with
  | case1 => rfl
  | case2 x =>
    have hx := x.toNat_lt
    simp only [Alphabet.decode?, h (x.toNat / 4) (by omega), h (x.toNat % 4 * 16) (by omega),
      Option.bind_eq_bind, Option.bind_some]
    rw [if_pos (by omega), show x.toNat / 4 * 4 + x.toNat % 4 * 16 / 16 = x.toNat by omega,
      UInt8.ofNat_toNat]
  | case3 x y =>
    have hx := x.toNat_lt
    have hy := y.toNat_lt
    simp only [Alphabet.decode?, h (x.toNat / 4) (by omega),
      h (x.toNat % 4 * 16 + y.toNat / 16) (by omega), h (y.toNat % 16 * 4) (by omega),
      Option.bind_eq_bind, Option.bind_some]
    rw [if_pos (by omega),
      show x.toNat / 4 * 4 + (x.toNat % 4 * 16 + y.toNat / 16) / 16 = x.toNat by omega,
      show (x.toNat % 4 * 16 + y.toNat / 16) % 16 * 16 + y.toNat % 16 * 4 / 4 = y.toNat by omega,
      UInt8.ofNat_toNat, UInt8.ofNat_toNat]
  | case4 x y z r ih =>
    have hx := x.toNat_lt
    have hy := y.toNat_lt
    have hz := z.toNat_lt
    simp only [Alphabet.decode?, h (x.toNat / 4) (by omega),
      h (x.toNat % 4 * 16 + y.toNat / 16) (by omega),
      h (y.toNat % 16 * 4 + z.toNat / 64) (by omega), h (z.toNat % 64) (by omega), ih,
      Option.bind_eq_bind, Option.bind_some, Option.pure_def]
    rw [show x.toNat / 4 * 4 + (x.toNat % 4 * 16 + y.toNat / 16) / 16 = x.toNat by omega,
      show (x.toNat % 4 * 16 + y.toNat / 16) % 16 * 16 + (y.toNat % 16 * 4 + z.toNat / 64) / 4
        = y.toNat by omega,
      show (y.toNat % 16 * 4 + z.toNat / 64) % 4 * 64 + z.toNat % 64 = z.toNat by omega,
      UInt8.ofNat_toNat, UInt8.ofNat_toNat, UInt8.ofNat_toNat]

theorem decodeUrl?_encodeUrl (bs : Bytes) : decodeUrl? (encodeUrl bs) = some bs := by
  rw [decodeUrl?, encodeUrl, String.toList_ofList]
  exact Alphabet.decode?_encode (fun _ hn => Alphabet.urlSafe_value?_char hn) bs

theorem Alphabet.mem_encode (c : Char) (bs : Bytes) (h : c ∈ a.encode bs) :
    ∃ n < 64, c = a.char n := by
  fun_induction Alphabet.encode a bs with
  | case1 => cases h
  | case2 x =>
    have hx := x.toNat_lt
    simp only [List.mem_cons, List.not_mem_nil, or_false] at h
    rcases h with rfl | rfl <;> exact ⟨_, by omega, rfl⟩
  | case3 x y =>
    have hx := x.toNat_lt
    have hy := y.toNat_lt
    simp only [List.mem_cons, List.not_mem_nil, or_false] at h
    rcases h with rfl | rfl | rfl <;> exact ⟨_, by omega, rfl⟩
  | case4 x y z r ih =>
    have hx := x.toNat_lt
    have hy := y.toNat_lt
    have hz := z.toNat_lt
    simp only [List.mem_cons] at h
    rcases h with rfl | rfl | rfl | rfl | h
    · exact ⟨_, by omega, rfl⟩
    · exact ⟨_, by omega, rfl⟩
    · exact ⟨_, by omega, rfl⟩
    · exact ⟨_, by omega, rfl⟩
    · exact ih h

theorem dot_notMem_encodeUrl (bs : Bytes) : '.' ∉ (encodeUrl bs).toList := by
  rw [encodeUrl, String.toList_ofList]
  intro h
  obtain ⟨n, hn, hc⟩ := Alphabet.mem_encode _ _ h
  have hall : ∀ m ∈ List.range 64, '.' ≠ urlSafe.char m := by decide
  exact hall n (List.mem_range.mpr hn) hc

/-! ### Padding -/

theorem equals_notMem_encode (bs : Bytes) : '=' ∉ standard.encode bs := by
  intro h
  obtain ⟨n, hn, hc⟩ := Alphabet.mem_encode _ _ h
  have hall : ∀ m ∈ List.range 64, '=' ≠ standard.char m := by decide
  exact hall n (List.mem_range.mpr hn) hc

theorem dropPad_of_notMem {cs : List Char} (h : '=' ∉ cs) : dropPad cs = cs := by
  unfold dropPad
  split
  · exact absurd List.mem_cons_self h
  · rfl

/-- Padding is dropped from characters without `=`, and nothing else is. -/
theorem dropPad_padding {cs : List Char} (h : '=' ∉ cs) (n : Nat) :
    dropPad (dropPad (cs ++ padding n).reverse) = cs.reverse := by
  have hback : '=' ∉ cs.reverse := fun hmem => h (List.mem_reverse.mp hmem)
  unfold padding
  split
  · rw [List.reverse_append]
    rfl
  · split
    · rw [List.reverse_append]
      exact dropPad_of_notMem hback
    · rw [List.append_nil, dropPad_of_notMem hback, dropPad_of_notMem hback]

theorem standard_decode?_encode (bs : Bytes) :
    standard.decode? (standard.encode bs) = some bs :=
  Alphabet.decode?_encode (fun _ hn => Alphabet.standard_value?_char hn) bs

theorem decodeChars?_encodeChars (bs : Bytes) : decodeChars? (encodeChars bs) = some bs := by
  have hbody : (dropPad (dropPad (encodeChars bs).reverse)).reverse = standard.encode bs := by
    rw [encodeChars, dropPad_padding (equals_notMem_encode bs), List.reverse_reverse]
  have hpadded : encodeChars bs
      = standard.encode bs ++ padding (standard.encode bs).length := rfl
  rw [decodeChars?, hbody, if_pos hpadded, standard_decode?_encode]

theorem encodeChars_cons (x y z : UInt8) (r : Bytes) :
    encodeChars (x :: y :: z :: r) = standard.encode [x, y, z] ++ encodeChars r := by
  have hpadding (n : Nat) : padding (n + 4) = padding n := by
    rw [padding, padding, Nat.add_mod_right]
  simp only [encodeChars, Alphabet.encode, List.length_cons, hpadding, List.cons_append,
    List.nil_append]

theorem decodeJoined?_quartet {c d e f : Char} {bs : Bytes} (h : quartet? c d e f = some bs)
    (rest : List Char) :
    decodeJoined? (c :: d :: e :: f :: rest) = (decodeJoined? rest).map (bs ++ ·) := by
  rw [decodeJoined?, h]
  cases decodeJoined? rest <;> rfl

/-- A padded text is read before any other text. -/
theorem decodeJoined?_append (bs : Bytes) (rest : List Char) :
    decodeJoined? (encodeChars bs ++ rest) = (decodeJoined? rest).map (bs ++ ·) := by
  match bs with
  | [] => exact Option.map_id'.symm
  | [x] =>
    refine decodeJoined?_quartet ?_ rest
    exact standard_decode?_encode [x]
  | [x, y] =>
    have hpad := equals_notMem_encode [x, y]
    simp only [Alphabet.encode, List.mem_cons, not_or] at hpad
    refine decodeJoined?_quartet ?_ rest
    rw [quartet?, if_neg (not_not_intro rfl), if_pos (Ne.symm hpad.2.2.1)]
    exact standard_decode?_encode [x, y]
  | x :: y :: z :: r =>
    have hpad := equals_notMem_encode [x, y, z]
    simp only [Alphabet.encode, List.mem_cons, not_or] at hpad
    rw [encodeChars_cons, List.append_assoc]
    have hquartet : quartet? _ _ _ _ = some [x, y, z] :=
      (if_pos (Ne.symm hpad.2.2.2.1)).trans (standard_decode?_encode [x, y, z])
    refine (decodeJoined?_quartet hquartet (encodeChars r ++ rest)).trans ?_
    rw [decodeJoined?_append r, Option.map_map]
    rfl

theorem decodeJoined?_encodeChars (bs : Bytes) : decodeJoined? (encodeChars bs) = some bs := by
  have hread := decodeJoined?_append bs []
  rwa [decodeJoined?, Option.map_some, List.append_nil, List.append_nil] at hread

example : decodeJoined? "SGVsbA==byB3b3JsZA==".toList = some (Utf8.ofString "Hello world") := by
  decide +kernel

/-- The characters of base64 texts. -/
def characters : List Char :=
  '=' :: (List.range 64).map standard.char

theorem mem_characters {c : Char} {bs : Bytes} (h : c ∈ encodeChars bs) : c ∈ characters := by
  rw [encodeChars, List.mem_append] at h
  rcases h with h | h
  · obtain ⟨n, hn, rfl⟩ := Alphabet.mem_encode c bs h
    exact List.mem_cons_of_mem _ (List.mem_map_of_mem (List.mem_range.mpr hn))
  · have hpadding : c = '=' := by
      unfold padding at h
      split at h
      · simpa using h
      · split at h
        · simpa using h
        · cases h
    exact hpadding ▸ List.mem_cons_self

theorem isBlank_of_mem_characters : ∀ c ∈ characters, Text.isBlank c = false :=
  Text.forall_mem_of_all (by decide)

/-- Bytes are read back from their padded text. -/
theorem decode?_encode (bs : Bytes) : decode? (encode bs) = some bs := by
  rw [decode?, encode, String.toList_ofList, decodeChars?_encodeChars]

end Base64

/-! ## Hexadecimal -/

namespace Hex

theorem length_encode (bs : Bytes) : (encode bs).length = 2 * bs.length := by
  have hpairs : (encodeChars bs).length = 2 * bs.length := by
    induction bs with
    | nil => rfl
    | cons b bs ih =>
      rw [encodeChars, List.flatMap_cons, ← encodeChars, List.length_append, ih, List.length_cons]
      exact (Nat.add_comm _ _).trans (Nat.mul_succ _ _).symm
  rw [encode, String.length_ofList, hpairs]

theorem isLower_encode (bs : Bytes) : isLower (encode bs) = true := by
  have hdigit : ∀ n ∈ List.range 16, ('0' ≤ digit n && digit n ≤ '9')
      || ('a' ≤ digit n && digit n ≤ 'f') := by decide
  rw [isLower, encode, String.toList_ofList, List.all_eq_true]
  intro c hc
  obtain ⟨b, -, hc⟩ := List.mem_flatMap.mp hc
  have hb := b.toNat_lt
  rw [List.mem_cons, List.mem_singleton] at hc
  rcases hc with rfl | rfl
  · exact hdigit _ (List.mem_range.mpr (by omega))
  · exact hdigit _ (List.mem_range.mpr (by omega))

end Hex

/-! ## Percent codes -/

namespace Percent

variable {kept : Char → Bool}

theorem decode_code (b : UInt8) (r : List Char) : decode (code b ++ r) = b :: decode r := by
  have hb := b.toNat_lt
  have hhigh : Hex.value? (Hex.upperDigit (b.toNat / 16)) = some (b.toNat / 16) :=
    Hex.value?_upperDigit (by omega)
  have hlow : Hex.value? (Hex.upperDigit (b.toNat % 16)) = some (b.toNat % 16) :=
    Hex.value?_upperDigit (by omega)
  have hbyte : UInt8.ofNat (16 * (b.toNat / 16) + b.toNat % 16) = b := by
    rw [Nat.div_add_mod, UInt8.ofNat_toNat]
  simp only [code, List.cons_append, List.nil_append, decode, hhigh, hlow, hbyte]

theorem decode_codes (bs : Bytes) (r : List Char) :
    decode (bs.flatMap code ++ r) = bs ++ decode r := by
  induction bs with
  | nil => rfl
  | cons b bs ih => rw [List.flatMap_cons, List.append_assoc, decode_code, ih, List.cons_append]

theorem decode_cons {c : Char} (h : c ≠ '%') (r : List Char) :
    decode (c :: r) = String.utf8EncodeChar c ++ decode r := by
  rw [decode]
  exact fun _ _ _ hc => absurd hc h

/-- The bytes of a text are read back, if its percent signs are encoded. -/
theorem decode_encode (h : kept '%' = false) (s : List Char) :
    decode (encode kept s) = Utf8.encode s := by
  induction s with
  | nil => rfl
  | cons c s ih =>
    rw [encode, List.flatMap_cons, ← encode, Utf8.encode, List.flatMap_cons, ← Utf8.encode]
    split
    · rename_i hkept
      have hc : c ≠ '%' := fun heq => by simp [heq, h] at hkept
      rw [List.singleton_append, decode_cons hc, ih]
    · rw [decode_codes, ih]

/-- The characters of percent codes. -/
def codeChars : List Char :=
  "%0123456789ABCDEF".toList

theorem mem_codeChars {c : Char} {bs : Bytes} (h : c ∈ bs.flatMap code) : c ∈ codeChars := by
  have hdigit : ∀ n ∈ List.range 16, Hex.upperDigit n ∈ codeChars := by decide
  obtain ⟨b, -, hc⟩ := List.mem_flatMap.mp h
  have hb := b.toNat_lt
  simp only [code, List.mem_cons, List.not_mem_nil, or_false] at hc
  rcases hc with rfl | rfl | rfl
  · decide
  · exact hdigit _ (List.mem_range.mpr (by omega))
  · exact hdigit _ (List.mem_range.mpr (by omega))

theorem mem_encode {c : Char} {s : List Char} (h : c ∈ encode kept s) :
    kept c = true ∨ c ∈ codeChars := by
  obtain ⟨d, -, hc⟩ := List.mem_flatMap.mp h
  split at hc
  · rename_i hd
    rw [List.mem_singleton] at hc
    exact .inl (hc ▸ hd)
  · exact .inr (mem_codeChars hc)

end Percent

/-! ## Digits -/

namespace Decimal

theorem isDigit_digit {n : Nat} (h : n < 10) : isDigit (digit n) = true := by
  have hall : ∀ m ∈ List.range 10, isDigit (digit m) = true := by decide
  exact hall n (List.mem_range.mpr h)

theorem digits_ne_nil (n : Nat) : digits n ≠ [] := by
  rw [digits]
  split <;> simp

theorem isDigit_of_mem_digits {n : Nat} {c : Char} (h : c ∈ digits n) : isDigit c = true := by
  fun_induction digits n with
  | case1 n hn =>
    rw [List.mem_singleton] at h
    exact h ▸ isDigit_digit hn
  | case2 n hn ih =>
    rcases List.mem_append.mp h with h | h
    · exact ih h
    · rw [List.mem_singleton] at h
      exact h ▸ isDigit_digit (Nat.mod_lt _ (by decide))

/-- Only zero has a leading zero. -/
theorem digits_zero_cons {n : Nat} {ds : List Char} (h : digits n = '0' :: ds) : n = 0 := by
  fun_induction digits n generalizing ds with
  | case1 n hn =>
    have hall : ∀ m ∈ List.range 10, digit m = '0' → m = 0 := by decide
    exact hall n (List.mem_range.mpr hn) (List.cons.inj h).1
  | case2 n hn ih =>
    cases hd : digits (n / 10) with
    | nil => exact absurd hd (digits_ne_nil _)
    | cons c r =>
      rw [hd, List.cons_append] at h
      have := ih (hd.trans (by rw [(List.cons.inj h).1]))
      omega

/-- An integer begins with its sign or a digit. -/
theorem exists_intChars_cons (n : Int) :
    ∃ c r, intChars n = c :: r ∧ (c = '-' ∨ isDigit c = true) := by
  by_cases hneg : n < 0
  · exact ⟨'-', _, by rw [intChars, if_pos hneg], .inl rfl⟩
  · cases hd : digits n.natAbs with
    | nil => exact absurd hd (digits_ne_nil _)
    | cons c r =>
      refine ⟨c, r, by rw [intChars, if_neg hneg, hd], .inr ?_⟩
      exact isDigit_of_mem_digits (n := n.natAbs) (by rw [hd]; exact List.mem_cons_self)

end Decimal

/-! ## Words -/

namespace Text

/-- Whether a text is a word: not empty and without blanks. -/
def IsWord (w : List Char) : Prop :=
  w ≠ [] ∧ ∀ c ∈ w, isBlank c = false

theorem isWord_reverse {w : List Char} (hne : ¬w.isEmpty = true) (h : ∀ c ∈ w, isBlank c = false) :
    IsWord w.reverse :=
  ⟨by simpa using hne, fun c hc => h c (List.mem_reverse.mp hc)⟩

theorem forall_mem_cons_not_blank {c : Char} {w : List Char} (hc : ¬isBlank c = true)
    (h : ∀ d ∈ w, isBlank d = false) : ∀ d ∈ c :: w, isBlank d = false :=
  List.forall_mem_cons.mpr ⟨by simpa using hc, h⟩

theorem isWord_of_mem_wordsFrom {current s w : List Char}
    (hc : ∀ c ∈ current, isBlank c = false) (h : w ∈ wordsFrom current s) : IsWord w := by
  fun_induction wordsFrom current s with
  | case1 => cases h
  | case2 current hne =>
    rw [List.mem_singleton] at h
    exact h ▸ isWord_reverse hne hc
  | case3 current c r hblank hnil ih => exact ih (by simp) h
  | case4 current c r hblank hne ih =>
    rcases List.mem_cons.mp h with rfl | h
    · exact isWord_reverse hne hc
    · exact ih (by simp) h
  | case5 current c r hblank ih => exact ih (forall_mem_cons_not_blank hblank hc) h

theorem wordsFrom_append {w : List Char} (h : ∀ c ∈ w, isBlank c = false) (current s : List Char) :
    wordsFrom current (w ++ s) = wordsFrom (w.reverse ++ current) s := by
  induction w generalizing current with
  | nil => rfl
  | cons c w ih =>
    rw [List.cons_append, wordsFrom, if_neg (by simp [h c])]
    rw [ih (fun d hd => h d (List.mem_cons_of_mem c hd))]
    simp

/-- A blank ends a word, and what comes after it has its own words. -/
theorem wordsFrom_append_blank {c : Char} (hc : isBlank c = true) (current s t : List Char) :
    wordsFrom current (s ++ c :: t) = wordsFrom current s ++ wordsChars t := by
  fun_induction wordsFrom current s with
  | case1 current hnil =>
    rw [List.nil_append, wordsFrom, if_pos hc, if_pos hnil]
    rfl
  | case2 current hne =>
    rw [List.nil_append, wordsFrom, if_pos hc, if_neg hne]
    rfl
  | case3 current d s hblank hnil ih =>
    rw [List.cons_append, wordsFrom, if_pos hblank, if_pos hnil, ih]
  | case4 current d s hblank hne ih =>
    rw [List.cons_append, wordsFrom, if_pos hblank, if_neg hne, ih, List.cons_append]
  | case5 current d s hblank ih => rw [List.cons_append, wordsFrom, if_neg hblank, ih]

/-- The words of texts with single spaces between them are those of each text. -/
theorem wordsChars_intercalate (ss : List (List Char)) :
    wordsChars ([' '].intercalate ss) = ss.flatMap wordsChars := by
  have hspace : isBlank ' ' = true := by decide
  induction ss with
  | nil => rfl
  | cons s ss ih =>
    rcases ss with _ | ⟨t, ss⟩
    · rw [List.intercalate_singleton, List.flatMap_singleton]
    · rw [List.intercalate_cons_cons, List.append_assoc, List.singleton_append, wordsChars,
        wordsFrom_append_blank hspace, ih, List.flatMap_cons]
      rfl

theorem wordsChars_of_isWord {w : List Char} (h : IsWord w) : wordsChars w = [w] := by
  have hword := wordsFrom_append h.2 [] []
  rw [List.append_nil, List.append_nil] at hword
  rw [wordsChars, hword, wordsFrom, if_neg (by simpa using h.1), List.reverse_reverse]

/-- The words of texts that are joined are those of each text. -/
theorem words_unwords (ss : List String) : words (unwords ss) = ss.flatMap words := by
  have hlist : (unwords ss).toList = [' '].intercalate (ss.map String.toList) :=
    String.toList_intercalate
  rw [words, hlist, wordsChars_intercalate, List.map_flatMap, List.flatMap_map]
  rfl

theorem words_of_mem_words {s w : String} (h : w ∈ words s) : words w = [w] := by
  obtain ⟨v, hv, rfl⟩ := List.mem_map.mp h
  have hword : IsWord v := isWord_of_mem_wordsFrom (by simp) hv
  rw [words, String.toList_ofList, wordsChars_of_isWord hword, List.map_singleton]

/-- The words of a text are the same after they were joined. -/
theorem words_unwords_words (s : String) : words (unwords (words s)) = words s := by
  calc words (unwords (words s)) = (words s).flatMap words := words_unwords _
    _ = (words s).flatMap fun w => [w] := List.flatMap_congr fun _ hw => words_of_mem_words hw
    _ = words s := List.flatMap_singleton' _

/-! ### Blanks at the ends -/

theorem dropWhile_of_forall {s : List Char} (h : ∀ c ∈ s, isBlank c = false) :
    s.dropWhile isBlank = s := by
  cases s with
  | nil => rfl
  | cons c s => exact List.dropWhile_cons_of_neg (by simp [h c])

theorem reverse_dropWhile_of_forall {s : List Char} (h : ∀ c ∈ s, isBlank c = false) :
    (s.reverse.dropWhile isBlank).reverse = s := by
  rw [dropWhile_of_forall fun c hc => h c (List.mem_reverse.mp hc), List.reverse_reverse]

theorem trim_of_forall {s : String} (h : ∀ c ∈ s.toList, isBlank c = false) : trim s = s := by
  rw [trim, trimChars, dropWhile_of_forall h, reverse_dropWhile_of_forall h, String.ofList_toList]

theorem wordsFrom_ne_nil {current : List Char} (h : current ≠ []) (s : List Char) :
    wordsFrom current s ≠ [] := by
  fun_induction wordsFrom current s with
  | case1 current hnil => exact absurd (List.isEmpty_iff.mp hnil) h
  | case2 => exact List.cons_ne_nil _ _
  | case3 current c s hblank hnil ih => exact absurd (List.isEmpty_iff.mp hnil) h
  | case4 => exact List.cons_ne_nil _ _
  | case5 current c s hblank ih => exact ih (List.cons_ne_nil _ _)

theorem wordsChars_cons_blank {c : Char} (hc : isBlank c = true) (s : List Char) :
    wordsChars (c :: s) = wordsChars s :=
  wordsFrom_append_blank hc [] [] s

/-- A text without words has blanks alone. -/
theorem wordsChars_eq_nil_iff {s : List Char} :
    wordsChars s = [] ↔ ∀ c ∈ s, isBlank c = true := by
  induction s with
  | nil => exact ⟨fun _ => nofun, fun _ => rfl⟩
  | cons c s ih =>
    rw [List.forall_mem_cons]
    cases hc : isBlank c with
    | true => rw [wordsChars_cons_blank hc, ih, and_iff_right rfl]
    | false =>
      rw [wordsChars, wordsFrom, if_neg (by simp [hc])]
      exact ⟨fun h => absurd h (wordsFrom_ne_nil (List.cons_ne_nil _ _) s), fun h => nomatch h.1⟩

theorem wordsChars_append_blanks {t : List Char} (ht : ∀ c ∈ t, isBlank c = true)
    (s : List Char) : wordsChars (s ++ t) = wordsChars s := by
  cases t with
  | nil => rw [List.append_nil]
  | cons c t =>
    obtain ⟨hc, ht⟩ := List.forall_mem_cons.mp ht
    rw [wordsChars, wordsFrom_append_blank hc, wordsChars_eq_nil_iff.mpr ht, List.append_nil]
    rfl

theorem wordsChars_dropWhile (s : List Char) :
    wordsChars (s.dropWhile isBlank) = wordsChars s := by
  induction s with
  | nil => rfl
  | cons c s ih =>
    rw [List.dropWhile_cons]
    split
    · rename_i hc
      rw [ih, wordsChars_cons_blank hc]
    · rfl

theorem wordsChars_trimChars (s : List Char) : wordsChars (trimChars s) = wordsChars s := by
  have hsplit : trimChars s ++ ((s.dropWhile isBlank).reverse.takeWhile isBlank).reverse
      = s.dropWhile isBlank := by
    rw [trimChars, ← List.reverse_append, List.takeWhile_append_dropWhile, List.reverse_reverse]
  have hblanks : ∀ c ∈ ((s.dropWhile isBlank).reverse.takeWhile isBlank).reverse,
      isBlank c = true :=
    fun c hc => List.mem_takeWhile_imp (List.mem_reverse.mp hc)
  rw [← wordsChars_dropWhile s, ← hsplit, wordsChars_append_blanks hblanks]

/-- Blanks at the ends of a text leave its words alone. -/
theorem words_trim (s : String) : words (trim s) = words s := by
  rw [words, trim, String.toList_ofList, wordsChars_trimChars, words]

theorem trim_eq_empty_iff {s : String} : trim s = "" ↔ words s = [] := by
  constructor
  · intro h
    rw [← words_trim, h]
    rfl
  · intro h
    have hblank : ∀ c ∈ s.toList, isBlank c = true :=
      wordsChars_eq_nil_iff.mp (List.map_eq_nil_iff.mp h)
    have hnil : s.toList.dropWhile isBlank = [] := List.dropWhile_eq_nil_iff.mpr hblank
    rw [trim, trimChars, hnil]
    rfl

/-! ### What words are -/

/-- A text has these words, in this order, if it consists of them and of blanks around them. -/
inductive HasWords : List Char → List (List Char) → Prop
  | nil : HasWords [] []
  | blank {c : Char} {s : List Char} {ws : List (List Char)} (hc : isBlank c = true)
      (rest : HasWords s ws) : HasWords (c :: s) ws
  /-- Behind a word, the text ends or goes on with a blank. -/
  | word {w s : List Char} {ws : List (List Char)} (hw : IsWord w)
      (hs : ∀ c ∈ s.head?, isBlank c = true) (rest : HasWords s ws) : HasWords (w ++ s) (w :: ws)

theorem HasWords.wordsChars_eq {s : List Char} {ws : List (List Char)} (h : HasWords s ws) :
    wordsChars s = ws := by
  induction h with
  | nil => rfl
  | blank hc _ ih => rw [wordsChars_cons_blank hc, ih]
  | @word w s ws hw hs _ ih =>
    cases s with
    | nil =>
      rw [List.append_nil, wordsChars_of_isWord hw, ← ih]
      rfl
    | cons c s =>
      have hc : isBlank c = true := hs c rfl
      rw [wordsChars_cons_blank hc] at ih
      rw [wordsChars, wordsFrom_append_blank hc, ← wordsChars, wordsChars_of_isWord hw, ih,
        List.singleton_append]

theorem hasWords_wordsFrom {current : List Char} (h : ∀ c ∈ current, isBlank c = false)
    (s : List Char) : HasWords (current.reverse ++ s) (wordsFrom current s) := by
  fun_induction wordsFrom current s with
  | case1 current hnil =>
    rw [List.isEmpty_iff.mp hnil]
    exact .nil
  | case2 current hne => exact .word (isWord_reverse hne h) (by simp) .nil
  | case3 current c s hblank hnil ih =>
    rw [List.isEmpty_iff.mp hnil]
    exact .blank hblank (ih (by simp))
  | case4 current c s hblank hne ih =>
    exact .word (isWord_reverse hne h) (by simpa using hblank) (.blank hblank (ih (by simp)))
  | case5 current c s hblank ih =>
    have hrest := ih (forall_mem_cons_not_blank hblank h)
    rwa [List.reverse_cons, List.append_assoc] at hrest

/-- The words of a text are the maximal runs of characters that are not blank. -/
theorem wordsChars_eq_iff {s : List Char} {ws : List (List Char)} :
    wordsChars s = ws ↔ HasWords s ws := by
  constructor
  · rintro rfl
    have hwords : HasWords ([].reverse ++ s) (wordsFrom [] s) := hasWords_wordsFrom (by simp) s
    exact hwords
  · exact HasWords.wordsChars_eq

end Text

end OpenIdProvider
