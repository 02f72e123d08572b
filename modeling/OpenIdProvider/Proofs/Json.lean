import OpenIdProvider.Json.Reader
import OpenIdProvider.Proofs.Text

/-!
# JSON that is read back

The compact text of a value is read as that value (`Json.parse?_render`). This holds
of the values that the provider writes (`Json.Writable`): their numbers are integers
of 64 bits, they hold nothing that cannot be read, and they are not nested too deep.

The leaves come first, each with any text after it: numbers (`number?_intChars`), then
strings (`stringBody?_quoted`), a character at a time. Containers follow by recursion
on the value, with the fuel of the reader bounded by the length of the text.

The bytes of a text are read as the text is (`Json.parseBytes?_ofString`), and a byte that
belongs to no character leaves a string that can only be skipped
(`Json.parseBytes?_malformed`).
-/

namespace OpenIdProvider.Json

/-! ## Numbers -/

/-- What may follow a number in a compact text: nothing, or a mark that ends an item. -/
def EndsValue (rest : List Char) : Prop :=
  ∀ c ∈ rest.head?, c = ',' ∨ c = ']' ∨ c = '\x7d'

theorem takeDigits_digits (n : Nat) {rest : List Char} (h : EndsValue rest) :
    takeDigits (Decimal.digits n ++ rest) = (Decimal.digits n, rest) := by
  have hd : ∀ c ∈ Decimal.digits n, Decimal.isDigit c = true :=
    fun c hc => Decimal.isDigit_of_mem_digits hc
  have hr : rest.takeWhile Decimal.isDigit = [] ∧ rest.dropWhile Decimal.isDigit = rest := by
    cases rest with
    | nil => exact ⟨rfl, rfl⟩
    | cons c r =>
      have hc : Decimal.isDigit c = false := by
        rcases h c rfl with rfl | rfl | rfl <;> decide
      simp [hc]
  rw [takeDigits, List.takeWhile_append_of_pos hd, List.dropWhile_append_of_pos hd, hr.1, hr.2,
    List.append_nil]

theorem wholePart?_digits (n : Nat) {rest : List Char} (h : EndsValue rest) :
    wholePart? (Decimal.digits n ++ rest) = some (Decimal.digits n, rest) := by
  rw [wholePart?, takeDigits_digits n h]
  split
  · rename_i he
    exact absurd (Prod.mk.inj he).1 (Decimal.digits_ne_nil n)
  · rename_i he
    have h0 := (Prod.mk.inj he).1
    rw [Decimal.digits_zero_cons h0] at h0
    simp [Decimal.digits, Decimal.digit] at h0
  · rfl

theorem magnitude?_digits {negative : Bool} {m : Nat} {n : Int}
    (hm : (if negative then -(m : Int) else m) = n) (hz : (negative && m == 0) = false)
    (hn : isWord n = true) {rest : List Char} (h : EndsValue rest) :
    magnitude? negative (Decimal.digits m ++ rest) = some (integer n, rest) := by
  have hfraction : fractionPart? rest = some ([], rest) := by
    cases rest with
    | nil => rfl
    | cons c r => rcases h c rfl with rfl | rfl | rfl <;> rfl
  have hexponent : exponentPart? rest = some ([], 0, rest) := by
    cases rest with
    | nil => rfl
    | cons c r => rcases h c rfl with rfl | rfl | rfl <;> rfl
  simp only [magnitude?, wholePart?_digits _ h, hfraction, hexponent, Option.bind_eq_bind,
    Option.bind_some, List.append_nil, Decimal.value_digits, List.isEmpty_nil, Bool.true_and, hm,
    hn, hz, Bool.not_false, Option.pure_def, if_true]

theorem number?_intChars {n : Int} (hn : isWord n = true) {rest : List Char} (h : EndsValue rest) :
    number? (Decimal.intChars n ++ rest) = some (integer n, rest) := by
  by_cases hneg : n < 0
  · rw [Decimal.intChars, if_pos hneg, List.cons_append, number?]
    exact magnitude?_digits (by rw [if_pos rfl]; omega) (by simp; omega) hn h
  · rw [Decimal.intChars, if_neg hneg, number?]
    · exact magnitude?_digits (by simp; omega) rfl hn h
    · intro r hr
      cases hd : Decimal.digits n.natAbs with
      | nil => exact Decimal.digits_ne_nil _ hd
      | cons c ds =>
        have hc := Decimal.isDigit_of_mem_digits (n := n.natAbs) (c := c) (by simp [hd])
        rw [hd, List.cons_append] at hr
        rw [(List.cons.inj hr).1] at hc
        revert hc
        decide

/-! ## Strings -/

/-- A piece that stands for a character whatever comes after it. -/
def Piece.StandsFor (c : Char) : Piece → Prop
  | .char d => d = c
  | .unit n => n = c.toNat ∧ n < 0xD800

theorem joinPieces?_unit {m : Nat} (hhigh : isHighUnit m = false) (hlow : isLowUnit m = false)
    (ps : List Piece) : joinPieces? (.unit m :: ps) = (joinPieces? ps).map (Char.ofNat m :: ·) := by
  rcases ps with _ | ⟨_ | _, ps⟩ <;> simp [joinPieces?, hhigh, hlow]

theorem joinPieces?_cons {q : Piece} {c : Char} (h : q.StandsFor c) (ps : List Piece) :
    joinPieces? (q :: ps) = (joinPieces? ps).map (c :: ·) := by
  cases q with
  | char d =>
    obtain rfl : d = c := h
    rw [joinPieces?]
  | unit n =>
    obtain ⟨rfl, hn⟩ := h
    have hhigh : isHighUnit c.toNat = false := by simp [isHighUnit]; omega
    have hlow : isLowUnit c.toNat = false := by simp [isLowUnit]; omega
    rw [joinPieces?_unit hhigh hlow, Char.ofNat_toNat]

theorem pieces_shortEscape {e c : Char} (h : shortEscape? e = some c) (acc : List Piece)
    (r : List Char) : pieces acc ('\\' :: e :: r) = pieces (.char c :: acc) r := by
  rw [pieces, h]
  intro a b c d t he
  subst he
  simp [shortEscape?] at h

/-- A written character is read as a piece that stands for it. -/
theorem exists_piece_charCode (c : Char) :
    ∃ q : Piece, q.StandsFor c ∧ ∀ acc r, pieces acc (charCode c ++ r) = pieces (q :: acc) r := by
  have hshort : ∀ e, shortEscape? e = some c → charCode c = ['\\', e] →
      ∃ q : Piece, q.StandsFor c ∧ ∀ acc r, pieces acc (charCode c ++ r) = pieces (q :: acc) r :=
    fun e he hc => ⟨.char c, rfl, fun acc r => by
      rw [hc, List.cons_append, List.cons_append, List.nil_append, pieces_shortEscape he]⟩
  by_cases h₁ : c = '"'
  · exact hshort '"' (by subst h₁; rfl) (by subst h₁; rfl)
  by_cases h₂ : c = '\\'
  · exact hshort '\\' (by subst h₂; rfl) (by subst h₂; rfl)
  by_cases h₃ : c = '\n'
  · exact hshort 'n' (by subst h₃; rfl) (by subst h₃; rfl)
  by_cases h₄ : c = '\r'
  · exact hshort 'r' (by subst h₄; rfl) (by subst h₄; rfl)
  by_cases h₅ : c = '\t'
  · exact hshort 't' (by subst h₅; rfl) (by subst h₅; rfl)
  by_cases h₆ : c = '\x08'
  · exact hshort 'b' (by subst h₆; rfl) (by subst h₆; rfl)
  by_cases h₇ : c = '\x0c'
  · exact hshort 'f' (by subst h₇; rfl) (by subst h₇; rfl)
  simp only [charCode, h₁, h₂, h₃, h₄, h₅, h₆, h₇, if_false]
  by_cases hlow : c.toNat < 32
  · refine ⟨.unit c.toNat, ⟨rfl, by omega⟩, fun acc r => ?_⟩
    have hz : Hex.value? '0' = some 0 := by decide
    have hhigh := Hex.value?_digit (n := c.toNat / 16) (by omega)
    have hrest := Hex.value?_digit (n := c.toNat % 16) (by omega)
    rw [if_pos hlow]
    simp only [List.cons_append, List.nil_append, pieces, hz, hhigh, hrest]
    rw [show ((0 * 16 + 0) * 16 + c.toNat / 16) * 16 + c.toNat % 16 = c.toNat by omega]
  · refine ⟨.char c, rfl, fun acc r => ?_⟩
    rw [if_neg hlow, List.cons_append, List.nil_append, pieces]
    · simp [hlow, h₂]
    · exact h₁
    · intro a b c d t he _
      exact h₂ he
    · intro e t he _
      exact h₂ he

/-- A written text is read as pieces that join to it. -/
theorem exists_pieces_flatMap (s : List Char) :
    ∃ ps, joinPieces? ps = some s ∧
      ∀ acc r, pieces acc (s.flatMap charCode ++ r) = pieces (ps.reverse ++ acc) r := by
  induction s with
  | nil => exact ⟨[], by rw [joinPieces?], fun _ _ => rfl⟩
  | cons c s ih =>
    obtain ⟨ps, hps, hread⟩ := ih
    obtain ⟨q, hq, hc⟩ := exists_piece_charCode c
    refine ⟨q :: ps, by rw [joinPieces?_cons hq, hps, Option.map_some], fun acc r => ?_⟩
    rw [List.flatMap_cons, List.append_assoc, hc, hread, List.reverse_cons, List.append_assoc,
      List.singleton_append]

/-- A string is read back from the text after its opening quote. -/
theorem stringBody?_quoted (s : String) (rest : List Char) :
    stringBody? (s.toList.flatMap charCode ++ '"' :: rest) = some (some s, rest) := by
  obtain ⟨ps, hps, hread⟩ := exists_pieces_flatMap s.toList
  simp only [stringBody?, hread, pieces, Option.map_some, List.append_nil, List.reverse_reverse,
    hps, String.ofList_toList]

/-! ## Malformed bytes -/

/-- Pieces that join to a text do so whatever pieces come after them. -/
theorem joinPieces?_append {ps : List Piece} {s : List Char} (h : joinPieces? ps = some s)
    (qs : List Piece) : joinPieces? (ps ++ qs) = (joinPieces? qs).map (s ++ ·) := by
  have hunit {m : Nat} {r : List Piece} {u : List Char} (hhigh : ¬isHighUnit m = true)
      (hlow : ¬isLowUnit m = true)
      (ih : ∀ t, joinPieces? r = some t → joinPieces? (r ++ qs) = (joinPieces? qs).map (t ++ ·))
      (h : (joinPieces? r).map (Char.ofNat m :: ·) = some u) :
      joinPieces? (.unit m :: r ++ qs) = (joinPieces? qs).map (u ++ ·) := by
    obtain ⟨t, ht, rfl⟩ := Option.map_eq_some_iff.mp h
    rw [List.cons_append, joinPieces?_unit (Bool.eq_false_iff.mpr hhigh)
      (Bool.eq_false_iff.mpr hlow), ih t ht, Option.map_map]
    rfl
  fun_induction joinPieces? ps generalizing s with
  | case1 =>
    obtain rfl := Option.some.inj h
    simp
  | case2 c r ih =>
    obtain ⟨t, ht, rfl⟩ := Option.map_eq_some_iff.mp h
    rw [List.cons_append, joinPieces?, ih ht, Option.map_map]
    rfl
  | case3 m n r hhigh hlow ih =>
    obtain ⟨t, ht, rfl⟩ := Option.map_eq_some_iff.mp h
    rw [List.cons_append, List.cons_append, joinPieces?, if_pos hhigh, if_pos hlow, ih ht,
      Option.map_map]
    rfl
  | case4 m n r hhigh hlow => cases h
  | case5 m n r hhigh hlow => cases h
  | case6 m n r hhigh hlow ih => exact hunit hhigh hlow (fun _ => ih) h
  | case7 m r hr hsurrogate => cases h
  | case8 m r hr hsurrogate ih =>
    rw [Bool.or_eq_true, not_or] at hsurrogate
    exact hunit hsurrogate.1 hsurrogate.2 (fun _ => ih) h

/-- A string with a malformed byte ends at its closing quote, and cannot be read. -/
theorem stringBody?_malformedByte (s t rest : List Char) :
    stringBody? (s.flatMap charCode ++ (malformedByte ++ (t.flatMap charCode ++ '"' :: rest)))
      = some (none, rest) := by
  obtain ⟨ps, hps, hs⟩ := exists_pieces_flatMap s
  obtain ⟨qs, hqs, ht⟩ := exists_pieces_flatMap t
  have hmark (acc : List Piece) (r : List Char) :
      pieces acc (malformedByte ++ r) = pieces (.unit 0xDC00 :: .char '\uFFFD' :: acc) r := rfl
  have hhalf : joinPieces? (.char '\uFFFD' :: .unit 0xDC00 :: qs) = none := by
    rw [joinPieces?]
    rcases qs with _ | ⟨_ | _, qs⟩ <;> rfl
  have hjoin := joinPieces?_append hps (.char '\uFFFD' :: .unit 0xDC00 :: qs)
  rw [hhalf, Option.map_none] at hjoin
  rw [stringBody?, hs, hmark, ht, pieces, Option.map_some]
  simp [hjoin]

/-! ## Values -/

mutual

/-- Whether a value is read back when `room` containers may be nested in its place:
all its numbers are integers of 64 bits, and nothing in it is unreadable. -/
def Writable (room : Nat) : Json → Prop
  | integer n => isWord n = true
  | array vs => 0 < room ∧ ItemsWritable (room - 1) vs
  | object ms => 0 < room ∧ MembersWritable (room - 1) ms
  | decimal _ => False
  | unreadable _ => False
  | _ => True

/-- Whether items are read back. -/
def ItemsWritable (room : Nat) : List Json → Prop
  | [] => True
  | v :: vs => Writable room v ∧ ItemsWritable room vs

/-- Whether members are read back. -/
def MembersWritable (room : Nat) : List (String × Json) → Prop
  | [] => True
  | (_, v) :: ms => Writable room v ∧ MembersWritable room ms

end

mutual

/-- What can be written can be read. -/
theorem isReadable_of_writable {room : Nat} (j : Json) (h : Writable room j) :
    j.isReadable = true := by
  match j with
  | array vs =>
    rw [Writable] at h
    rw [isReadable, itemsReadable_of_writable vs h.2]
  | object ms =>
    rw [Writable] at h
    rw [isReadable, membersReadable_of_writable ms h.2]
  | unreadable _ => exact absurd h (by simp [Writable])
  | null | bool _ | integer _ | decimal _ | string _ => rfl

theorem itemsReadable_of_writable {room : Nat} (vs : List Json) (h : ItemsWritable room vs) :
    itemsReadable vs = true := by
  match vs with
  | [] => rfl
  | v :: vs =>
    rw [itemsReadable, isReadable_of_writable v h.1, itemsReadable_of_writable vs h.2,
      Bool.and_self]

theorem membersReadable_of_writable {room : Nat} (ms : List (String × Json))
    (h : MembersWritable room ms) : membersReadable ms = true := by
  match ms with
  | [] => rfl
  | (_, v) :: ms =>
    rw [membersReadable, isReadable_of_writable v h.1, membersReadable_of_writable ms h.2,
      Bool.and_self]

end

theorem EndsValue.of_mark {c : Char} (r : List Char) (h : c = ',' ∨ c = ']' ∨ c = '\x7d') :
    EndsValue (c :: r) :=
  fun d hd => by rw [List.head?_cons, Option.mem_some_iff] at hd; exact hd ▸ h

/-- The characters that are skipped between the parts of a text. -/
def blanks : List Char :=
  [' ', '\n', '\r', '\t']

theorem skipBlanks_cons {c : Char} (r : List Char) (h : c ∉ blanks) :
    skipBlanks (c :: r) = c :: r := by
  simp only [blanks, List.mem_cons, List.not_mem_nil, or_false, not_or] at h
  simp [skipBlanks, h]

/-- What begins something other than a number is no digit. -/
theorem isDigit_of_begins {c : Char} (h : c ∈ blanks ++ ['n', 't', 'f', '"', '[', '\x7b']) :
    Decimal.isDigit c = false := by
  have hall : ((blanks ++ ['n', 't', 'f', '"', '[', '\x7b']).all
      fun b => !Decimal.isDigit b) = true := by decide
  simpa using List.all_eq_true.mp hall c h

/-- A written value begins with no blank and no closing bracket. -/
theorem exists_chars_cons {room : Nat} {j : Json} (h : Writable room j) :
    ∃ c r, j.chars = c :: r ∧ c ∉ blanks ∧ c ≠ ']' := by
  cases j with
  | null => exact ⟨'n', _, rfl, by decide, by decide⟩
  | bool b =>
    cases b
    · exact ⟨'f', _, rfl, by decide, by decide⟩
    · exact ⟨'t', _, rfl, by decide, by decide⟩
  | integer n =>
    obtain ⟨c, r, hc, rfl | hd⟩ := Decimal.exists_intChars_cons n
    · exact ⟨_, r, hc, by decide, by decide⟩
    · refine ⟨c, r, hc, fun hb => ?_, fun hb => ?_⟩
      · rw [isDigit_of_begins (List.mem_append_left _ hb)] at hd
        cases hd
      · rw [hb] at hd
        exact absurd hd (by decide)
  | decimal _ => exact absurd h (by simp [Writable])
  | string s => exact ⟨'"', _, rfl, by decide, by decide⟩
  | array vs => cases vs <;> exact ⟨'[', _, by rw [chars], by decide, by decide⟩
  | object ms =>
    rcases ms with _ | ⟨⟨k, v⟩, ms⟩ <;> exact ⟨'\x7b', _, by rw [chars], by decide, by decide⟩
  | unreadable _ => exact absurd h (by simp [Writable])

theorem itemsChars_ends (vs : List Json) (rest : List Char) :
    EndsValue (itemsChars vs ++ rest) := by
  cases vs with
  | nil => exact .of_mark rest (.inr (.inl rfl))
  | cons v vs => exact .of_mark _ (.inl rfl)

theorem membersChars_ends (ms : List (String × Json)) (rest : List Char) :
    EndsValue (membersChars ms ++ rest) := by
  cases ms with
  | nil => exact .of_mark rest (.inr (.inr rfl))
  | cons m ms => exact .of_mark _ (.inl rfl)

theorem ofMembers_some (ms : List (String × Json)) :
    ofMembers (ms.map fun m => (some m.1, m.2)) = .object ms := by
  have h : (ms.map fun m => (some m.1, m.2)).mapM (m := Option)
      (fun m => m.1.map (·, m.2)) = some ms := by
    induction ms with
    | nil => rfl
    | cons m ms ih =>
      rw [List.map_cons, List.mapM_cons, ih]
      rfl
  rw [ofMembers, h]

theorem atDepth_of_room {depth room : Nat} (h : depth + room = maxDepth) (hr : 0 < room)
    (j : Json) : atDepth (depth + 1) j = j :=
  if_neg (by omega)

theorem value?_intChars {n : Int} (hn : isWord n = true) (fuel depth : Nat) {rest : List Char}
    (h : EndsValue rest) :
    value? (fuel + 1) depth (Decimal.intChars n ++ rest) = some (.integer n, rest) := by
  obtain ⟨c, r, hc, hd⟩ := Decimal.exists_intChars_cons n
  have hne : c ∉ blanks ++ ['n', 't', 'f', '"', '[', '\x7b'] := by
    intro hm
    rcases hd with rfl | hd
    · exact absurd hm (by decide)
    · rw [isDigit_of_begins hm] at hd
      cases hd
  have hnum := number?_intChars hn h
  rw [hc, List.cons_append] at hnum ⊢
  rw [value?, skipBlanks_cons _ fun hb => hne (List.mem_append_left _ hb)]
  simp only [List.mem_append, List.mem_cons, not_or] at hne
  split <;> simp_all

/-- The text of items after the opening bracket, if there are any. -/
def itemsText : List Json → List Char
  | [] => []
  | v :: vs => chars v ++ itemsChars vs

/-- The text of members after the opening brace, if there are any. -/
def membersText : List (String × Json) → List Char
  | [] => []
  | (k, v) :: ms => quoted k ++ ':' :: (chars v ++ membersChars ms)

mutual

/-- A written value is read back, in front of any text that may follow a value. -/
theorem value?_chars {room depth : Nat} (fuel : Nat) (hroom : depth + room = maxDepth) (j : Json)
    (hj : Writable room j) (hfuel : 2 * j.chars.length ≤ fuel) {rest : List Char}
    (hrest : EndsValue rest) : value? fuel depth (j.chars ++ rest) = some (j, rest) := by
  obtain ⟨c, r, hc, -⟩ := exists_chars_cons hj
  obtain ⟨fuel, rfl⟩ : ∃ f, fuel = f + 1 :=
    ⟨fuel - 1, by rw [hc, List.length_cons] at hfuel; omega⟩
  clear hc
  match j with
  | null => rfl
  | bool true => rfl
  | bool false => rfl
  | integer n => exact value?_intChars hj fuel depth hrest
  | string s =>
    rw [chars, quoted, List.cons_append, List.cons_append, value?, skipBlanks_cons _ (by decide)]
    simp only [List.append_assoc, List.singleton_append, stringBody?_quoted, Option.map_some,
      Option.elim]
  | array [] =>
    rw [Writable] at hj
    rw [chars, List.cons_append, List.cons_append, value?, skipBlanks_cons _ (by decide)]
    simp only [skipBlanks_cons _ (show ']' ∉ blanks by decide), atDepth_of_room hroom hj.1,
      List.nil_append]
  | array (v :: vs) =>
    rw [Writable] at hj
    have hitems := items?_itemsText fuel (show depth + 1 + (room - 1) = maxDepth by omega) v vs
      hj.2 (by rw [chars, List.length_cons] at hfuel; rw [itemsText]; omega) rest
    obtain ⟨c, r, hc, hblank, hclose⟩ := exists_chars_cons hj.2.1
    rw [itemsText, hc, List.cons_append, List.cons_append] at hitems
    rw [chars, List.cons_append, value?, skipBlanks_cons _ (by decide), hc, List.cons_append]
    simp only [List.cons_append, skipBlanks_cons _ hblank]
    split
    · rename_i h
      exact absurd (List.cons.inj h).1 hclose
    · rw [hitems, Option.map_some, atDepth_of_room hroom hj.1]
  | object [] =>
    rw [Writable] at hj
    rw [chars, List.cons_append, List.cons_append, value?, skipBlanks_cons _ (by decide)]
    simp only [skipBlanks_cons _ (show '\x7d' ∉ blanks by decide), atDepth_of_room hroom hj.1,
      List.nil_append]
  | object ((k, v) :: ms) =>
    rw [Writable] at hj
    have hmembers := members?_membersText fuel (show depth + 1 + (room - 1) = maxDepth by omega) k
      v ms hj.2 (by rw [chars, List.length_cons] at hfuel; rw [membersText]; omega) rest
    rw [membersText, quoted, List.cons_append, List.cons_append, List.cons_append] at hmembers
    rw [chars, quoted, List.cons_append, List.cons_append, List.cons_append, List.cons_append,
      value?, skipBlanks_cons _ (by decide)]
    simp only [skipBlanks_cons _ (show '"' ∉ blanks by decide)]
    split
    · rename_i h
      exact absurd (List.cons.inj h).1 (by decide)
    · rw [hmembers, Option.map_some, ofMembers_some, atDepth_of_room hroom hj.1]
  | decimal _ => exact absurd hj (by simp [Writable])
  | unreadable _ => exact absurd hj (by simp [Writable])

/-- Written items are read back, with their closing bracket. -/
theorem items?_itemsText {room depth : Nat} (fuel : Nat) (hroom : depth + room = maxDepth)
    (v : Json) (vs : List Json) (hvs : ItemsWritable room (v :: vs))
    (hfuel : 2 * (itemsText (v :: vs)).length + 1 ≤ fuel) (rest : List Char) :
    items? fuel depth (itemsText (v :: vs) ++ rest) = some (v :: vs, rest) := by
  rw [ItemsWritable] at hvs
  obtain ⟨fuel, rfl⟩ : ∃ f, fuel = f + 1 := ⟨fuel - 1, by omega⟩
  rw [itemsText, List.length_append] at hfuel
  have hv := value?_chars fuel hroom v hvs.1 (by omega) (itemsChars_ends vs rest)
  rw [itemsText, List.append_assoc, items?, hv]
  match vs with
  | [] =>
    simp only [itemsChars, List.cons_append, List.nil_append,
      skipBlanks_cons _ (show ']' ∉ blanks by decide)]
  | w :: vs =>
    obtain ⟨c, r, hc, -⟩ := exists_chars_cons hvs.1
    have hlen : (itemsChars (w :: vs)).length = (itemsText (w :: vs)).length + 1 := by
      rw [itemsChars, itemsText, List.length_cons]
    have hitems := items?_itemsText fuel hroom w vs hvs.2
      (by rw [hc, List.length_cons] at hfuel; omega) rest
    rw [itemsText] at hitems
    simp only [itemsChars, List.cons_append, skipBlanks_cons _ (show ',' ∉ blanks by decide),
      hitems, Option.map_some]

/-- Written members are read back, with their closing brace. -/
theorem members?_membersText {room depth : Nat} (fuel : Nat) (hroom : depth + room = maxDepth)
    (k : String) (v : Json) (ms : List (String × Json)) (hms : MembersWritable room ((k, v) :: ms))
    (hfuel : 2 * (membersText ((k, v) :: ms)).length + 1 ≤ fuel) (rest : List Char) :
    members? fuel depth (membersText ((k, v) :: ms) ++ rest)
      = some (((k, v) :: ms).map fun m => (some m.1, m.2), rest) := by
  rw [MembersWritable] at hms
  obtain ⟨fuel, rfl⟩ : ∃ f, fuel = f + 1 := ⟨fuel - 1, by omega⟩
  rw [membersText, List.length_append, List.length_cons, List.length_append] at hfuel
  have hv := value?_chars fuel hroom v hms.1 (by omega) (membersChars_ends ms rest)
  rw [membersText, quoted, List.cons_append, List.cons_append, List.cons_append, members?,
    skipBlanks_cons _ (by decide)]
  simp only [List.append_assoc, List.cons_append, List.nil_append, stringBody?_quoted,
    skipBlanks_cons _ (show ':' ∉ blanks by decide), hv]
  match ms with
  | [] =>
    simp only [membersChars, List.cons_append, List.nil_append,
      skipBlanks_cons _ (show '\x7d' ∉ blanks by decide), List.map_cons, List.map_nil]
  | (l, w) :: ms =>
    have hlen : (membersChars ((l, w) :: ms)).length = (membersText ((l, w) :: ms)).length + 1 := by
      rw [membersChars, membersText, List.length_cons]
    have hmembers := members?_membersText fuel hroom l w ms hms.2 (by omega) rest
    rw [membersText, List.append_assoc] at hmembers
    simp only [membersChars, List.cons_append, List.append_assoc,
      skipBlanks_cons _ (show ',' ∉ blanks by decide)]
    simp only [List.cons_append, List.append_assoc] at hmembers
    rw [hmembers, Option.map_some, List.map_cons (l := _ :: _)]

end

/-- What is written is read back. -/
theorem parse?_render {j : Json} (h : Writable maxDepth j) : parse? j.render = some j := by
  have hread : value? (2 * j.chars.length + 2) 0 (j.chars ++ []) = some (j, []) :=
    value?_chars _ (Nat.zero_add _) j h (by omega) fun _ hc => by cases hc
  rw [List.append_nil] at hread
  rw [parse?, render, String.toList_ofList, parseChars?, hread]
  rfl

/-- The bytes of a text are read as the text is. -/
theorem parseBytes?_ofString (s : String) : parseBytes? (Utf8.ofString s) = parse? s := by
  rw [parseBytes?, Utf8.ofString, Utf8.decodeMarking_encode, parse?]

/-- A quoted text in which a byte belongs to no character is a value, but no reading accepts it. -/
theorem parseBytes?_malformed (s t : List Char) {b : UInt8}
    (hb : Utf8.head? (b :: Utf8.encode (t.flatMap charCode ++ ['"'])) = none) :
    parseBytes? (Utf8.encode ('"' :: s.flatMap charCode)
      ++ b :: Utf8.encode (t.flatMap charCode ++ ['"'])) = some (.unreadable true) := by
  have hmarked : Utf8.decodeMarking malformedByte (b :: Utf8.encode (t.flatMap charCode ++ ['"']))
      = malformedByte ++ (t.flatMap charCode ++ ['"']) := by
    rw [Utf8.decodeMarking, hb]
    dsimp only
    rw [Utf8.decodeMarking_encode]
  have hbody := stringBody?_malformedByte s t []
  rw [parseBytes?, Utf8.decodeMarking_append, hmarked, List.cons_append, parseChars?, value?,
    skipBlanks_cons _ (by decide)]
  simp only [hbody, Option.map_some, Option.elim_none]
  rfl

end OpenIdProvider.Json
