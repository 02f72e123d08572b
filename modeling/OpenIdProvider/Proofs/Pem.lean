import Mathlib.Data.List.Infix
import OpenIdProvider.Crypto.Pem
import OpenIdProvider.Proofs.Text

/-!
# Blocks of armoured texts

What it is for the lines of a text to hold blocks (`Pem.Holds`), and that the loose reading finds
just these blocks (`Pem.holds_iff`). Lines that hold blocks may follow one another
(`Pem.Holds.append_text`), and a block that is written is read back (`Pem.Block.holds_text`).
-/

namespace OpenIdProvider.Pem

variable {b : Block} {bs bs' : List Block} {broken : Bool} {l : List Char}
  {ls front rest : List (List Char)}

/-! ## What blocks are -/

/-- The lines of a block: an opening boundary with a name that ends at the first dashes, of which
the label is what stands before a dash, lines with base64 texts of its contents, where blanks at the
ends of lines do not count, and a closing boundary with any name. -/
inductive Block.Spelled (b : Block) : List (List Char) → Prop
  | intro {name more close : List Char} {body : List (List Char)}
      (named : ¬dashes <:+: name ++ dashes.tail)
      (label : b.label.toList = name.takeWhile (· ≠ '-'))
      (unclosed : ∀ l ∈ body, ¬closing <+: l) (closed : closing <+: close)
      (contents : Base64.decodeJoined? (body.flatMap trimEnd) = some b.contents) :
      Spelled b ((opening ++ (name ++ dashes ++ more)) :: body ++ [close])

/-- The blocks that some lines hold, up to the first broken one. Other lines may stand between
them. -/
inductive Holds : List (List Char) → List Block → (broken : Bool) → Prop
  | nil : Holds [] [] false
  | other {l : List Char} {ls : List (List Char)} {bs : List Block} {broken : Bool}
      (unopened : ¬opening <+: l) (more : Holds ls bs broken) : Holds (l :: ls) bs broken
  | block {b : Block} {front ls : List (List Char)} {bs : List Block} {broken : Bool}
      (spelled : b.Spelled front) (more : Holds ls bs broken) : Holds (front ++ ls) (b :: bs) broken
  | broken {l : List Char} {ls : List (List Char)} (opened : opening <+: l)
      (unspelled : ∀ (b : Block) (front rest : List (List Char)),
        b.Spelled front → l :: ls ≠ front ++ rest) : Holds (l :: ls) [] true

/-! ## One block -/

theorem append_dashes (s more : List Char) :
    s ++ dashes ++ more = s ++ dashes.tail ++ '-' :: more := by
  simp [dashes]

theorem untilDashes?_eq_some {s label : List Char} : untilDashes? s = some label ↔
    ¬dashes <:+: label ++ dashes.tail ∧ ∃ more, s = label ++ dashes ++ more := by
  have hshort : ¬dashes <:+: dashes.tail := fun h => absurd h.length_le (by decide)
  induction s generalizing label with
  | nil => simp [untilDashes?, dashes]
  | cons c r ih =>
    rw [untilDashes?]
    split
    · rename_i hfront
      obtain ⟨more, hmore⟩ := List.isPrefixOf_iff_prefix.mp hfront
      constructor
      · intro h
        obtain rfl := Option.some.inj h
        exact ⟨hshort, more, hmore.symm⟩
      · rintro ⟨hfirst, more', hs⟩
        -- The dashes at the front are not before those of a label, unless that is empty.
        cases label with
        | nil => rfl
        | cons d label =>
          refine absurd (List.IsPrefix.isInfix ?_) hfirst
          rw [append_dashes] at hs
          exact List.prefix_of_prefix_length_le (List.isPrefixOf_iff_prefix.mp hfront)
            ⟨'-' :: more', hs.symm⟩ (by simp [dashes])
    · rename_i hfront
      rw [Option.map_eq_some_iff]
      constructor
      · rintro ⟨label, hlabel, rfl⟩
        obtain ⟨hfirst, more, rfl⟩ := ih.mp hlabel
        refine ⟨fun hinfix => ?_, more, rfl⟩
        rcases List.infix_cons_iff.mp hinfix with hstart | hinfix
        · refine hfront (List.isPrefixOf_iff_prefix.mpr (hstart.trans ⟨'-' :: more, ?_⟩))
          rw [append_dashes]
          rfl
        · exact hfirst hinfix
      · rintro ⟨hfirst, more, hs⟩
        cases label with
        | nil =>
          exact absurd (List.isPrefixOf_iff_prefix.mpr ⟨more, hs.symm⟩) hfront
        | cons d label =>
          obtain ⟨rfl, rfl⟩ := List.cons.inj hs
          exact ⟨label, ih.mpr ⟨fun h => hfirst (List.infix_cons h), more, rfl⟩, rfl⟩

theorem blockBody?_eq_some {text : List Char} : blockBody? ls = some (text, rest) ↔
    ∃ body close, ls = body ++ close :: rest ∧ (∀ l ∈ body, ¬closing <+: l) ∧ closing <+: close ∧
      text = body.flatMap trimEnd := by
  induction ls generalizing text with
  | nil => simp [blockBody?]
  | cons l ls ih =>
    rw [blockBody?]
    split
    · rename_i hclose
      rw [List.isPrefixOf_iff_prefix] at hclose
      constructor
      · intro h
        obtain ⟨rfl, rfl⟩ := Prod.mk.inj (Option.some.inj h)
        exact ⟨[], l, rfl, nofun, hclose, rfl⟩
      · rintro ⟨body, close, hls, hopen, -, rfl⟩
        cases body with
        | nil =>
          obtain ⟨-, rfl⟩ := List.cons.inj hls
          rfl
        | cons d body =>
          obtain ⟨rfl, -⟩ := List.cons.inj hls
          exact absurd hclose (hopen _ List.mem_cons_self)
    · rename_i hclose
      rw [List.isPrefixOf_iff_prefix] at hclose
      rw [Option.map_eq_some_iff]
      constructor
      · rintro ⟨⟨text, rest⟩, hrest, h⟩
        obtain ⟨rfl, rfl⟩ := Prod.mk.inj h
        obtain ⟨body, close, rfl, hopen, hclosed, rfl⟩ := ih.mp hrest
        exact ⟨l :: body, close, rfl, List.forall_mem_cons.mpr ⟨hclose, hopen⟩, hclosed, rfl⟩
      · rintro ⟨body, close, hls, hopen, hclosed, rfl⟩
        cases body with
        | nil =>
          obtain ⟨rfl, -⟩ := List.cons.inj hls
          exact absurd hclosed hclose
        | cons d body =>
          obtain ⟨rfl, rfl⟩ := List.cons.inj hls
          exact ⟨_, ih.mpr ⟨body, close, rfl, (List.forall_mem_cons.mp hopen).2, hclosed, rfl⟩, rfl⟩

/-- A block that is found at a line stands there. -/
theorem blockAt?_eq_some (hl : opening <+: l) : blockAt? l ls = some (b, rest) ↔
    ∃ front, b.Spelled front ∧ l :: ls = front ++ rest := by
  obtain ⟨s, rfl⟩ := hl
  simp only [blockAt?, List.drop_left, Option.bind_eq_bind, Option.bind_eq_some_iff,
    Option.pure_def, Option.some.injEq, Prod.exists]
  constructor
  · rintro ⟨name, hname, text, rest, htext, contents, hcontents, h⟩
    obtain ⟨rfl, rfl⟩ := Prod.mk.inj h
    obtain ⟨hfirst, more, rfl⟩ := untilDashes?_eq_some.mp hname
    obtain ⟨body, close, rfl, hopen, hclosed, rfl⟩ := blockBody?_eq_some.mp htext
    exact ⟨(opening ++ (name ++ dashes ++ more)) :: body ++ [close],
      .intro hfirst String.toList_ofList hopen hclosed hcontents, by simp⟩
  · rintro ⟨front, @⟨name, more, close, body, hname, hlabel, hopen, hclosed, hcontents⟩, hls⟩
    obtain ⟨hs, rfl⟩ := List.cons.inj hls
    obtain rfl := List.append_cancel_left hs
    refine ⟨name, untilDashes?_eq_some.mpr ⟨hname, more, rfl⟩, _, rest,
      blockBody?_eq_some.mpr ⟨body, close, by simp, hopen, hclosed, rfl⟩, b.contents, hcontents, ?_⟩
    rw [← hlabel, String.ofList_toList]

/-! ## All blocks -/

theorem Block.Spelled.ne_nil (h : b.Spelled front) : front ≠ [] := by
  cases h
  exact List.cons_ne_nil _ _

/-- Lines hold the blocks that are found in them. -/
theorem holds_blocksOfLines {n : Nat} (hn : ls.length ≤ n) :
    Holds ls (blocksOfLines n ls).whole (blocksOfLines n ls).broken := by
  fun_induction blocksOfLines n ls with
  | case1 ls =>
    obtain rfl := List.length_eq_zero_iff.mp (Nat.le_zero.mp hn)
    exact .nil
  | case2 => exact .nil
  | case3 n l ls hopen hnone =>
    rw [List.isPrefixOf_iff_prefix] at hopen
    refine .broken hopen fun b front rest hspelled hls => ?_
    exact nomatch hnone.symm.trans ((blockAt?_eq_some hopen).mpr ⟨front, hspelled, hls⟩)
  | case4 n l ls hopen b rest hsome more ih =>
    rw [List.isPrefixOf_iff_prefix] at hopen
    obtain ⟨front, hspelled, hls⟩ := (blockAt?_eq_some hopen).mp hsome
    have hlength := congrArg List.length hls
    have hpos := List.length_pos_iff.mpr hspelled.ne_nil
    rw [List.length_append] at hlength
    rw [hls]
    exact .block hspelled (ih (by rw [List.length_cons] at hlength hn; omega))
  | case5 n l ls hother ih =>
    rw [List.isPrefixOf_iff_prefix] at hother
    exact .other hother (ih (Nat.le_of_succ_le_succ hn))

theorem Holds.blocksOfLines_eq (h : Holds ls bs broken) {n : Nat} (hn : ls.length ≤ n) :
    blocksOfLines n ls = ⟨bs, broken⟩ := by
  -- Each step takes a line at least, so the bound is not used up before the lines are.
  induction h generalizing n with
  | nil => cases n <;> rfl
  | @other l ls bs broken unopened more ih =>
    obtain ⟨n, rfl⟩ := Nat.exists_eq_succ_of_ne_zero (Nat.ne_zero_of_lt hn)
    rw [← List.isPrefixOf_iff_prefix] at unopened
    rw [blocksOfLines, if_neg unopened, ih (Nat.le_of_succ_le_succ hn)]
  | @block b front ls bs broken spelled more ih =>
    obtain ⟨l, front, rfl⟩ := List.exists_cons_of_ne_nil spelled.ne_nil
    obtain ⟨n, rfl⟩ := Nat.exists_eq_succ_of_ne_zero (Nat.ne_zero_of_lt hn)
    have hopen : opening <+: l := by
      cases spelled
      exact List.prefix_append _ _
    have hblock : blockAt? l (front ++ ls) = some (b, ls) :=
      (blockAt?_eq_some hopen).mpr ⟨l :: front, spelled, rfl⟩
    rw [← List.isPrefixOf_iff_prefix] at hopen
    rw [List.length_append, List.length_cons] at hn
    rw [List.cons_append, blocksOfLines, if_pos hopen, hblock]
    simp only [ih (show ls.length ≤ n by omega)]
  | @broken l ls opened unspelled =>
    obtain ⟨n, rfl⟩ := Nat.exists_eq_succ_of_ne_zero (Nat.ne_zero_of_lt hn)
    have hnone : blockAt? l ls = none := by
      cases hblock : blockAt? l ls with
      | none => rfl
      | some found =>
        obtain ⟨front, hspelled, hls⟩ := (blockAt?_eq_some opened).mp hblock
        exact absurd hls (unspelled _ _ _ hspelled)
    rw [← List.isPrefixOf_iff_prefix] at opened
    rw [blocksOfLines, if_pos opened, hnone]

/-- **Blocks.** The blocks of a text are those that its lines hold. -/
theorem holds_iff {s : String} :
    Holds (lines s.toList) bs broken ↔ blocks s = ⟨bs, broken⟩ := by
  constructor
  · exact fun h => h.blocksOfLines_eq (Nat.le_succ _)
  · intro h
    have hholds := holds_blocksOfLines (Nat.le_succ (lines s.toList).length)
    have hwhole : (blocks s).whole = bs := congrArg Blocks.whole h
    have hbroken : (blocks s).broken = broken := congrArg Blocks.broken h
    rw [← hwhole, ← hbroken]
    exact hholds

theorem holds_blocks (s : String) :
    Holds (lines s.toList) (blocks s).whole (blocks s).broken :=
  holds_iff.mpr rfl

/-- Whole blocks may go before other ones. -/
theorem Holds.append (h : Holds ls bs false) (h' : Holds rest bs' broken) :
    Holds (ls ++ rest) (bs ++ bs') broken := by
  generalize hwhole : false = whole at h
  induction h with
  | nil => exact h'
  | other unopened _ ih => exact .other unopened (ih hwhole)
  | block spelled _ ih =>
    rw [List.append_assoc]
    exact .block spelled (ih hwhole)
  | broken => cases hwhole

/-! ## Lines -/

/-- Whether a text is made of whole lines: it is empty, or ends with a line feed. -/
def IsWhole (s : List Char) : Prop :=
  ∀ c ∈ s.getLast?, c = '\n'

theorem lines_ne_nil {s : List Char} (h : s ≠ []) : lines s ≠ [] := by
  obtain ⟨c, s, rfl⟩ := List.exists_cons_of_ne_nil h
  rw [lines]
  split
  · exact List.cons_ne_nil _ _
  · split <;> exact List.cons_ne_nil _ _

/-- The lines of a text after whole lines are its own. -/
theorem lines_append {s : List Char} (h : IsWhole s) (t : List Char) :
    lines (s ++ t) = lines s ++ lines t := by
  induction s with
  | nil => rfl
  | cons c s ih =>
    rw [List.cons_append, lines, lines]
    cases s with
    | nil =>
      obtain rfl := h c rfl
      rfl
    | cons d s =>
      have hs : IsWhole (d :: s) := h
      rw [ih hs]
      split
      · rfl
      · obtain ⟨l, ls, hls⟩ := List.exists_cons_of_ne_nil (lines_ne_nil (List.cons_ne_nil d s))
        rw [hls]
        rfl

/-- The blocks of a text after whole lines are its own, if none of those before it is broken. -/
theorem Holds.append_text {s t : String} (h : Holds (lines s.toList) bs false)
    (hs : IsWhole s.toList) (h' : Holds (lines t.toList) bs' broken) :
    Holds (lines (s ++ t).toList) (bs ++ bs') broken := by
  rw [String.toList_append, lines_append hs]
  exact h.append h'

theorem lines_line {l : List Char} (h : '\n' ∉ l) (t : List Char) :
    lines (l ++ '\n' :: t) = l :: lines t := by
  induction l with
  | nil => rfl
  | cons c l ih =>
    have hc : c ≠ '\n' := fun heq => h (heq ▸ List.mem_cons_self)
    rw [List.cons_append, lines, if_neg hc, ih (List.not_mem_of_not_mem_cons h)]

theorem lines_flatMap (h : ∀ l ∈ ls, '\n' ∉ l) : lines (ls.flatMap (· ++ ['\n'])) = ls := by
  induction ls with
  | nil => rfl
  | cons l ls ih =>
    obtain ⟨hl, hls⟩ := List.forall_mem_cons.mp h
    rw [List.flatMap_cons, List.append_assoc, List.singleton_append, lines_line hl, ih hls]

/-! ## Written blocks -/

theorem flatten_wrap (s : List Char) : (wrap s).flatten = s := by
  fun_induction wrap s with
  | case1 s hnil => rw [List.isEmpty_iff.mp hnil, List.flatten_nil]
  | case2 s hne ih => rw [List.flatten_cons, ih, List.take_append_drop]

theorem mem_of_mem_wrap {s l : List Char} (h : l ∈ wrap s) : l ⊆ s := by
  intro c hc
  rw [← flatten_wrap s]
  exact List.mem_flatten.mpr ⟨l, h, hc⟩

/-- Whether the label of a block may stand in a boundary. -/
def Block.Writable (b : Block) : Prop :=
  '-' ∉ b.label.toList ∧ '\n' ∉ b.label.toList

/-- The lines of the text of a block. -/
def Block.textLines (b : Block) : List (List Char) :=
  (opening ++ b.label.toList ++ dashes) :: wrap (Base64.encodeChars b.contents)
    ++ [closing ++ b.label.toList ++ dashes]

theorem Block.toList_text (b : Block) : b.text.toList = b.textLines.flatMap (· ++ ['\n']) := by
  rw [text, String.toList_ofList]
  rfl

theorem not_infix_of_notMem {label : List Char} (h : '-' ∉ label) :
    ¬dashes <:+: label ++ dashes.tail := by
  intro hinfix
  induction label with
  | nil => exact absurd hinfix.length_le (by decide)
  | cons c label ih =>
    rcases List.infix_cons_iff.mp hinfix with hstart | hinfix
    · obtain ⟨more, hmore⟩ := hstart
      obtain ⟨rfl, -⟩ := List.cons.inj hmore
      exact h List.mem_cons_self
    · exact ih (List.not_mem_of_not_mem_cons h) hinfix

theorem Block.spelled_textLines (h : b.Writable) : b.Spelled b.textLines := by
  have hopen : ∀ l ∈ wrap (Base64.encodeChars b.contents), ¬closing <+: l := by
    intro l hl hclosing
    have hdash : '-' ∈ l := hclosing.subset (by decide)
    exact absurd (Base64.mem_characters (mem_of_mem_wrap hl hdash)) (by decide)
  have htrim : ∀ l ∈ wrap (Base64.encodeChars b.contents), trimEnd l = l :=
    fun l hl => Text.reverse_dropWhile_of_forall fun c hc =>
      Base64.isBlank_of_mem_characters c (Base64.mem_characters (mem_of_mem_wrap hl hc))
  have hbody : (wrap (Base64.encodeChars b.contents)).flatMap trimEnd
      = Base64.encodeChars b.contents := by
    rw [List.flatMap_congr htrim, List.flatMap_id', flatten_wrap]
  have hlabel : b.label.toList.takeWhile (· ≠ '-') = b.label.toList :=
    List.takeWhile_eq_self_iff.mpr fun c hc => decide_eq_true fun heq => h.1 (heq ▸ hc)
  have hspelled : b.Spelled ((opening ++ (b.label.toList ++ dashes ++ []))
      :: wrap (Base64.encodeChars b.contents) ++ [closing ++ b.label.toList ++ dashes]) :=
    .intro (not_infix_of_notMem h.1) hlabel.symm hopen (by simp)
      (by rw [hbody, Base64.decodeJoined?_encodeChars])
  rwa [List.append_nil, ← List.append_assoc] at hspelled

theorem Block.lines_text (h : b.Writable) : lines b.text.toList = b.textLines := by
  have hmark : ∀ front, '\n' ∉ front → '\n' ∉ front ++ b.label.toList ++ dashes := by
    intro front hfront hmem
    rw [List.mem_append, List.mem_append] at hmem
    rcases hmem with (hmem | hmem) | hmem
    · exact hfront hmem
    · exact h.2 hmem
    · exact absurd hmem (by decide)
  rw [toList_text]
  refine lines_flatMap fun l hl => ?_
  rw [textLines, List.mem_append, List.mem_cons, List.mem_singleton] at hl
  rcases hl with (rfl | hl) | rfl
  · exact hmark opening (by decide)
  · exact fun hmem => absurd (Base64.mem_characters (mem_of_mem_wrap hl hmem)) (by decide)
  · exact hmark closing (by decide)

theorem Block.isWhole_text (b : Block) : IsWhole b.text.toList := by
  rw [toList_text, textLines, List.flatMap_append, List.flatMap_singleton, ← List.append_assoc]
  intro c hc
  rw [List.getLast?_concat] at hc
  exact (Option.some.inj hc).symm

/-- A block is read back from its text. -/
theorem Block.holds_text (h : b.Writable) : Holds (lines b.text.toList) [b] false := by
  have hholds : Holds (b.textLines ++ []) [b] false := .block (b.spelled_textLines h) .nil
  rwa [lines_text h, ← List.append_nil b.textLines]

end OpenIdProvider.Pem
