import OpenIdProvider.Json.Record

/-!
# Sets of texts

A finite set of texts, kept as a list in rising order of code points, so that
equal sets are equal values and a listing has one order.
-/

namespace OpenIdProvider

/-- A finite set of texts. -/
structure TextSet where
  /-- The members in rising order. -/
  items : List String
  sorted : items.Pairwise (· < ·)
  deriving DecidableEq

namespace TextSet

/-- The empty set. -/
def empty : TextSet := ⟨[], .nil⟩

instance : Inhabited TextSet := ⟨empty⟩

/-- Puts a text into its place in a rising list. -/
def place (s : String) : List String → List String
  | [] => [s]
  | t :: ts => if s < t then s :: t :: ts else if s = t then t :: ts else t :: place s ts

theorem mem_place {s t : String} {ts : List String} (h : t ∈ place s ts) : t = s ∨ t ∈ ts := by
  induction ts with
  | nil => simpa [place] using h
  | cons u us ih =>
    unfold place at h
    split at h
    · simpa using h
    · split at h
      · exact .inr h
      · rcases List.mem_cons.1 h with h | h
        · exact .inr (by simp [h])
        · exact (ih h).imp id (List.mem_cons_of_mem _)

theorem place_sorted (s : String) {ts : List String} (h : ts.Pairwise (· < ·)) :
    (place s ts).Pairwise (· < ·) := by
  induction ts with
  | nil => exact List.pairwise_singleton _ _
  | cons t ts ih =>
    have ⟨ht, hts⟩ := List.pairwise_cons.1 h
    unfold place
    split
    · next hlt =>
      refine List.pairwise_cons.2 ⟨fun u hu => ?_, h⟩
      rcases List.mem_cons.1 hu with rfl | hu
      · exact hlt
      · exact String.lt_trans hlt (ht u hu)
    · next hlt =>
      split
      · exact h
      · next hne =>
        refine List.pairwise_cons.2 ⟨fun u hu => ?_, ih hts⟩
        rcases mem_place hu with rfl | hu
        · exact Decidable.byContradiction fun hn =>
            hne (String.le_antisymm hn hlt)
        · exact ht u hu

/-- Adds a text to a set. -/
def insert (s : String) (x : TextSet) : TextSet :=
  ⟨place s x.items, place_sorted s x.sorted⟩

/-- The set of the texts of a list. -/
def ofList (ss : List String) : TextSet :=
  ss.foldr insert empty

/-- Whether a text is in a set. -/
def contains (x : TextSet) (s : String) : Bool :=
  x.items.contains s

/-- The JSON form of a set is an array. -/
def toJson (x : TextSet) : Json :=
  .ofTexts x.items

/-- Reads a set from an array, in which a text may stand more than once. -/
def ofJson? (j : Json) : Option TextSet :=
  (j.list? Json.text?).map ofList

end TextSet

end OpenIdProvider
