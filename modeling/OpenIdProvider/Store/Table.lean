/-!
# Keyed tables

A table holds rows with distinct keys, in the order in which their keys came. Its
view is `get?`; each operation says what it does to the view:

* `get?_put`: a row that is put is found under its key, the others stay;
* `get?_erase`: an erased key is not found any more, the others stay;
* `get?_keep`: of the rows that are kept, each is found as before.
-/

namespace OpenIdProvider

variable {α κ : Type} [DecidableEq κ]

/-- A table of rows with distinct keys. -/
structure Table (key : α → κ) where
  rows : List α
  distinct : (rows.map key).Nodup

namespace Table

variable {key : α → κ}

/-- The table without rows. -/
def empty : Table key := ⟨[], .nil⟩

instance : Inhabited (Table key) := ⟨empty⟩

/-- The row of a key. -/
def get? (t : Table key) (k : κ) : Option α :=
  t.rows.find? fun a => key a = k

/-- Whether there is a row of a key. -/
def contains (t : Table key) (k : κ) : Bool :=
  (t.get? k).isSome

/-- The number of rows. -/
def size (t : Table key) : Nat :=
  t.rows.length

/-- The rows after a row took the place of that of its key, or went to the end. -/
def putRow (key : α → κ) (a : α) : List α → List α
  | [] => [a]
  | b :: r => if key b = key a then a :: r else b :: putRow key a r

theorem mem_map_putRow {a : α} {rows : List α} {k : κ} :
    k ∈ (putRow key a rows).map key ↔ k = key a ∨ k ∈ rows.map key := by
  induction rows with
  | nil => simp [putRow]
  | cons b r ih =>
    by_cases h : key b = key a
    · simp [putRow, h]
    · simp only [putRow, h, if_false, List.map_cons, List.mem_cons, ih]
      grind

theorem nodup_putRow {a : α} {rows : List α} (h : (rows.map key).Nodup) :
    ((putRow key a rows).map key).Nodup := by
  induction rows with
  | nil => simp [putRow]
  | cons b r ih =>
    simp only [List.map_cons, List.nodup_cons] at h
    by_cases hk : key b = key a
    · simp only [putRow, hk, if_true, List.map_cons, List.nodup_cons]
      exact ⟨hk ▸ h.1, h.2⟩
    · rw [putRow, if_neg hk, List.map_cons, List.nodup_cons, mem_map_putRow, not_or]
      exact ⟨⟨hk, h.1⟩, ih h.2⟩

/-- Puts a row in the place of that of its key, or at the end. -/
def put (t : Table key) (a : α) : Table key :=
  ⟨putRow key a t.rows, nodup_putRow t.distinct⟩

/-- Keeps the rows that satisfy a condition. -/
def keep (t : Table key) (p : α → Bool) : Table key :=
  ⟨t.rows.filter p, t.distinct.sublist (List.filter_sublist.map key)⟩

/-- Removes the row of a key. -/
def erase (t : Table key) (k : κ) : Table key :=
  t.keep fun a => key a ≠ k

/-! ## The view -/

theorem get?_empty (k : κ) : (empty : Table key).get? k = none := rfl

theorem key_of_get? {t : Table key} {k : κ} {a : α} (h : t.get? k = some a) : key a = k := by
  simpa using List.find?_some h

theorem mem_of_get? {t : Table key} {k : κ} {a : α} (h : t.get? k = some a) : a ∈ t.rows :=
  List.mem_of_find?_eq_some h

theorem find?_of_mem {a : α} {rows : List α} (distinct : (rows.map key).Nodup) (h : a ∈ rows) :
    (rows.find? fun b => key b = key a) = some a := by
  induction rows with
  | nil => simp at h
  | cons b r ih =>
    simp only [List.map_cons, List.nodup_cons] at distinct
    rcases List.mem_cons.mp h with rfl | hr
    · simp
    · have hb : key b ≠ key a := fun e => distinct.1 (e ▸ List.mem_map_of_mem hr)
      rw [List.find?_cons_of_neg (by simpa using hb)]
      exact ih distinct.2 hr

/-- A row is in a table when it is found under its key. -/
theorem get?_eq_some_iff {t : Table key} {k : κ} {a : α} :
    t.get? k = some a ↔ a ∈ t.rows ∧ key a = k :=
  ⟨fun h => ⟨mem_of_get? h, key_of_get? h⟩, fun h => h.2 ▸ find?_of_mem t.distinct h.1⟩

theorem get?_eq_none_iff {t : Table key} {k : κ} : t.get? k = none ↔ ∀ a ∈ t.rows, key a ≠ k := by
  simp [get?]

theorem mem_putRow {a b : α} {rows : List α} (h : (rows.map key).Nodup) :
    b ∈ putRow key a rows ↔ b = a ∨ (b ∈ rows ∧ key b ≠ key a) := by
  induction rows with
  | nil => simp [putRow]
  | cons c r ih =>
    simp only [List.map_cons, List.nodup_cons] at h
    by_cases hk : key c = key a
    · simp only [putRow, hk, if_true, List.mem_cons]
      constructor
      · rintro (rfl | hr)
        · exact .inl rfl
        · exact .inr ⟨.inr hr, fun e => h.1 (hk ▸ e ▸ List.mem_map_of_mem hr)⟩
      · rintro (rfl | ⟨rfl | hr, hn⟩)
        · exact .inl rfl
        · exact absurd hk hn
        · exact .inr hr
    · simp only [putRow, hk, if_false, List.mem_cons, ih h.2]
      grind

theorem get?_put (t : Table key) (a : α) (k : κ) :
    (t.put a).get? k = if k = key a then some a else t.get? k := by
  by_cases h : k = key a
  · rw [if_pos h, get?_eq_some_iff]
    exact ⟨(mem_putRow t.distinct).mpr (.inl rfl), h.symm⟩
  · rw [if_neg h]
    apply Option.ext
    intro b
    rw [get?_eq_some_iff, get?_eq_some_iff, put, mem_putRow t.distinct]
    grind

theorem get?_keep (t : Table key) (p : α → Bool) (k : κ) :
    (t.keep p).get? k = (t.get? k).filter p := by
  apply Option.ext
  intro a
  rw [get?_eq_some_iff, Option.filter_eq_some_iff, get?_eq_some_iff, keep, List.mem_filter]
  grind

theorem get?_erase (t : Table key) (k l : κ) :
    (t.erase k).get? l = if l = k then none else t.get? l := by
  rw [erase, get?_keep]
  cases h : t.get? l with
  | none => simp
  | some a =>
    have := key_of_get? h
    simp only [Option.filter_some, ne_eq, decide_not, this]
    grind

end Table

end OpenIdProvider
