import OpenIdProvider.Json.Reader

/-!
# Records in JSON

How the values of a record type are read from JSON. A record is written as an
object: members with other keys are skipped, a known key may not stand there
twice, and a missing member is an error unless the field is optional or has a
default. A record may also be written as an array of all its fields in order;
then only a field with a default may be missing, at the end.
-/

namespace OpenIdProvider.Json

/-- The text of a string. -/
def text? : Json → Option String
  | string s => some s
  | _ => none

/-- The value of a boolean. -/
def bool? : Json → Option Bool
  | bool b => some b
  | _ => none

/-- An integer from `lo` to `hi`. -/
def integer? (lo hi : Int) : Json → Option Int
  | integer n => if lo ≤ n && n ≤ hi then some n else none
  | _ => none

/-- A signed integer of 64 bits. -/
def int64? : Json → Option Int :=
  integer? (-(UInt64.size / 2 : Nat)) (UInt64.size / 2 - 1 : Nat)

/-- An unsigned integer below `bound`. -/
def natural? (bound : Nat) (j : Json) : Option Nat :=
  (integer? 0 (bound - 1) j).map Int.toNat

/-- The items of an array, each read by `f`. -/
def list? {α : Type} (f : Json → Option α) : Json → Option (List α)
  | array vs => vs.mapM f
  | _ => none

/-- None for `null`, otherwise a value read by `f`. -/
def optional? {α : Type} (f : Json → Option α) : Json → Option (Option α)
  | null => some none
  | j => (f j).map some

/-- One of the named values: its name, or an object with its name and `null`. -/
def variant? {α : Type} (names : List (String × α)) : Json → Option α
  | string s => names.lookup s
  | object [(s, null)] => names.lookup s
  | _ => none

/-- The fields of a record that were found. -/
structure Record where
  /-- Whether the record was written as an array. -/
  positional : Bool
  /-- The fields that are there, by name. -/
  fields : List (String × Json)

namespace Record

/-- The fields of a record with the given names. -/
def ofJson? (names : List String) : Json → Option Record
  | .object ms =>
    let known := ms.filter fun m => names.contains m.1
    if (known.map Prod.fst).Nodup then some ⟨false, known⟩ else none
  | .array vs =>
    if vs.length ≤ names.length then some ⟨true, names.zip vs⟩ else none
  | _ => none

/-- A field that has to be there. -/
def required {α : Type} (r : Record) (name : String) (f : Json → Option α) : Option α :=
  (r.fields.lookup name).bind f

/-- A field that may be missing from an object, or be `null`. -/
def optional {α : Type} (r : Record) (name : String) (f : Json → Option α) :
    Option (Option α) :=
  match r.fields.lookup name with
  | some j => optional? f j
  | none => if r.positional then none else some none

/-- A field with a default for when it is missing. -/
def withDefault {α : Type} (r : Record) (name : String) (f : Json → Option α) (default : α) :
    Option α :=
  match r.fields.lookup name with
  | some j => f j
  | none => some default

end Record

end OpenIdProvider.Json
