import OpenIdProvider.Unicode.Range

/-!
# Composed form

Normalization form C: characters are taken apart into base characters and marks,
the marks of a base character are put in order of their classes, and pairs are
joined again. The table of pairs holds the characters that domains may have; the
syllables of Hangul follow a rule.
-/

namespace OpenIdProvider.Unicode

/-- The ranges of characters whose combining class is not zero. -/
def combiningText : List String := [
  "gYUmHAAoHAD8GAAoHAA4GAE8GABqGAD8GABqGAK8GAEBAD8GACmHCAmHDAmHAC8GACmHAB8GBCmHAD8GAAmHAAoHAB8G",
  "AAmHAApHABqHAApHABqHAApHAMmHzIEmHpIA8GADmHAA8GACmHAA+GAA8GAFmHAF8GABmHAA8GABmHAA+GAAkHAAmHAA",
  "KAALAAMAANAAOAAPAAQAARAASABTAAUAAVAAWBAXBAYAAZBAmHAA8GBASoCHmHAAeAAfAAgBwBAbAAcAAdAAeAAfAAgB",
  "AAhBAAiBABmHAB8GAEmHAA8GABmHAA8GQAjBlDGmHCDmHAA8GAAmHCBmHBA8GABmHAA8GjBAkBeAmHAA8GABmHAA8GAB",
  "mHAC8GAAmHAB8GAAmHAA8GACmHAA8GAAmHAA8GAAmHAA8GAAmHAA8GABmHgFGmHAA8GAAmHJA8GYDmHBImHBCmHBEmHr",
  "BC8G7BBmHAC8GADmHqBEmHAE8GANmHBA8GABmHAA8GABmHAA8GACmHAC8GAAbAAcAAdACmHAA8GABmHAB8GAEmH8BAHQ",
  "AJDAmHAA8GABmHnDAHQAJwBAmH9BAHQAJuDAHQAJuDAHQAJ/DAJuDAHQAJHA0CAA7ClDAHQAJtDBJQAJ8DAJtDBnDAAJ",
  "NDrDsDB2DAAJND6DsCB8GbA8GBA8GBA4G3BAhEAAiEBAkEFDiECAiEBBmHAAJBBmH+BA8GwDAHBBJyCA8GvWCmH0dBJe",
  "AJ9EAJKAmHrGAkHvEA+GAAmHAA8G7GAmHAA8GnCAJUHmHCA8GwBEmHAF8GABmHAA8GBB8GABmHAB8GAEmHAA8GARmHAA",
  "8GCFmHAA8GADmHAAqHoCAHPAJmBAmHAA8GAGmH2BBJ6BAHLBJjCAH4ECmHBABAE8GABmHAD8GAAmHBGBEA8GGAmHDBmH",
  "mGBmHAA8GAGmHAA8GABmHAAqHAA2GAA8GAAqGAkBmHAAoHABkHAA8GAA6GAAmHAApHAA8GAAmHAA8GwWBmHABBADmHAC",
  "BABmHEAmHDBBAAmHAA8GAAmHABBAD8GAAmH+/CCmHtEAJgDfmHqRA6GAAkHAAoHAA+GABgHpDBI0udAmHEJmHgBBmHwC",
  "BmH0IAJlBAJ3EAJbRmH5BC8GlBAJ/CAHMAJvHAmHBBmHAA8GCBmHFBmHBAmH0BAJ2HAJw5TAahYGmHAG8GABmHteA8Gi",
  "HA8G1EEmHy0BA8GBAmHoBAmHAABAA8GEAJlFAmHAA8G9RDmHhCEmH9JBmHtCB8GBC8GmCB8GACmHAA8GAAmHAD8GxBAm",
  "HAA8GAAmHAA8GgGAJpBAJOAJ5BAJAAHlCCmHwBBJ+BAHsCAJJAHqDAJAAHyFAHAAJwCBHQAJYGmHDEmH5CCJxDAJDAHX",
  "AmHjDAJAAH7HAJAAH+DAJ2DAJAAHzDAJtIAJAAHiIBJEAH8EAJzCAJSAJxCAJlNAJiIAHBBJxCAJpNBJsvQAJguCEB7B",
  "GmH5lBBGslTABmmFB4GACBDAiHAE4GIH8GCEmHAB8GeDmH0ECmH7tDGmHBQmHCGmHBBmHBEmHkDAmHgFGmH3LAmH9BDm",
  "H8PBoHAA8GAAmH+HAmHAA8GzHAmHCAmHHBmHFAmH6OG8GtDFmHAAH"]

/-- The characters that are a pair: the distance from the one before, and the pair. -/
def pairText : List String := [
  "gHhDgYAhDhYAhDiYAhDjYAhDoYAhDqYBjDnZAlDgYAlDhYAlDiYAlDoYApDgYApDhYApDiYApDoYBuDjYAvDgYAvDhYA",
  "vDiYAvDjYAvDoYC1DgYA1DhYA1DiYA1DoYA5DhYB5DoYBhDkYBhDmYBhDoZBjDhYBjDiYBjDnYBjDsYBkDsYDlDkYBlD",
  "mYBlDnYBlDoZBlDsYBnDiYBnDmYBnDnYBnDnZBoDiYDpDjYBpDkYBpDmYBpDoZFqDiYBrDnZCsDhYBsDnZBsDsYFuDhY",
  "BuDnZBuDsYEvDkYBvDmYBvDrYDyDhYByDnZByDsYBzDhYBzDiYBzDnZBzDsYB0DnZB0DsYD1DjYB1DkYB1DmYB1DqYB1",
  "DrYB1DoZB3DiYB5DiYC6DhYB6DnYB6DsYiBvD7YO1D7YdhDsYBpDsYBvDsYB1DsYB8HkYB8HhYB8HsYB8HgYCkHkYBnR",
  "kYBmHkYDnDsYBrDsYBvDoZBrPkYByUsYAqDsYEnDhYDuDgYBlHhYBmHhYB4HhYBhDvYBhDxYBlDvYBlDxYBpDvYBpDxY",
  "BvDvYBvDxYByDvYByDxYB1DvYB1DxYBzDmZB0DmZDoDsYHhDnYBlDnZB2HkYB1HkYBvDnYBvRkYB5DkY8KqehYbxdhYA",
  "1dhYA3dhYA5dhYArehYZ5doYAleoYA/dhYAlehYApehYqD4hBmYW1hBgYA1hBoYBzhBhYD2iBoYE6hBhYA4hBgYAjiBm",
  "YY1jBvYqC2hBmYOwhBmYBwhBoYD1hBmYD5mBoYB2hBoYB3hBoYD4hBkYB4hBoYB+hBoYDpnBoYBtiBoYBjiBkYBjiBoY",
  "BjiBrYBniBoYDriBoYoJnxBzyBAnxB0yBAoyB0yBAnxB1yBAqyB0yB5E12B0yBBh2B0yBQy2B0yB1SopC8pCHwpC8pCC",
  "zpC8pC2EnuC+tCAnuC3uC7Ln6C26CCn6C+5CAn6C36CnCy8C3+C1Bm+C+9CAn+C+9CAm+C3+C7DmiD2iD3D/lD1mDGmm",
  "D1mDAmmD2mDBmmDimDAqmD1mD+DmqD+pDAnqD+pDAmqD3qDtE5uDquDB5uDvuDA8uDquDA5uD/uDnSlhEuhE/2Cl4G15",
  "GBn4G15GBp4G15GBr4G15GBt4G15GDx4G15GoB65G15GB85G15GC+5G15GA/5G15GBi6G15G9VhDlZBiDnYBiDjZBiDx",
  "ZBnHhYBkDnYBkDjZBkDxZBkDnZBkDtZBzIgYBzIhYBlDtZBlDwZBpRmYBmDnYBnDkYBoDnYBoDjZBoDoYBoDnZBoDuZB",
  "pDwZBvHhYBrDhYBrDjZBrDxZBsDjZB3xHkYBsDxZBsDtZBtDhYBtDnYBtDjZBuDnYBuDjZBuDxZBuDtZB1HhYB1HoYBt",
  "KgYBtKhYBwDhYBwDnYByDnYByDjZB7yHkYByDxZBzDnYBzDjZB7KnYBhLnYBjzHnYB0DnYB0DjZB0DxZB0DtZB1DkZB1",
  "DwZB1DtZBpLhYBrLoYB2DjYB2DjZB3DgYB3DhYB3DoYB3DnYB3DjZB4DnYB4DoYB5DnYB6DiYB6DjZB6DxZAoDxZA0Do",
  "YA3DqYA5DqYHhDjZBhDpYBiHhYBiHgYBiHpYBiHjYBh1HiYBjIhYBjIgYBjIpYBjIjYBh1HmYBlDjZBlDpYBlDjYBqHh",
  "YBqHgYBqHpYBqHjYB51HiYBpDpYBpDjZBvDjZBvDpYB0HhYB0HgYB0HpYB0HjYBt2HiYBhNhYBhNgYBhNpYBhNjYBhNj",
  "ZB1DjZB1DpYBwNhYBwNgYBwNpYBwNjYBwNjZB5DgYB5DjZB5DpYB5DjYGxdzYAxd0YAg4HgYAh4HgYAg4HhYAh4HhYAg",
  "4HiaAh4HiaI1dzYA1d0YAw4HgYAx4HgYAw4HhYAx4HhYK3dzYA3d0YAg5HgYAh5HgYAg5HhYAh5HhYAg5HiaAh5HiaI5",
  "dzYA5d0YAw5HgYAx5HgYAw5HhYAx5HhYAw5HiaAx5HiaI/dzYA/d0YAg6HgYAh6HgYAg6HhYAh6HhYKlezYAle0YAw6H",
  "gYAx6HgYAw6HhYAx6HhYAw6HiaAx6HiaIpezYApe0YAg7HgYAh7HgYAg7HhYAh7HhYAg7HiaAh7HiaIxdgYB1dgYB3dg",
  "YB5dgYB/dgYBlegYBpegYzBxdmYAxdkYExdiaP3diaJ5dmYA5dkYAqegYD5diaAqeiaIlemYAlekYAregYBhezYAhe0Y",
  "AleiaAreiaOpeiajNwsI4ZAysI4ZS0sI4ZewuI4ZA0uI4ZAyuI4Z0BjwI4ZEowI4ZCrwI4ZXjxI4ZBlxI4Za8xI4ZCjy",
  "I4ZClyI4ZBoyI4ZW9B4ZBhzI4ZKtyI4ZA8B4ZA+B4ZAkzI4ZAlzI4ZCyzI4ZAzzI4ZC2zI4ZA3zI4ZG6zI4ZA7zI4ZCi",
  "0I4ZAj0I4ZCm0I4ZAn0I4ZiBi1I4ZAo1I4ZAp1I4ZAr1I4ZwB8zI4ZA9zI4ZAx0I4ZAy0I4ZGy1I4ZAz1I4ZA01I4ZA1",
  "1I4Z+qDriM5kMBtiM5kMBviM5kMBxiM5kMBziM5kMB1iM5kMB3iM5kMB5iM5kMB7iM5kMB9iM5kMB/iM5kMBhjM5kMCk",
  "jM5kMBmjM5kMBojM5kMGvjM5kMAvjM6kMByjM5kMAyjM6kMB1jM5kMA1jM6kMB4jM5kMA4jM6kMB7jM5kMA7jM6kMWmi",
  "M5kMJ9kM5kMNrlM5kMBtlM5kMBvlM5kMBxlM5kMBzlM5kMB1lM5kMB3lM5kMB5lM5kMB7lM5kMB9lM5kMB/lM5kMBhmM",
  "5kMCkmM5kMBmmM5kMBomM5kMGvmM5kMAvmM6kMBymM5kMAymM6kMB1mM5kMA1mM6kMB4mM5kMA4mM6kMB7mM5kMA7mM6",
  "kMWmlM5kMCvnM5kMAwnM5kMAxnM5kMAynM5kMD9nM5kMqm1ByuhCnYa6uhCnY11C5kkC6lkCB7kkC6lkCOllkC6lkCiE",
  "xpkCnpkCAypkCnpkC7Qn6kC+5kCAn6kC36kC2Bi8kCp+kCBk8kC79kCIr8kCi+kCCw8kCp+kCzBi+kCi+kCBi+kC49kC",
  "Ai+kCp+kCyH5llC6llCA5llCwllCB5llC9llC7H4tlCvtlCA5tlCvtlC8b1pmCwpmCo/R+o4C+o4CA+o4Cpp4CA+o4C/",
  "o4CApp4C/o4CA+o4Cgp4CAhp4C/o4CAip4C/o4CAhp4Cgp4C/hDnr7Cnr7CAjr7Cnr7CApr7Cnr7C"]

/-- The ranges of characters whose combining class is not zero. -/
def combinings : List Range :=
  Range.table combiningText

/-- The combining class of a character, which is zero below U+0300. -/
def combiningClass (c : Char) : Nat :=
  if c.toNat < 0x300 then 0 else (Range.value? combinings c).getD 0

/-- The class of the signs that silence the vowel of a consonant. -/
def viramaClass : Nat := 9

/-- A character that is written as a pair of characters, too. -/
structure Pair where
  whole : Char
  first : Char
  second : Char
  deriving DecidableEq, Repr

/-- The pairs that numbers write, where `next` is the code point after the pair
before. -/
def Pair.ofNumbers (next : Nat) : List Nat → List Pair
  | distance :: first :: second :: r =>
    ⟨Char.ofNat (next + distance), Char.ofNat first, Char.ofNat second⟩
      :: ofNumbers (next + distance + 1) r
  | _ => []

/-- The pairs that do not follow a rule. -/
def pairs : List Pair :=
  Pair.ofNumbers 0 (Vlq.decode pairText)

/-! ## Hangul -/

/-- The parts of a syllable: the consonant and the vowel, or such a syllable and
the consonant at its end. -/
def hangulParts? (c : Char) : Option (Char × Char) :=
  let s := c.toNat - 0xAC00
  if c.toNat < 0xAC00 || 11172 ≤ s then none
  else if s % 28 = 0 then
    some (Char.ofNat (0x1100 + s / 588), Char.ofNat (0x1161 + s % 588 / 28))
  else some (Char.ofNat (c.toNat - s % 28), Char.ofNat (0x11A7 + s % 28))

/-- The syllable of two parts. -/
def hangulWhole? (a b : Char) : Option Char :=
  let l := a.toNat - 0x1100
  let v := b.toNat - 0x1161
  let s := a.toNat - 0xAC00
  let t := b.toNat - 0x11A7
  if 0x1100 ≤ a.toNat && l < 19 && 0x1161 ≤ b.toNat && v < 21 then
    some (Char.ofNat (0xAC00 + l * 588 + v * 28))
  else if 0xAC00 ≤ a.toNat && s < 11172 && s % 28 = 0 && 0x11A7 < b.toNat && t < 28 then
    some (Char.ofNat (a.toNat + t))
  else none

/-! ## Parts and wholes -/

/-- The two parts of a character. -/
def parts? (c : Char) : Option (Char × Char) :=
  if c.toNat < 0xC0 then none
  else match hangulParts? c with
    | some p => some p
    | none => (pairs.find? (·.whole == c)).map fun p => (p.first, p.second)

/-- The character of two parts. -/
def whole? (a b : Char) : Option Char :=
  if b.toNat < 0x300 then none
  else match hangulWhole? a b with
    | some c => some c
    | none => (pairs.find? fun p => p.first == a && p.second == b).map (·.whole)

/-- The parts of a character that are no pairs, where `depth` bounds how often a
first part is a pair again. -/
def decompose : (depth : Nat) → Char → List Char
  | 0, c => [c]
  | n + 1, c =>
    match parts? c with
    | some (a, b) => decompose n a ++ [b]
    | none => [c]

/-- How often the first part of a pair is a pair again, at most. -/
def decompositionDepth : Nat := 4

/-! ## The form -/

/-- Puts a character in front of a text whose marks are in order. -/
def insertMark (c : Char) : List Char → List Char
  | [] => [c]
  | d :: r =>
    if 0 < combiningClass d && combiningClass d < combiningClass c then d :: insertMark c r
    else c :: d :: r

/-- The text with the marks of each base character in order. -/
def orderMarks (s : List Char) : List Char :=
  s.foldr insertMark []

/-- Joins a base character with what follows it, where `marks` are those between
them that it did not join with, the last one first. A mark of the same or a higher
class keeps a character from its base. -/
def joinFrom (base : Char) (marks : List Char) : List Char → List Char
  | [] => base :: marks.reverse
  | c :: r =>
    let reached := match marks with
      | [] => true
      | d :: _ => combiningClass d < combiningClass c
    match if reached then whole? base c else none with
    | some w => joinFrom w marks r
    | none =>
      if combiningClass c = 0 then base :: marks.reverse ++ joinFrom c [] r
      else joinFrom base (c :: marks) r

/-- Joins the pairs of a text whose marks are in order. -/
def joinPairs : List Char → List Char
  | [] => []
  | c :: r => if combiningClass c = 0 then joinFrom c [] r else c :: joinPairs r

/-- The composed form of a text. -/
def composed (s : List Char) : List Char :=
  joinPairs (orderMarks (s.flatMap (decompose decompositionDepth)))

end OpenIdProvider.Unicode
