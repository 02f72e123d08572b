import OpenIdProvider.Unicode.Range

/-!
# Direction

The bidirectional classes of characters, as far as characters of domains have
them, and the rule for labels in domains that hold characters written from right
to left. `Direction.fits` is that rule.
-/

namespace OpenIdProvider.Unicode

/-- A bidirectional class. -/
inductive Direction where
  | leftToRight
  | rightToLeft
  | arabicLetter
  | arabicNumber
  | europeanNumber
  | europeanSeparator
  | commonSeparator
  | europeanTerminator
  | otherNeutral
  | boundaryNeutral
  | nonspacingMark
  deriving DecidableEq, Repr

namespace Direction

/-- The classes other than `leftToRight` by their numbers in the table. -/
def listed : List Direction :=
  [rightToLeft, arabicLetter, arabicNumber, europeanNumber, europeanSeparator, commonSeparator,
    europeanTerminator, otherNeutral, boundaryNeutral, nonspacingMark]

end Direction

/-- The ranges of characters that are not written from left to right. -/
def directionText : List String := [
  "AIIFNIFBHACGAEHAAEAAFAAEABFAJDAAFAFHaFHaDHAAIhBAHADGABHBAHBBHBAHBBGEBHDAHDAHXAHfAHhOBHHNHCFH",
  "GBHFIHBQHA/BJCAJDIJBfJFAHgEAHsEGJgIAHCBHAAGBsBJAAAAAJAAAABJAAAABJAAAAAJIaAEFARBHAABABGAABAAF",
  "AABABHAKJAABBtBBAUJAJCAAGABCACBAAJADBE8CBAGJBAHAFJABBABJAAHADJABBAJDATBCABAAJAdBAaJC4CBAKJAA",
  "BOqBAAIJABAADHAAACAJAXAADJAAAAIJAAAACJAAAAEJCOABYAACJCAABKBFfBHIJApBBAXJBfJ3BAJBAJEHJEAJDGJK",
  "BJdAJ6BAJEDJIAJUBJOBGHAGCAJCBJ5BAJEBJEBJCCJDAJeBJDAJLBJ5BAJEEJBBJEAJUBJNAGIFJBAJ6BAJCAJBDJIA",
  "JHBJLBJeAJ9BAJMAJlBFHAAGAAHFAJDAJ3BAJBCJFCJBDJHBJLBJUGHCAJ6BAJPBJUBJcBJ5BBJEDJIAJUBJdAJoCAJH",
  "CJBAJ6CAJCGJEAGHHJiDAJCIJLGJpCBJbAJBAJBAJADHzBBJBAJFEJBAJBCJBBJFFJBDJBDJBDJBDJBDJBLJBCJJAJmD",
  "DJBFJBBJCBJZBJECJQDJNAJCBJGAJPAJ/VCJwBJHmDAH6UBH1DCJdBJeBJeBJjCGJIAJCKJHAGBAJSJHGKH6DBJiBAJ2",
  "DCJEBJJAJGCJEAHDBH4EhBHXBJCAJ6BAJBGJBAJBAJCHJGJJCAJwBtBJCLJUDJwBAJBEJBAJFAJLBHbIJLAHABJgBDJC",
  "BJBCJ4BAJBBJDAJBCJ6BHJCBJ4ECJBMJBGJEAJGAJDBJmG/BJsQBICAHBEHBLHDAHICGCAHCDHBAHBEHAAFABHDMHBGH",
  "hCHGBXGAAHOgBJTAHDAHLAHCBHFBHDAHBAHBAHBAHEAGLAHGDHFDH8BBHEhEHAAEAAGAXHCAHC3HHCKHlCZHBzEHWKHg",
  "FgOHByKHgIrIHBmDHDkDHB2EHCpEHlHFHECJHGH/DAJgDfJA9CHiBZHBDHByCHuIAHBBHDYHJDJCAHGAHFCH5CBJFAH6",
  "CAHkGlBH6+G/BHw0V2BHmKCH/CDJAAHAJJABHeBJwCBJOhBHmDAH5DAJDAJEAJZBJBDHAAJLBG6BDHsCBJaRJNAJmBHJ",
  "ZKJuBCJwBAJCDJCBJnBAJjCFJCBJCBJMAJIAJvBAJzBAJBCJCBJFBJBAJqBBJIAJzDBH5DAJCAJEAJw5TAJzEgBBrLRH",
  "gCBB2BGBAAHtBCHgBPJVBHsBABtUAH+BsCHDMHDAH8CAJiHAJAaD6DEJlkBFACAABrBABBADAACWABnCAIIAwBSABBAF",
  "gBADAHAZAFaAmB3BAETACuBAACJBBJFDJADABCABcACCJEAJAIAHIAH/BAgBkBAABJELAJ1BADGHAVACaAFZAHDAMGAw",
  "CoCA3DyBAHFAAjBBADJIJCGPAZEJAXAIBAwGeCBpBABBJAAACBAQFBIIBhBFJAnBAIVBAKJAIBWRAADJADAmBbAUWAKA",
  "J2BOJLTHKAJCBJKCJxBDJCBJHAJ9BCJkBEJBHJ+BAJMBJ0BIJKDJCAJ/CCJCAJBBJGAJCAJ9EAJDHJVBJ5BBJDAJlBGJ",
  "DEJmCFJNAJBAJBAJBBHBBHIBJ1CHJCCJBAJXAJ0CFJBAJEBJBBJuHDJGBJBBJbBJ1CHJCAJBBJfMH+BAJBAJCFJBAJlD",
  "CJCDJBEJjIIJBBJgIBJBAJEAJwEDJCBJEAJgBFJCBJoBFJCDJIAJJFJCCJuBMJBBJmGAJBCJBAJ6DAHuCGJBFJ0CVJCG",
  "JBBJBBJ6DFJDAJBBJBGJBAJoCBJDAJBAJ7KBJLBJ0BEJFAJBAJXAJ6DHHADGAQHuiFAJGOJomLLJDCJguCEJ7BGJ2RCH",
  "/OAJ/BDJvCAHBAJ4lTBJh7D1GHkBCHDzNHGWHPQHPtBJCWJgRCJRHJCGJeDJ7BBHVhCHACJAAH6F2CHp1B2BJExBJIAJ",
  "OAJWEJBOJwqBGJBQJCGJBBJBEJkDAJgFGJ3LAJ9BDJPAGsPDJ+HBJPAHjHAJCAJHBJFAJqIkGACIAAGJrChBAAGJAAAE",
  "JAEBAxYjCBsC8BByNBHuIrBHEjDHMOHCOHBOHBkBHVEHfAH9BCH9BAHyFFH6E4eHDQHDMHD5GHGLHEAHPLHE3BHIJHGn",
  "BHIdHCLHEBHOIHnB3KHINHCMHDKHD4BHBAHEPHCLHEJHHyEHB7CHKAH"]

/-- The ranges of characters that are not written from left to right. -/
def directions : List Range :=
  Range.table directionText

namespace Direction

/-- The class of a character. -/
def ofChar (c : Char) : Direction :=
  ((Range.value? directions c).bind (listed[·]?)).getD leftToRight

/-- Whether a character of the class makes a domain one with both directions. -/
def isRightToLeft (d : Direction) : Bool :=
  [rightToLeft, arabicLetter, arabicNumber].contains d

/-- The classes that labels of both directions may hold. -/
def common : List Direction :=
  [europeanNumber, europeanSeparator, commonSeparator, europeanTerminator, otherNeutral,
    boundaryNeutral, nonspacingMark]

/-- The rule for a label that begins with `leftToRight`. -/
def fitsLeftToRight (ds : List Direction) (last : Option Direction) : Bool :=
  ds.all (fun d => d == leftToRight || common.contains d)
    && (last == some leftToRight || last == some europeanNumber)

/-- The rule for a label that begins with a letter written from right to left. It
does not hold both kinds of numbers. -/
def fitsRightToLeft (ds : List Direction) (last : Option Direction) : Bool :=
  ds.all (fun d => d.isRightToLeft || common.contains d)
    && (last == some europeanNumber || last.any isRightToLeft)
    && !(ds.contains europeanNumber && ds.contains arabicNumber)

/-- Whether a label with these classes may stand in a domain of both directions.
Marks at its end do not count as its end. -/
def fits (ds : List Direction) : Bool :=
  let last := ds.reverse.find? (· != nonspacingMark)
  match ds with
  | [] => true
  | leftToRight :: _ => fitsLeftToRight ds last
  | rightToLeft :: _ => fitsRightToLeft ds last
  | arabicLetter :: _ => fitsRightToLeft ds last
  | _ => false

end Direction

end OpenIdProvider.Unicode
