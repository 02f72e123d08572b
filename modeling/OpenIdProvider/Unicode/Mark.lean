import OpenIdProvider.Unicode.Range

/-!
# Combining marks

The characters of the general category Mark, which no label of a domain begins
with.
-/

namespace OpenIdProvider.Unicode

/-- The ranges of marks. -/
def markText : List String := [
  "gY/BACAADIABfAzIGAnIsBABAABBABBABAAoCKAwBUAQAAlDGACFACBABDAjBAAeaA7CKA6BIAJAAYDABIABCABEArBC",
  "A7BIAqBXABgBA2BCABRABGAKBAdCA4BAABGACBACCAJAAKBAaAACCA4BAABEAEBACCADAAeBADAALCA4BAABHABCABCA",
  "UBAWFABCA4BAABGACBACCAHCAKBAeAA7BEADCABDAJAAoBEA3BAABGABCABDAHBALBAdCA4BAABGABCABDAHBALBAPAA",
  "MDA3BBABGABCABDAJAAKBAdCAmCAAEFABAABHASBA9BAACGAMHAiDAACIALGApCBAbAABAABAAEBAxBBABAAFGABCABB",
  "AFFABDABDABDABDABDABLABCAJAAkDTAXDAECABCACGADDANLABAAKDA/VCAydDAcCAdBAeBAiCdAJAAnFBAiBAA2DLA",
  "ELA7GEA5BJABcACAAwBtBACLAUEAvBQAmBIAMCAeMA4BNAwBTA4ECABUAEAAGAACCAmG/BAwWgBA+/CCAtEAAgDfAqRF",
  "ApDBA0udDABJAgBBAwCBAwIAADAAEAAXEAEAAzCBAyBRAaRANAAmBHAZMAsBDAvBNAkBAAjCNAMAAIBAtBCAyBAABCAC",
  "BAFBABAApBEAFBAsHHABBAw5TAAhYPAteAAiHAA1EEAm0BCABBAFDAoBCAEAAlFBA9RDAhCEA9JBAtCFAmCKAxBDA6DC",
  "A1BOApBAACBAKDAtBKAHAA9BCAkBNAQBAsBAAMCAwBNAIDABBA8CLAGAACAA9ELAVDA3BBABGACBACCAJAAKBACGADEA",
  "jCIABAACAABDABEABAAOBAyCRAXAAxCTArHGACIAbBAyCQAqDMAlDOAgIOA1HFABBACDABAABBAtEGACGADAAcJAoBGA",
  "BDAIAAJKAuBPAmGHAnGHABHAyCVABNA6DFADAABBABGABAAiCEABBABEA7KDAJBABAAwBGADEAXAAlnFAAGOAomLRAgu",
  "CEA7BGA4gBAAB2BAHDAxCAALBArlTBAhzEtBACWA+QEADFAIHACGAeDA0ECA79B2BAExBAIAAOAAWEABOAwqBGABQACG",
  "ABBABEAkDAAgFGA3LAA9BDA8PDA+HBAzHAACAAHBAFAA6OGAtDGA"]

/-- The ranges of marks. -/
def marks : List Range :=
  Range.table markText

/-- Whether a character is a combining mark. The first one is U+0300. -/
def isMark (c : Char) : Bool :=
  0x300 ≤ c.toNat && (Range.value? marks c).isSome

end OpenIdProvider.Unicode
