import OpenIdProvider.Unicode.Range

/-!
# Joining types

How characters of connected scripts join their neighbours. A zero width
non-joiner may stand between two characters that would join without it.
-/

namespace OpenIdProvider.Unicode

/-- Which neighbours a character joins. -/
inductive Joining where
  | left
  | dual
  | right
  /-- The neighbours join as if the character were not there. -/
  | transparent
  deriving DecidableEq, Repr

/-- The joining types by their numbers in the table. -/
def Joining.all : List Joining :=
  [left, dual, right, transparent]

/-- The ranges of characters that join. -/
def joiningText : List String := [
  "gY/BDCADDIDBfDzIGDnIsBDBADBBDBBDBADoCKDFABBDCAABAACAABAACAEBADCAMBBGBAACABBAUDOBBAADACCFOBAR",
  "CAlBBAACABBAICAABAACAABAACABBABCBACAGDCFDCBDBDDABCKCBCABQACAADACBAECADBAACAIBAACAABAACAABAAC",
  "ABBAACAaDCACAKBACCAOBABCADBAACAABABCACBABCAFBmBKDZgBBAIDJADYDDBIDBCDBEDSACAEBABCAABAACAJBAAC",
  "AABACCACDEABBDBBACAABABCFSCDABCEBAACAABHIDAJBACCBACABBABCAFBAACAOBBXDBfD3BADBADEHDEADDGDKBDd",
  "AD6BADEDDIADUBDaADCBD5BADEBDEBDCCDDADeBDDADLBD5BADEEDBBDEADUBDWFDBAD6BADCADBDDIADHBDLBDeAD9B",
  "ADMADyBADDAD3BADBCDFCDBDDHBDLBDdAD6BADCADGADFBDUBDcBD5BBDEDDIADUBDdADoCADHCDBAD6CADCGDMHDiDA",
  "DCIDLGDpCBDbADBADBAD3BBDBADFEDBADBCDBBDFFDBDDBDDBDDBDDBDDBLDBCDJADmDDDBFDBBDCBDZBDECDQDDNADC",
  "BDGADPAD/VCDydCDdBDeBDeBDjCGDIADCKDJADpBABY4CBMBDAhBBAADAAB1DCDEBDJADGCD7GBDCAD6BADBGDBADBAD",
  "CHDGJDCADwBtBDCLDUDDwBADBEDBADFADoBIDMBDgBDDCBDBCD4BADBBDDADBCD6BHDCBD4ECDBMDBGDEADGADDBDmG/",
  "BDwWgBD+/CCDtEADgDfDqRDDrDBD0udDDBJDgBBDwCBDwIADDADEADZBDFADTxBBAAAxCBDaRDNADmBHDZKDuBCDwBAD",
  "CDDCBDnBADjCFDCBDCBDMADIADvBADzBADBCDCBDFBDBADqBBDIADuHADCADEADw5TADhYPDteADiHAD1EEDm0BCDBBD",
  "FDDoBCDEADgEEBAACBACBBCCAAAECADBAAAAEBAACACBAACCACABDEDBAACwEABAACAABACCACBAACABBAACAABABCAA",
  "BAACXDCABBxKAAAgBBAACAABADDhCED9JBDVACABBBBByBFDwBCBAACAQBBKDACBAACbDBABCALBADDqBABBBBACCBAB",
  "ABCABBAACABBBABABCAABEACAABAAA1BAD2BODpBADCBDKCDxBDDCBDHAD9BCDkBEDBHD+BADMBD0BIDKDDCAD/CCDCA",
  "DBBDGADCAD9EADDHDVBD5BBDDADlBGDDEDmCFDNADBADBADOBD1CHDCCDBADXAD0CFDBADEBDBBDuHDDGBDBBDbBD1CH",
  "DCADBBDqDADBADCFDBADlDADBADCDDBEDjIIDBBDgIBDBADEADwEDDCBDEADgBJDoBFDCDDIADJFDCCDuBMDBBDmGADB",
  "CDBADpGGDBFDBADyCVDCGDBBDBBD6DFDDADBBDBGDBADoCBDDADBAD7KBDLBD0BEDFADBADXADlnFADGODomLLDDCDgu",
  "CED7BGD4gBAD/BDDxCAD4lTBDhzEtBDCWDgRCDRHDCGDeDD0ECD79B2BDExBDIADOADWEDBODwqBGDBQDCGDBBDBEDkD",
  "ADgFGD3LAD9BDD8PDD+HBDzHADCADHBDFAD6OGDrChBBAHD"]

/-- The ranges of characters that join. -/
def joinings : List Range :=
  Range.table joiningText

/-- The joining type of a character, if it joins. -/
def Joining.ofChar? (c : Char) : Option Joining := do
  all[← Range.value? joinings c]?

end OpenIdProvider.Unicode
