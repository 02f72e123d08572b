import OpenIdProvider.Unicode.Range

/-!
# Mapping of domains

Which characters domains have, which of them are passed over, and which stand for
others. `mapped?` is the text that a character stands for, and `isValid` tells the
characters that stand for themselves.
-/

namespace OpenIdProvider.Unicode

/-- The ranges of characters that stand for themselves, with the value 1, and of those
that are passed over, with the value 0. All are beyond ASCII. -/
def statusText : List String := [
  "hFGBBABBBBAAAAABBBBEBBDABDABXABHgBBBABBABBABBABBABBABBABBABBABBABBABBABBABBABBABBABBABBABBAB",
  "BABBABBABBABBABBABDABBBBBABBABBABDABBABBABBABCABBABBABBABBABBABBABBABBABBABBABBABBABBABBABBA",
  "BBABBABBABBABBABBABBABCABBABBABBABCABBABCABDBBEABCABDCBCABCABBABBABCABBBBBABCABDABBABCCBBGBK",
  "ABBABBABBABBABBABBABBBBBABBABBABBABBABBABBABBABBBBEABDABBABBABBABBABBABBABBABBABBABBABBABBAB",
  "BABBABBABBABBABBABBABBABBABBABBABBABBABBABBABBABBGBCABCBBBABEABBABBABBABBgDBJeBGBBF6CBCABDIB",
  "AAAAfBBABBABBABBABDCBSABbiBBIABBABBABBABBABBABBABBABBABBABBABBABBABDABCABBABCBBzBvBBBABBABBA",
  "BBABBABBABBABBABBABBABBABBABBABBABBABBABBIBBABBABBABBABBABBABBABBABBABBABBABBABBABBABBABBABB",
  "ABBABBABBABBABBABBABBABBABBABBABCABBABBABBABBABBABBBBBABBABBABBABBABBABBABBABBABBABBABBABBAB",
  "BABBABBABBABBABBABBABBABBABBABBABBABBABBABBABBABBABBABBABBABBABBABBABBABBABBABBABBABBABBABBA",
  "BBABBABBABBABpBtBBBCBCCBB2BBIaBEFBRVBB3CBEjDBBvBBC6BBCkDBO6BBCwBBCOBBbBCABBKBFfBHqCBB0DBIjBB",
  "BHBCBBCVBBGBBABDDBCIBCBBCDBIABIDBCYBCCBBFBEBBCVBBGBBABCABCBBCABBEBEBBCCBDABKABJQBKCBBIBBCBBV",
  "BBGBBBBBEBCJBBCBBCBCABPDBCLBHGBBCBBHBCBBCVBBGBBBBBEBCIBCBBCCBHCBHEBCRBKBBBFBDCBBDBDBBBABBBBD",
  "BBDCBDLBEEBDCBBDBCABGABOUBFMBBCBBWBBPBCIBBCBBDBHBBBCBBBBCDBCJBHVBBCBBWBBJBBEBCIBBCBBDBHBBFCB",
  "BDBCJBBCBMMBBCBByBBBCBBFBEPBCZBBCBBRBDXBBIBBABCGBDABEFBBABBHBGJBCCBMxBBBGBEcBlBBBBABBEBBXBBA",
  "BBLBBJBCEBBABBGBBJBEBBgBLBB1BBBDBBDBBDBBDBBDBBLBBCBEBBBABFGBBQBBDBBDBBDBBDBBDBBLBBCBBOBBMBlB",
  "/EBwBrBBBhDBABAAnHBBDBCGBBABBDBCoBBBDBCgBBBDBCGBBABBDBCOBB4BBBDBCiCBCfBDZBG1CBK/TBBbBD4CBHVB",
  "JXBJTBMMBBCBBBBMzBBABAAnBBCJBGJBGKBAEAAJBG4CBHqBBFlCBKeBBLBELBEABDpBBCEBLrBBEZBGKBD9BBCgCBBc",
  "BCKBGJBGNBCtBBCLBUsCBBlFBI7BBDOBDyBBKAB1BHBIqBBFrBBDABLABSABcMBBhBBlB/BBBABBABBABBABBABBABBA",
  "BBABBABBABBABBABBABBABBABBABBABBABBABBABBABBABBABBABBABBABBABBABBABBABBABBABBABBABBABBABBABB",
  "ABBABBABBABBABBABBABBABBABBABBABBABBABBABBABBABBABBABBABBABBABBABBABBABBABBABBABBABBABBABBAB",
  "BABBABBABBABBABBABBEBCBBBABBABBABBABBABBABBABBABBABBABBABBABBABBABBABBABBABBABBABBABBABBABBA",
  "BBABBABBABBABBABBABBABBABBABBABBABBABBABBABBABBABBABBABBABBABBABBABBABBABBABBIBIFBKHBIHBIFBK",
  "HBIHBIABBABBABBABBABBABBABzBBBEABPABJCBDBBICBBDBOABUAAABBCABBEBBLBDABICBCABCDBBABBHBDMBBGBBE",
  "AFFAwBHBBYBOgBBTABDABLABCBBFBBDABBABBABBABEABLABGDBFFBwBCBBEBBBBE7EBCABC3HBC+HBWKBgFgpBBBmDB",
  "DkDBB2EBCpEBwBvBBBABDBBBABBABBABEABBBBBFBFABBABBABBABBABBABBABBABBABBABBABBABBABBABBABBABBAB",
  "BABBABBABBABBABBABBABBABBABBABBABBABBABBABBABBABBABBABBABBABBABBABBABBABBABBABBABBABBABBABBA",
  "BBABBHBBABBDBBABFsBBBABFABC3BBIABOXBJGBBGBBGBBGBBGBBGBBGBBGBB9DBiBZBBDBByCBuIABByBBBABDEBB1C",
  "BCBBCBBB+CBGqBB0BAArBBBOlCBKPBoCHBvBABgMskcBD2BBJ7KBVABBABBABBABBABBABBABBABBABBABBABBABBABB",
  "ABBABBABBABBABBABBABBABBABBSBBABBABBABBABBABBABBABBABBABBABBABBABBABBABC5CBIhBBBABBABBABBABB",
  "ABBABBCBBABBABBABBABBABBABBABBABBABBABBABBABBABBABBABBABBABBABBABBABBABBABBABBABBABBABBABBAB",
  "BABBABBABBHBBABBABCABBABBABBABBDBBABBBBBABBCBBABBABBABBABBABBABBABBABBABBABFABFABBABBABBABBA",
  "BBABBABBABEABBABCABBABBABBABBABBABBABBABaBBCyBBDJBG3BBIlCBILBGzDBLdBDtCBBKBEgBBB2BBJNBCJBCmD",
  "BYbBKFBCFBCFBJGBBGBBrBBEIBBBB0CtBBCJBGj9KBMWBEwBBywIBBBABBBBKABBABBBBCCB0HABzEgBBrLRBgCBB2BH",
  "BtBCBAPAQPBVBBsBABrEAAgFAA/CLBBZBBSBBBBBOBCNBiB6DBFCBEsBBD3CBBMBDABvBtBBiEcBDwBBPbBEjBBJdBFq",
  "BBFdBBkBBENByC1DBCJBuBjBBEnBBIzBBLABnBKBBOBBGBBBBDzBBM2JBJVBKHBYAB/DFBCABBrBBBBBDABCWBBnCBII",
  "BwBSBBBBFgBBDaBFaBmB3BBETBCxBBBBBFHBBCBBcBCCBEJBHIBH/BBgBmBBELBJ1BBDcBCaBFZBHDBMGBwCoCB3DyBB",
  "HtBBIJBGPBZcBIBBwGeBBpBBBCBCBBQFBIIBhBtBBIpBBWZBmBbBUWBJtCBEjBBJ9BBBEBNYBHJBG0BBBRBImBBJ/CBB",
  "TBLRBBuBB+BGBBABBDBBOBBKBG6BBFJBGDBBHBCBBCVBBGBBBBBEBBJBCBBCCBCABGABFGBCGBDEBLJBBABCABBlBBBJ",
  "BBABCABBDBBJBBBBIBBd7CBBEBenCBIJBmF1BBClBBiBkCBLJBGMBT5BBGJBGTBcaBCOBEWB5F7BBkEyBBMHBCABCHBB",
  "BBBdBBBBCLBJJBmCHBCtBBCKBbnCBIyCBNoCBHJB2CHB4ChBBOJBGIBBsBBBNBKcBDfBCVBBNBpCGBBBBBrBBDABBBBB",
  "IBIJBGFBBBBBkBBBBBBFBHJBGrBBEJB2HYBHQBBoBBDcB1CABPxBBN6cBmDuDBBEBLjGBsyCiDBNvhBBQVBK68DBFmSB",
  "51G5BBm2B4RBHeBBJBEwCBBJBGdBCFBKlCBKJBBGBBUBFSBwN5BBmH6BBgBYBsBqCBE4BBHQBgCEBLGBJ1mHBpBfBhDy",
  "DB9vIDBBGBBBBBiJBPABdCBCABODBIrMBkoCqDBFMBDIBHJBCDBADA86D1GBkBCBDzNBGWBPQBPtBBCWBJzDB8B1HBKm",
  "BBC0BBHNBAHAA/BBGpBBVlCB6DTBMTBM2CBJYBnkBrUBPEBBOBwiBeBGFB1GGBBQBCGBBBBBEBkDABwDsBBDNBCJBEBB",
  "gKeBR5BBFABwOpBB2GqBBEABgGeBBVBIBBgHGBBDBBBBBOBBkGBCPBrCpBBEJBEBBxYjCBsC8BByNBBuIrBBEjDBMOBC",
  "OBBOBBkBBVEBfABgBZBDiBBBcB4BZBgDFB6E4eBDQBDMBD5GBGLBEABPLBE3BBIJBGnBBIdBCLBEBBOIBnB3KBINBCMB",
  "DKBD4BBBABEPBCLBEJBHyEBB7CBKABlgB/2pBBgB9oEBCt0FBCwpHBPtTBitEq6EBFppIBmkzVvHA"]

/-- The runs of characters that stand for one other character: twice the distance
from the end of the run before, plus one if only every other character counts; the
number of characters that count, less one; and how far they are moved. -/
def shiftText : List String := [
  "gKA/HSAxEOB/HCAuwBGAvIAA1EKWgCCGgCjCXCLBCFCCHDCFWCCAxHBCCCA3QCAkNBBCCA8MAACCB6MAACEA+EAA0MAA",
  "2MAACCA6MAA+MCAmNAAiNAACGAmNAAqNCAsNBCCCA0NAACCA0NEACCA0NAACCByNBBCCA2NAACGAChBHCFICKACCAhGA",
  "AvDBTCCAjIDICOA2iVAACCAlKAAwiVEACCAlMAAqEAAuEBECiGAvkBAA1EAAvkBAAhkBAA1DAAzDAApDAA/jBAA9jBuC",
  "A5HAApnBAA9mBAA1mBAA9E2FB/DCA/CCAoH1CBCCA1LCACOAl0BAAoHMAsCAA/sBACqCCAgECB+DCQgCCIgCmCAQAA7B",
  "AAxBAAZAALAARAAdAArBDLCCArDAA/CAA9CCA3DAA/DCACCArDAACECjIAPgFAfgChDQCTaCCAeBGCFvBCElBgDq7EAB",
  "mZlBgmOCAgmOKAgmO8CA/B2vBFPkoEA7kMAA5kMAAnkMABjkMAAlkMAA3jMAAniMAAm8kCAACMqB/7FEC/7F4GA1sOAA",
  "tkOBB3sOAA3sOAAp1NAH3sOCA5sOAAzxNAA7sOAA5sOAB3sOAA1sOAAjuOABnvNAAnEAApuOABnuOAAhvNAB/uNAAruO",
  "CAnuOAAluOAArgOAAluOAA9vNAB7DAAruOABluOAA3DAA1uNAApuOAAtDAC16MABz5MAAxvOAAhvOAB9uOABn7MAAt6M",
  "ABl6MaA1zMkCAx0NAAxzOAAv0NAA7qOAAl0NAAzzOAAj0NAAh0NAA7zNAC3zNAA3CAA1wNAA3zNAApCAA3wNAA1zNAA5",
  "zNAD3zNAAzzNABhzNAAzgOAB5yNAA3JAB7yNAAh0OAC3yNAAtgNhEqCCMAzDEA97ODvBCSHPQFPUHPQHPQFPXDPQHPCA",
  "p8NCAr8NCAt8NCAv8NCA56NCA76NCA96N0DBPAAzEAA9gOEApgOSArFAA3hOAArFAA5hOOAlkOIBPAAnGAA3iOOAljOI",
  "BPAA/GAA7hOAANEA94PQA/HAA5iOAA7HAA5iOIA/9PAAh+PAAj+PAAl+PAAn+PAAp+PAAr+PAAt+PAAv+PAAx+PAAz+P",
  "MAB6BA9gQ+CA9jQgBA/jQAAvgQEF/jQAA9kQAAuZAA9jQABplQAAhhQAJ/kQAA9lQAAuYAA9kQABpmQCA9iQAA3iQAAl",
  "iQAA1hQAA1jPAA5iQAD1iQAAziQABviQqGA9pQIA3qPEBlqQAAnqQAApqQAArqQAAv+PAAtqQAAvqQAArqQBBtqQGCxq",
  "QAAzqQAA1qQMAzqQCA51OCA7qQCA9rQAArkQABzsQCAzsQAB1sQAA4BAArsQAApsQADp2NAA/sQEA33OAAz4OAA14OAA",
  "93OAAiNIAhuQABjuQAB9tQsBAtvQGA7uQIAhvQEA/vQABzwQAAjwQAAtwQGA7vQIAhwQEA/wQABzxQAAjxQGACqaB+tG",
  "qTI9iS6EZplSAZ9mSAAzrSqxDvBgDgDACCAt/UAAruHAAt+UFCCCA3hVAA5/UAA9hVAA7hVCACEACMAjhWAAtgWAB9jV",
  "BxBCRBCIAC4HAb+SA8yemFA4q4BYAgwPAAuyPAAozPAA4zPAAq1PAAg4PAAs4PAAy5PAAk7PAAsjRAA2lRAAgmRAAsnR",
  "AAyoRAA6pRAAitRAAquRAA+uRAAy4RAAs+RAAigSAAqgSAAkiSAA0iSAAokSAAglSAAwmSAA2pSAA4qSAAssSAAy7TAA",
  "ggUAA28UAAi+UAAw+UAAk/UAAmgVAA8kVAA0iWAAylWAAgtWAAsuWAAwvWAA6wWAAk0WAAo0WAA6qXAAsrXAAisXAA6s",
  "XAAg0XAAu0XAA20XAA+7XAAw8XAAo9XAA29XAAuhYAAuiYAAwjYAAuoYAA2sZAAwvZAA4wZAA++aAAm/aAAqkbAAolbA",
  "AgmbAAonbAA0pbAA8pbAAw6bAA+7bAA89bAAq9dAAsheAA4ieAAqmeAA4neAAooeAA0oeAA6reAAiseAAgueAAsxgBAA",
  "othBAA+thBAAmuhBAAsuhBAA6uhBAA8vhBAA+vhBAA+0hBAAsiiBAA0iiBAA43iBAAq4iBAAs7iBAA47iBAAo8iBAA28",
  "iBAAqijBAA2ijBAA8wjBAAoxjBAAo0jBAAo1jBAAk4jBAA8mkBAAonkBAAookBAA08kBAAuklBAA4klBAAiwlBAAu1lB",
  "AAo4lBAA6vmBAAi4mBAA87nBAAw9nBAAghoBAAkkoBAAqooBAA+ooBAAopoBAAoroBAA+voBAAwwoBAAimpBAAumpBAA",
  "+mpBAAunpBAAsopBAAoppBAAuppBAAqupBAAwupBAA6upBAAisrBAA8trBAAkrsBAA6rsBAAmtsBAA6+sBAAy/sBAA+j",
  "tBAA4mtBAAkquBAAgruBAA8ruBAAguuBAAowuBAA08uBAAq9uBAAuhvBAA8wvBAA4yvBAA4/vBAAghwBAAohwBAA+uwB",
  "AAs6wBAAkixBAAuixBAA2ixBAAg9yBAAw9yBAAmnzBAA4wzBAA8wzBAA4zzBAAo6zBAAg7zBAAm7zBAAy7zBAA0h0BAA",
  "2j0BAAgk0BAA6k0BAAmv0BAAqy0BAAwy0BAA890BAAg+0BAAk/0BAA6u1BAA4x1BAAky1BAAu21BAAg31BAAk31BAA23",
  "1BAAw51BAAky2BAAir3BAA0r3BAA+t3BAAov3BAA2v3BAAow3BAAuw3BAA8y3BAAiz3BAAi03BAAq03BAAi13BAA223B",
  "AAy33BAAg43BAA073BAAw83BAA283B0CA/9XCAn9XmDAnCCAywRAB2wRsPBhjQAAx4PAAjjQABx4PACnjQAFz4PAAriQ",
  "AC1jQAAliQAJ3jQAU7+PCBhlQAB/5PAA55PAA35PAAv5PAAp5PAAn5PAAjlQAAj5PAAh5PABnlQAAllQABjlQAA9kQAA",
  "7kQAE5kQAA1kQAAvkQAA9jQAAxjQAApjQABh5PAC5iQABlgQAAhgQABx/PAAv/PAA9+PAA5+PGA8mOAAyvOAAqnOAAs0",
  "SAAonOAAspOAAmnOAAy5hBAA+rOAA8nOAAqmOAA44TAAk5SAA2xOoKA2wRAAujWAAi0ZAAw0kBwBA/1QAB91QAC71QAA",
  "51QAB31QAE11QAAk58BAAyi/BAAongCAA2wiCAAs1jCAAi6kCAAwjnCAA+spCAA0xqCAAi7sCAA4/tCAAukvCAAkpwCA",
  "A6txCEAkjqCCAg4NAA2gOAAu4NAAwlSAAghOAAwuPAA63NAAouPAAq9NAAwrQAA8naAAg+eAAw6cAA2paAAm0vBAAgpS",
  "AAq1ZAAy5aAAunaAA2qjBAAy3QAAo+fAA2gtBAAssjBAA4hQAA+zjBAA6phBAAwtTAA68uBAA6oPAAktQAAykdAAq2yB",
  "AAgnOAAuvPAAgscAAs2NAAw4NAAq2NAA+zVAA20QAAkpQAA6uUAA2rUAAujiBAAolOAAyhtBAAqqQAA4mT+BA7iBAA5i",
  "BAA3iBAA1iBABziBAAxiBAAviBAAtiBAAriBAApiBAAniBAAliBAAjiBAAhiBAA/hBAA9hBAA5hBAA3hBAA1hBAFzhBA",
  "AvhBAArhBAAnhBAAjhBAE/gBAA9gBAA7gBAF5gBAD3gBj05BWCnBNCCAjlxCAAhlxCpIGCHeCCABRBCCAnglCBECIACC",
  "AvyyCFBCHJCCAn0yCAA90yCAA10yCAAh0yCAAn0yCCAjxyCAAzyyCAApxyCAAg6BBHCCA/CAAl0yCAAvjlCBBCCAt2yC",
  "BHCCAhkzCoBA73zCAA94zCAA54zCAAl4zCAACEAhtzCAArqzCk2BApjCAArCAAlv0CAAZSA3t0CMvC/8rCg0mBAvr2BA",
  "A5gpCAAvj1BAA1j2BAAljlCAAlt1CAAhyyCAA12sBAA32sBAAv7vCAAxzzBAAn4xCAAn8vCAAtxrCAApqhCAAz48BAAh",
  "t5BAAt14BAAzh4BAAno0BAAjxnCAAz/lCAA5jkCAAxziCAA1t6BAA96zBAAxyvBAAxp1CAAt6yCAAxhnCAAlwjCAAjv5",
  "BAAjwtBAAh9tCAAtzkCAAr15BAA/73BAA3lrCAA707BAAvw4BAA7ltCAAjhpCAA/7lCAA9ijCAA7l0BAAt60CAAt3zCA",
  "AhlzCAA3mqCAA7lnCAAjyjCAA3khCAAlz8BAA9y5BAAzt5BAAv01BAArgxBAAz8uBAA/ztBAA9qgCAA57/BAA559BAAp",
  "36BAA1jzBAAhstBAA1m3BAAlmwCAA9jtCAAnu+BAAts8BAAnujCAA5ngCAAro2BAAjlxBAAjnwCAAxuuCAAxznCAAl3l",
  "CAA9jlCAA/h+BAAxx9BAArwxBAA/nzCAAvs8BAAv3zCAAx4zCAAzz/BAAx59BAAt26BAAnuxBAAz92BAA3orCAAz1nCA",
  "A9l3BAApy1CAAv3uCAA70sCAAz9iCAAj/hCAA3kzCAAxmgCAAr60CAA57sCAAz11CAA3pmCAAh/pCAAvk+BAAv6yCAA7",
  "wwCAA3mhCAApy6BAAps3BAAr7mCAAh80BAAzumCAApnrCAA9o7BAAp9qCAAhhiCAAxs1CAA9g0CAA/6zCAAxvoCAAnp+",
  "BAA5w7BAA1q3BAA96zBAAzozCAA7zyCAA7gwCAArptCAA77pCAAr4kCAA1lgCAAx9xBAA5xvBAAhvtBAA1rtBAA9uzCA",
  "ApspCAAphnCAA1i1BAAzxtCAA9/rCAA/4rCAAtvqCAA9mlCAAzkkCAA1wiCAA18/BAAj69BAAvy8BAAjn1BAA1q6BAAt",
  "30BAAhlzBAAp4zCAAzvzCAAhuyCAAttkCAA7t4BAAtv3BAAxttCAA76sCAAxirCAAt/mCAAv2+BAAjjjCAAns1CAA/qx",
  "CAAl8uCAAh/tCAA/4sCAA1/iCAAp0iCAAph9BAAz28BAA53zBAA3rxBAA1mxBAA35wBAAzi1CAAvggCAAlg0BAA/vxBA",
  "AvtsCAAnz1CAAhu0CAA78uCAA73uCAApiqCAA57nCAAj/jCAA93hCAArs6BAAt00BAAtjtBAA5zpCAAv5xBAA7zzCAA5",
  "kpCAAr9oCAAxomCAA9ylCAAl8iCAAnniCAAl2gCAA9r+BAAj3wBAAnm0CAAn6rCAA11xBAAx60CAA3ruCAA3+lCAA5q1",
  "BAA5ktCAAppsCAAl8oCAAnljCAAr1xBAAn7zCAA98yCAAz3uCAA58pCAAlppCAAzzoCAA7vmCAA79iCAAlgiCAA5m9BA",
  "Avx4BAAtw4BAA5h0BAAvwxBAA3qzCAAjzlCAA/8yCAA7hkCAAt1iCAAr/5BAA70xBAA15uBAAn1tBAA5lpCAAzimCAA7",
  "g8BAA3y/BAAvt/BAAt2+BAAzzjCAAj2kCAAnq3BAA5z1CAAvs7BAAp8zCAAx/zCAA11tCAA9yrCAA5y+BAA9nvCAAtum",
  "CAAj1pCAA3s1BAA374BAA37xBAA9n4BAAvztCAA3s0CAA5kyCEAr7wCCA75pCEAtj0CAA3ujCAA50hCAA3tgCAA1rgCA",
  "AprgCAA3ogCAArsxBAA91+BAAhm9BCA7g6BCAzy3BEA5+0BAAxy0BGA1zwBAA9ywBAAnwwBAAxnuBAA/00BAAv3xBAAj",
  "o1CAAz00CAApu0CAAz2zCAA/0zCAAnuzCAAxpyCAAhjyCAA/8xCAAx/wCAAj5wCAAt9uCAA78uCAAx6sCAArtsCAAhrs",
  "CAA7ksCAAjvqCAA/lqCAAj7pCAA97oCAA7smCAA3imCAApylCAAztkCAA7hkCAAvijCAAz7gCAA7wgCAAnwgCAArwgCA",
  "A9vgCAAzvgCAAnvgCABpsgCAAnhgCAAn9/BAArp/BAAlm+BAA9k+BAAvh+BAAvu9BAArl9BAA9m8BAAn+7BAAp+7BAAv",
  "g7BAA/04BAA1s4BAAh23BAAzy3BAAh52BAA512BAA/q1BAA9i1BAAp4xBAAzmxBAA9ixBAAr/sCAAkokFAApl8BEAzk2",
  "CAA3r0CAAzw0CAAlv1CAA9y0CAApv0CAA96zCAA53zCAA1tyCAAnyyCAAhuyCAAxpyCAAjixCAAz8wCAAzzwCAA1ywCA",
  "A7hwCAAx1vCAA/6tCAAz6tCAA1xtCAAvttCAA76sCAAxzsCAA/3sCAA1vsCAAzysCAAxpsCAAvlsCAAxsrCAAjnrCAA5",
  "jrCAAzzqCAA5hqCAA13pCAAv3pCAA7zpCAA3xnCAA3tnCAAr1mCAA57lCAA78lCAAv3lCAA5nlCAA7ykCAArvhCAAxmk",
  "CAA/+jCAAr3jCAA/ijCAA35iCAAv2iCAAtoiCAAroiCAA39hCAA38hCAAn7hCAA91hCAAz2hCAA99gCAA1//BAA5u/BA",
  "Alj/BAAn1+BAA3r+BAAl39BAA5q9BAAh27BAAps7BAA3z5BAAp34BAAhz4BAAjy4BAAz/3BAAj83BAA/+3BAA173BAA9",
  "73BAAh93BAAr43BAArz3BAAx72BAAz41BAAhl1BAA1y0BAA9k0BAAzkyBAAn+xBAAj3xBAA7uxBAA1sxBAA/rxBAAhpx",
  "BAA17vBAAjztBAA232EAAo32EAAow8EAApz/CAA1r9CAA1p9CAAo3rFAA0/wFAA4/hGAAp5tBAA10tBsEA7z6DAAh16D",
  "AB906DACx06DAA9z6DAA7z6DAA7v9DsCA9t6DAA/t6DAAtt6DAAvt6DAAxt6DAAzt6DAAvt6DAAxt6DAAzt6DAA1t6DA",
  "Azt6DAA1t6DAA3t6DAA5t6DAAnu6DAApu6DAAru6DAAtu6DAAlu6DAAnu6DAApu6DAAru6DAA5u6DAA7u6DAA9u6DAA/",
  "u6DAArs6DAAts6DAAvs6DAAxs6DAAvs6DAAxs6DAAzs6DAA1s6DAA7u6DAA9u6DAA/u6DAAhv6DAAlv6DAAnv6DAApv6",
  "DAArv6DAAnv6DAApv6DAArv6DABtv6DAAvv6DAAxv6DAAzv6DAApv6DAArv6DAAvv6DAAxv6DAAvv6DAAxv6DAA/v6DA",
  "Ahw6DAAjv6DAAlv6DAA1v6DAA3v6DAApu6DAAru6DAAtu6DAAvu6DAAlu6DAAnu6DAApu6DAAru6DAAlu6DAAnu6DAAp",
  "u6DAAru6DAAxu6DAAzu6DAA1u6DAA3u6DAAnu6DABpu6DAAru6DAAtu6DAAvu6DAAnu6DABpu6DAAru6DAAtu6DAAvu6",
  "DAA3u6DAA5u6DAA7u6DAA9u6DAA3t6DAB5t6DAA7t6DiCAry6DAAty6DAAvy6DAAxy6DAA/w6DAAhx6DAAlx6DAAnx6D",
  "AAlx6DAAnx6DCAlx6DAAnx6DAA1x6DAA3x6DAAxx6DAAzx6DAAnx6DAApx6DAArx6DAAtx6DAA956DAA/56DkBA/y6DA",
  "Ahz6DAAjz6DAAlz6DghBAn++DAA/gnDCBx9+DAAn/+DAAt9+DABhgnDwBA5hvDAA9hvDAAn9+DAAp9+DAB5g/DAA37+D",
  "AA17+DABpinDAB1inDABljnDABtjnDADpjnDEA3++DAA1++DIA7++DAA9++DAA/++DAAni/DAA/knDEAxh/DAA1h/DAA",
  "th/DAArj/DAAnkvDABhj/DAA/9+DAA99+DABxknDAA3j/DAAzj/DABtj/DAArj/DAAvi/DAAti/DAAxi/DCA3g/DABpk",
  "/DAA1i/DoBB9l8DAB/l8DABhm8DABjm8DABlm8DAAnm8DAApm8DABrm8DABtm8DAAvm8DAAxm8DABzm8DAB1m8DAA3m8",
  "DAA5m8DAB7m8DAA9m8DAA/m8DABhn8DAAjn8DAAln8DABnn8DAApn8DAArn8DABtn8DAAvn8DAAxn8DABzn8DAB1n8DA",
  "B3n8DAB5n8DAB7n8DAA9n8DAA/n8DABho8DAAjo8DAAlo8DABno8DAApo8DAAro8DABto8DAAvo8DAAxo8DABzo8DAA1",
  "o8DAA3o8DAB5o8DAA7o8DAA9o8DAB/o8DAAhp8DAAjp8DABlp8DAAnp8DAApp8DAArp8DAA/o8DAAhp8DAAjp8DABlp8",
  "DAAnp8DAApp8DABrp8DAAtp8DAAvp8DABxp8DAAzp8DAA1p8DAB3p8DAA5p8DAA7p8DAB9p8DAA/p8DAAhq8DABjq8DA",
  "Alq8DAAnq8DABpq8DABrq8DABtq8DAAvq8DAAxq8DAAzq8DYf/t/DAZ/r/DAjB/t/DABz9qDAAlz/DABr1nDAAl2nDAA",
  "zmnDAAnnnDAArsnDAApsnDAAnsnDAAlsnDAAjsnDAAxonDAAvonDAAtonDAA3qnDAAnnnDAA9snDAA7snDAA5snDAA3s",
  "nDAB1snDAAzsnDAAxsnDAAvsnDAAtsnDAArsnDAApsnDAAnsnDAAlsnDAAjsnDAAhsnDAA/rnDAA7rnDAA5rnDAA3rnD",
  "AF1rnDAAxrnDAAtrnDAAprnDAAlrnDAEhrnDAA/qnDAA9qnDAF7qnDAA5qnDAAzqnDABpwnDCBhq3DAAx/2DAAjq3DAB",
  "x/2DACnq3DAFz/2DAArp3DAC1q3DAAlp3DAJ3q3DGFhm3DEFlm3DEFpm3DECtm3DGB7z/DAArz/DCA7z/DAA/z/DAA5z",
  "vDCArutDADxlvDAA5ktDAAlitDihCnBwCwIjBwC4JKuCCOuCCGuCCBuC2eBhriEAA5pjEAA1uiEAAjziECAnuiEAAjiu",
  "BAAnuiEAAruiEABpziEAA3/0DAArziEAAhziEAAtuiEAA5yiEAA/yiEAAlziEAAxviEAA7mjEAAzviEAA/yiEAAnxiEA",
  "B9uiEAA9yiEAAw2rDAA9gwBAA/yiEAAs2rDAAjxiEAAq2rDAAzqjEAB5yiEAAnzjEAA3yiEAAi2rDAB1yiEAAzyiEAAl",
  "wiEAArwiEAArkuBAAtwiEAAtyiEAA9ztDCAlyiEABjxiEAA5xiEACr/iEAAi1rDAAo2rDqsCyBgE6JVgC0zFfgCg4qBf",
  "gCgEY2B6hvBZpnmHAJ/rmHswDZ95pHAZx7pHAZl9pHAG5+pHCR5+pHAZtgqHAZhiqHBB1jqHAA1jqHEA1jqHEB1jqHED",
  "1jqHCH1jqHADplqHDBplqHAFplqHCKplqHAZ9mqHAZxoqHABlqqHCDlqqHEHlqqHCGlqqHCZ5rqHABttqHCDttqHCEtt",
  "qHCAttqHGGttqHCZhvqHAZ1wqHAZpyqHAZ9zqHAZx1qHAZl3qHAZ54qHAZt6qHAZh8qHAZ19qHAZp/qHAZ9grHAZxirH",
  "AAl3qHAA7mqHEQtvpHAAhwpHAGtvpHAAzr6GAQhxpHAA/wpHAGhxpHAAxt6GAAtypHAApypHAAnypHAAxxpHAA9xpHAA",
  "hypHAQhzpHAA1zpHAGhzpHAAnv6GAQ10pHAAz0pHAG10pHAAlx6GAAh2pHAA91pHAA71pHAAl1pHAAx1pHAA11pHAQ12",
  "pHAAp3pHAG12pHAA7y6GAQp4pHAAn4pHAGp4pHAA506GAA15pHAAx5pHAAv5pHAA54pHAAl5pHAAp5pHAQp6pHAA96pH",
  "AGp6pHAAv26GAQ97pHAA77pHAG97pHAAt46GAAp9pHAAl9pHAAj9pHAAt8pHAA58pHAA98pHAQ99pHAAx+pHAG99pHAA",
  "j66GAQx/pHAAv/pHAGx/pHAAh86GAA9gqHAA5gqHAA3gqHAAhgqHAAtgqHAAxgqHAA5+pHAA7+pHEJ75rHAJv6rHAJj7",
  "rHAJ37rHAJr8rHgjEI//tHAC9/tHAK7/tHAA3/tHAB1/tHAAh88EAAj3tHAAr/tHAAp/tHAAp2tHAA/5tHAAh4tHAIhi",
  "uHAB/huHAB7huHAA5huHAF3huHAB1huHAAr9tHAAjhuHAAnhuHAA1guHAA/7tHAA1h9EAA37tHkpEhBkC8tCBx9zHAAr",
  "9zHAAn9zHCA57zHAAn9zHAAz9zHAAh9zHAA97zHADt8zHAA19zHAAr9zHAA98zHAA39zHAA/8zHAAj+zHAA/9zHAB1+z",
  "HAAx+zHAAv+zHAAl+zHAAj+zHAAh+zHAA76zHAAl2zHAA53zHAA/6zHCAx/zHAAr/zHCA59zHEAz/zHCA99zHADt+zHA",
  "A1/zHAAr/zHAA9+zHAA3/zHAA/+zHCA//zHAB1g0HAAxg0HCAlg0HCAhg0HMArh0HIAzh0HCA9/zHDBtg0HAA1h0HAAr",
  "h0HCA3h0HAA/g0HCA/h0HEAxi0HCAli0HCAhi0HCAl6zHCA/+zHCAxj0HAArj0HCA5h0HEAzj0HAAhj0HAA9h0HBBti0",
  "HAAti0HAA1j0HAArj0HAA9i0HAA3j0HAA/i0HCA/j0HAB1k0HAAxk0HCAlk0HAAjk0HAAhk0HAA7g0HCA59zHCBxl0HA",
  "Arl0HAAnl0HAB5j0HAAnl0HAAzl0HAAhl0HAA9j0HCCtk0HAA1l0HAArl0HAA9k0HAA3l0HAA/k0HAAjm0HAA/l0HAB1",
  "m0HAAxm0HAAvm0HAAlm0HAAjm0HAAhm0HKAxn0HAArn0HAAnn0HCA5l0HAAnn0HAAzn0HAAhn0HAA9l0HCCtm0HAA1n0",
  "HAArn0HAA9m0HAA3n0HAA/m0HAAjo0HAA/n0HAB1o0HAAxo0HAAvo0HAAlo0HAAjo0HAAho0H+mBAvs4HAAzr4HGZ9s4",
  "HwLA50gHaAp8nGAAzrrGAArkvGAA30gHAAv4xGAA1vsGAAlj0FAA7usGAAn3xGAAx/lGAAxvgGAAjomGAA98vGAAhppG",
  "AAhpwGAA9mmGAAlgwGAA9t6FAAlw+FAAz3yFAAnzsGAA3+uGAAjxhGAAj5nGAAltnGAAxiyGAAhiyGAAh+wFAArkqGAA",
  "//xGAA1jvGAAvynGAA/ryFAA79nGAAhr8FAAx77FAA3ivGAAp7hGAA5ylGAA9ylGAApw+FAAt8vGAAnouGAA7uwFoBAx",
  "rpGAAjmvG85EJ/79Hsg+DAl80KAAx80KAAh80KAAhu7DAAnq0KAAtl0KAA1k0KAApg0KAA74zKAA/2zKAAlyzKAA3zzK",
  "AA72hLAAl94DAAhszKAA1rzKAA3qzKAAzpzKAArv5DAAz1hLAA5qzKAAvozKAA1s5DAA/nzKAAnnzKAA500KAA7mzKAA",
  "rmzKAA5jzBAAvizKAA1hzKAA/zhLAAp+yKAA19yKAA/6yKAA36yKAA9whLAA71yKAA51yKAAl0yKAA7yyKABnyyKAAnx",
  "yKAAluyKAA3tyKAAntyKAA3ryKAAlryKAAjryKAAlryKAAnryKAAvg3DAAp8jKAA3myKAAvlyKAApt2DAA7kyKAAxkyK",
  "AApjyKAA75xKAApgyKAAr/xKAAt9xKAA75xKAA10xKAAjzxKAA/uxKAAhuxKAAhsxKAAjsxKAA7qxKAA5pxKAArpxKAA",
  "voxKAApzwKAArkxKAArzwKAA5/wKAA19wKAAxkzKAAl2vKAAnowKAA9lwKAAtkwKAAzswKAAniwKAAriwKAA36vKAAp3",
  "xDAAv2vKAAn2vKAAr1vKAAl0vKAA3zvKAA5vvKAAv7wDAAt3wDAArnvKAAvkvKAA5jvKAA5ovKAA//uKAAx3gLAA32gL",
  "AAh2uKAA3yuKAA5yuKAAnqvDAAzquKAArpuKAAvouKAA5nuKAAx1uDAAlnuKAA5muKAAhysKAAlluKAApvgLAAthuKAA",
  "zguKAAx7tKAA5+tKAAtptDAAxztKAAtptDAA/wtKAAnxtKAAnwtKAB/ptKAAnlgLAAtotKAA5ltKAAxktKAA7htKAAri",
  "gLAArwrDAA7ggLAA19sKAAx9sKAAt9sKAAn8sKAA5vqBAAj5sKAA/1qDAAh2qDAAjp7JAAj3sKAAl3sKAA98/KAA99iD",
  "AA7rrCAAtzsKAA9ysKAAv7/KAAjwsKAA/ssKAAtssKAArqsKAA9hsKAAt2/KAAr4/KAA9gsKAA/8oDAA79rKAA71rKAA",
  "11rKAAz1rKAA51rKAA/yrKAA5xrKAAzvrKAAxwrKAA9vrKAAhtrKAA7rrKAA1rrKAAjqrKAAvprKAAtlrKAAngrKAAj+",
  "qKAAt2qKAA36mDAA33qKAA77qKAAl1qKAAxzqKAAxtqKAA5smDAA5pqKAA1vqKAAvxqKAAnp/KAAzlqKAArkqKAAviqK",
  "AA9kqKAA1l/KAAx3pKAA51pKAA/rkDAAvupKAAn9oKAAnopKAAp7+KAA7jpKAAv8+KAA5++KAA/zzKAA7zzKAAn9oKAA",
  "xjpKAAxi8JAA7v6KAAh8oKAA77oKAAx7oKAA53oKAAx4oKAAzxiDAAp5+KAApuoKAA11oKAA9ooKAA5loKAArniDAArl",
  "oKAArsoKAAj9nKAAz0+KAAr6nKAAr0nKAA/vnKAAlknKAAxkhDAAjhnKAArt+KAA78mKAAxkgDAA55mKAAnq+KAAh4mK",
  "AAp1mKAB1zmKAAzm/CAA5+tDAA9/+CAA3qmKAA9j+CAA5jmKAA/imKAAtpmKAAx+lKAAj8lKAAz4lKAAh8lKAAz5lKAA",
  "34lKAA/3lKAAv+9CAAl9lKAAxtlKAA1plKAAt99KAA/jlKAApklKAA3j9CAApxlKAAh6kKAAj78CAAl48CAA30kKAAzt",
  "kKAArvkKAAzvkKAA/39KAA5skKAA1pkKAAjqkKAA5mkKAAr/5DAAt9jKAAzr7CAAj4jKAAn36CAAvvjKAA3ujKAAjtjK",
  "AA1x5CAAnqjKAA/ojKAAh/4CAAlx4CAA76iKAA75iKAA7n9KAAr4iKAAnn9KAApn9KAAtuiKAAltiKAA9riKAA3qiKAA",
  "vmiKAAvh9KAA/giKAA9v2CAAv/hKAApq2CAAv8hKAAz5rDAAzyhKAAz50CAAn40CAAxv0CAAj08KAAtz8KAA3khKAA7k",
  "0CAA/k0CAAzi0CAAhh0CABtihKAAvihKAA7/gKAA/w8KAA97gKAApw8KAArr8KAA/yyCAA/vgKAAlsgKAAnogKAA7m8K",
  "AA3yxCAA5//JAAzrxCAA/oxCAAt8/JAA32/JAAxi8KAAxx/JAA/w/JAA3w/JAA/9vCAArrvCAAtrvCAAhn/JAA717KAA",
  "r7uCAA35+JAAz5+JAA5z7KAApuuCAAnp+JAAts7KAA/n+JAAro+JAAzm+JAAp+sCAAxg+JAA3m7KAAt69JAA529JAA1y",
  "9JAA5j7KAAz0rCAA3yrCAA1h7KAA3prCAA3/8JAAxjrCAAl+8JAA938JAAp38JAAhqqCAAxlqCAA5x8JAAr9pCAA9w8J",
  "AAhijDAA366KAA/s8JAA/n8JAAx36KAAtk8JAAhtvKAA/9oCAAl9oCAAr/iDAA7+iDAAz47JAAv47JAA9+0JAAly6KAA",
  "7v7JAApw7JAAnv7JAA9tzKAAju7JAAhu7JAAvt7JAA/q7JAA1lnCAAlr7JAA3n7JAAtj7JAA7+6JAAxn7JAA/96JAAt7",
  "6JAAv06JAA5k7JAAt96JAAr96JAAt86JAA72mCAAzjmCAAhtmCAA3n6KAAtr6JAArr6JAAnp6JAAh+iCAAvk6JAAholC",
  "AAhl6KAA7k6KAA9/kCAA9tkCAAtk6KAAl25JAAv15JAA705JAA505JAA7w5JAA/y5JAA1q5JAAvt5JAAjk5JAAnp5JAA",
  "jl5JAAvj5JAAv+5KAA994JAA/74JAAx85KAAl24JAAh24JAA71hCAA9u4JAAxu4JAAl55KAA9s4JAA9wiLAA5xgCAArm",
  "gCAA9w5KAAtw5KAA9y3JAAlu3JAAtk3JAA532JAA1y+BAAxy2JAAnx2JAA1r2JAA/l2JAAxq9BAAp94DAA9g2JAA9h2J",
  "AA3+1JAA9v4DAAzw1JAAtq1JAA7g6BAAn/5BAA700JAAjv0JAAlt0JAAtr5BAA1s0JAA96zJABhxzJAA72zJAAj/yJAA",
  "t9yJAAl/2BAAlmyJAAzl4KAAxjyJAAzn2BAA3g4KAA/yxJAAjkuKAAjtxJAAhr0BAA59zBAAz43KAAl43KAAzhxJAAh/",
  "yBAAz03KAAt2yBAAl/wJAAn/wJAAt9wJAA1kyBAA/xwJAA/s3KAA1twJAA7lwJAAnkwJAAxgwJAAzj3KAAxtvBAAvvvJ",
  "AA18uJAA9wuJAA9z2KAAhy2KAAvquJAAj0sBAAxx2KAA5wsBAApgsBAAl4rBAAz1tJAA/r2KAA7xtJAAzxtJAAnxtJAA",
  "1wtJAApwtJAAhutJAA5hqB"]

/-- The characters that stand for more than one: the distance from the one before, the
length of the text, and its characters. -/
def expansionText : List String := [
  "oFCgBoYGCgBkYECgBhYDCgBnZDDxBkiI0BADxBkiIyBADzBkiI0BxDCpDnYBCpDqDACpDqDLCsD3FACsD3FIC8VuD6DC",
  "kD+LACkD+LACkD+LACsDqDACsDqDACsDqDACuDqDACuDqDACuDqDkBCkD6DACkD6DACkD6DkHCgBmYACgBnYACgBqYAC",
  "gBoZACgBjYACgBrYmDCoYhY1BCgB5dJCgBhYADgBoYhYhQClrBisBtHCnxB0zBACoyB0zBACn2B0zBACqyB0zB/WC1oC",
  "8pCAC2oC8pCAC3oC8pCAC8oC8pCAChpC8pCACipC8pCACrpC8pCACvpC8pC8DChtC8tCACitC8tCBCvtC8tCzCCyxC8x",
  "CCC4xC8xCiBC2wC8xCAC3wC8xCAC8wC8xCCCrxC8xC9HCh5C85CACi5C85C1WCtyDyxD/DCt2Dy1DoBCr1D50DACr1Dh",
  "1DlDCi6D39DJCs6D39DECx6D39DEC26D39DEC76D39DMCg6D19DJCx7Dy7DBCx7D07DACy9Dg8DADy9Dx7Dg8DACz9Dg",
  "8DADz9Dx7Dg8DHCx7Dg8DRCy8D39DJC88D39DECh9D39DECm9D39DECr9D39DMCw8D19Dg3DChD+VlHCg4H5dACh4H5d",
  "ACi4H5dACj4H5dACk4H5dACl4H5dACm4H5dACn4H5dACg4H5dACh4H5dACi4H5dACj4H5dACk4H5dACl4H5dACm4H5dA",
  "Cn4H5dACg5H5dACh5H5dACi5H5dACj5H5dACk5H5dACl5H5dACm5H5dACn5H5dACg5H5dACh5H5dACi5H5dACj5H5dAC",
  "k5H5dACl5H5dACm5H5dACn5H5dACg7H5dACh7H5dACi7H5dACj7H5dACk7H5dACl7H5dACm7H5dACn7H5dACg7H5dACh",
  "7H5dACi7H5dACj7H5dACk7H5dACl7H5dACm7H5dACn7H5dCCw7H5dACxd5dACsd5dCC29H5dECxd5dACgBzYBCgBzYAC",
  "gBiaADgBoYiaAC07H5dAC3d5dACud5dCCm+H5dEC3d5dADgBzYgYADgBzYhYADgBzYiaNDgB0YgYADgB0YhYADgB0Yia",
  "NDgBoYgYADgBoYhYDC87H5dACpe5dACue5dCC2/H5dECpe5dACgBhYACgB0YYCgBzZbCyhIyhIADyhIyhIyhIBC1hI1h",
  "IAD1hI1hI1hIEChBhBBCgBlYIC/B/BAC/BhBAChB/BNEyhIyhIyhIyhIwCCyDzD3CDhDvBjDADhDvBzDBCwFjDBDjDvB",
  "vDADjDvB1DCCwFmDMCuDvDJCzDtDAD0DlDsDAC0DtDYDmDhD4DUDxBkiI3BADxBkiI5BAExBkiIxBwBADxBkiIzBADyB",
  "kiIzBADxBkiI1BADyBkiI1BADzBkiI1BAD0BkiI1BADxBkiI2BAD1BkiI2BADxBkiI4BADzBkiI4BAD1BkiI4BAD3Bki",
  "I4BACxBkiIBCpDpDADpDpDpDACpD2DBC2DpDAD2DpDpDAE2DpDpDpDACpD4DBC4DpDAD4DpDpDFCpDpDADpDpDpDACpD",
  "2DBC2DpDAD2DpDpDAE2DpDpDpDACpD4DBC4DpDAD4DpDpDNDwBkiIzBiFCrxIrxIADrxIrxIrxIBCuxIuxIADuxIuxIu",
  "xI4RCxBwBACxBxBACxByBACxBzBACxB0BACxB1BACxB2BACxB3BACxB4BACxB5BACyBwBADoBxBpBADoByBpBADoBzBp",
  "BADoB0BpBADoB1BpBADoB2BpBADoB3BpBADoB4BpBADoB5BpBAEoBxBwBpBAEoBxBxBpBAEoBxByBpBAEoBxBzBpBAEo",
  "BxB0BpBAEoBxB1BpBAEoBxB2BpBAEoBxB3BpBAEoBxB4BpBAEoBxB5BpBAEoByBwBpBUDoBhDpBADoBiDpBADoBjDpBA",
  "DoBkDpBADoBlDpBADoBmDpBADoBnDpBADoBoDpBADoBpDpBADoBqDpBADoBrDpBADoBsDpBADoBtDpBADoBuDpBADoBv",
  "DpBADoBwDpBADoBxDpBADoByDpBADoBzDpBADoB0DpBADoB1DpBADoB2DpBADoB3DpBADoB4DpBADoB5DpBADoB6DpB2",
  "qBErxIrxIrxIrxInDD6B6B9BAC9B9BAD9B9B9BlDC92K4Z+tBCgB5kMACgB6kMCCokMqkM/CCzlMomMgIDoBgoEpBADo",
  "BioEpBADoBjoEpBADoBloEpBADoBmoEpBADoBnoEpBADoBpoEpBADoBroEpBADoBsoEpBADoBuoEpBADoBvoEpBADoBw",
  "oEpBADoBxoEpBADoByoEpBADoBggrBpBADoB4ksBpBADoBk3sBpBADoB87tBpBADoBouuBpBADoB0gvBpBADoBslwBpB",
  "ADoBkqxBpBADoBw8xBpBADoBohzBpBADoB0zzBpBADoBgm0BpBADoBs40BpBADoB4q1BpBADoB8nyBpBAEoBkxxBkgyB",
  "pBAEoBkxxBk21BpBBDoBgwTpBADoBs0TpBADoBpwTpBADoB72VpBADoB00TpBADoBtrUpBADoBjwTpBADoBrrUpBADoB",
  "9yTpBADoBh6UpBADoBo4ZpBADoBrjcpBADoB0hbpBADoBo5ZpBADoBxukBpBADoB/4VpBADoBlvZpBADoBqhapBADoBp",
  "4ZpBADoB+pepBADoBtgVpBADoB5zcpBADoBhljBpBADoB9qepBADoB01UpBADoBj3TpBADoB8jVpBADoBm7WpBADoBj3",
  "dpBADoBh4TpBADoBnmjBpBADoB06UpBADoBtrepBADoBx4TpBADoBqvgBpBADoBzvgBpBMDwD0DlDACyBxBACyByBACy",
  "BzBACyB0BACyB1BACyB2BACyB3BACyB4BACyB5BACzBwBACzBxBACzByBACzBzBACzB0BACzB1BcC4hzBgnrBAC8nyB4",
  "6xBzBCzB2BACzB3BACzB4BACzB5BAC0BwBAC0BxBAC0ByBAC0BzBAC0B0BAC0B1BAC0B2BAC0B3BAC0B4BAC0B5BAC1B",
  "wBACxBo4ZACyBo4ZACzBo4ZAC0Bo4ZAC1Bo4ZAC2Bo4ZAC3Bo4ZAC4Bo4ZAC5Bo4ZADxBwBo4ZADxBxBo4ZADxByBo4Z",
  "ACoDnDADlDyDnDAClD2DADsD0DkDvBCk3TskVAEilMxmM8nMomMAEilMrnM1mMhlMAEilMznM6mMilMADilM8nMrnMAE",
  "klMrmMznMwlMADklMznMhmMADmlMplMznMAFolM5lMvlM8nMpmMAEolM8nMrlM8nMADqlMznM5lMADqlM8nMgnMADrlM",
  "klMqnMAErlMpnMjmMomMAErlMtnMqnM8nMADslMtnMznMADslMznM+mMACulMslMADulMrmM8nMAEtlMlnMqnM8nMAEu",
  "lMrnMgmM8nMACtlMtnMAFtlMtnMwlMpnMgnMAGtlMtnMhnM8nMomMrnMAFtlMtnMvnMjmMomMADwlMpnMgnMAFwlMpnM",
  "gnMomMznMAFvlMrnM8lMklMtnMAEvlMtnM8nMtmMADxlM8nM5lMADzlMrnMqmMADzlM8nM9mMAE1lMklMvlMrnMAF1lM",
  "znMhmM8nMgnMAE3lMqnMznMwlMAD7lMznMhmMAD7lMznMomMADgmM8nM5lMACnmM3lMACpmMrnMAComMznMACqmMumMA",
  "DumMjmMomMADvmMklMkmMAFxmM8nM7lMznMomMADxmM8nMkmMAEwmM8nMsnMrnMAF0mMilM5lMomMrnMAD0mMvlMrnMA",
  "C0mMzlMACzmMrnMAF1mMhlMpnMjmMpmMAE1mMjlM8nMomMAF2mMjmM3lMnlMrnMAD1mMpnMznMAF4mMvlM/lM8nMrnMA",
  "C6mM9lMAD6mMrmMymMAD4mMrnMkmMAD6mMznM5lMAD6mM8nM4lMAD5mM8nM/lMAE9mMklMznMomMAD8mMrnMomMAC7mM",
  "znMAD9mMznMpmMAD7mM8nMrnMAD7mM8nMznMAE+mMklMvlMtnMAD+mMklMrnMAD+mMjmMvmMAD+mMrnMvlMAF+mMznM3",
  "lMnnMznMAE/mMvlMtnMznMAC/mMqnMAF/mMqnMwmM8nMrnMAChnMslMAEhnMslMomMznMAEhnM8nMomMrnMADknM8nMp",
  "mMADknM8nMrnMADmnMilMznMAEqnMjmMomMrnMACqnMpnMADrnM0mM8nMAErnM8nM2mMrnMACsnMgnMAFsnMznMomMyl",
  "MznMADvnMjmMomMACwB5lcACxB5lcACyB5lcACzB5lcAC0B5lcAC1B5lcAC2B5lcAC3B5lcAC4B5lcAC5B5lcADxBwB5",
  "lcADxBxB5lcADxByB5lcADxBzB5lcADxB0B5lcADxB1B5lcADxB2B5lcADxB3B5lcADxB4B5lcADxB5B5lcADyBwB5lc",
  "ADyBxB5lcADyByB5lcADyBzB5lcADyB0B5lcADoDwDhDACkDhDAChD1DADiDhDyDACvD2DACwDjDACkDtDADkDtDyBAD",
  "kDtDzBACpD1DACzzXwwYACtxZskVACnpWj7aACuwZ7lbAEqhav4X64T+peACwDhDACuDhDAC8dhDACtDhDACrDhDACrD",
  "iDACtDiDACnDiDADjDhDsDAErDjDhDsDACwDmDACuDmDAC8dmDAC8dnDACtDnDACrDnDACoD6DADrDoD6DADtDoD6DAD",
  "nDoD6DAD0DoD6DAC8dsDACtDsDACkDsDACrDsDACmDtDACuDtDAC8dtDACtDtDACjDtDACrDtDADtDtDyBADjDtDyBAC",
  "tDyBADrDtDyBADtDtDzBADjDtDzBACtDzBADrDtDzBADtD1wIzDAEtD1wIzDyBACwDhDADrDwDhDADtDwDhDADnDwDhD",
  "ADyDhDkDAFyDhDkD1wIzDAGyDhDkD1wIzDyBACwDzDACuDzDAC8dzDACtDzDACwD2DACuD2DAC8d2DACtD2DACrD2DAC",
  "tD2DACwD3DACuD3DAC8d3DACtD3DACrD3DACtD3DACrDpeACtDpeBCiDxDACjDjDACjDkDAEjD1wIrDnDBCkDiDACnD5",
  "DACoDhDACoDwDACpDuDACrDrDACrDtDACrD0DACsDtDACsDuDADsDvDnDACsD4DACtDiDADtDpDsDADtDvDsDACwDoDB",
  "DwDwDtDACwDyDACzDyDACzD2DAC3DiDAD2D1wItDADhD1wItDACxBlvZACyBlvZACzBlvZAC0BlvZAC1BlvZAC2BlvZA",
  "C3BlvZAC4BlvZAC5BlvZADxBwBlvZADxBxBlvZADxByBlvZADxBzBlvZADxB0BlvZADxB1BlvZADxB2BlvZADxB3BlvZ",
  "ADxB4BlvZADxB5BlvZADyBwBlvZADyBxBlvZADyByBlvZADyBzBlvZADyB0BlvZADyB1BlvZADyB2BlvZADyB3BlvZAD",
  "yB4BlvZADyB5BlvZADzBwBlvZADzBxBlvZADnDhDsDg4xBCmDmDACmDpDACmDsDADmDmDpDADmDmDsDACzD0DACzD0DM",
  "C0rB2rBAC0rBlrBAC0rBrrBAC+rB2rBAC0rBtrBFC5uB0tBBCyvB3tBKCpvBhuBACpvBiuBADpvB8tBhuBADpvB8tBiu",
  "BACwuB3tBACwuB4tBACwuB8tBACxuB8tBACyuB8tBACzuB8tBAC0uB8tBAC1uB8tBAC2uB8tBBC4uB8tBAC5uB8tBAC6",
  "uB8tBAC7uB8tBAC8uB8tBBC+uB8tBBCgvB8tBAChvB8tBBCjvB8tBACkvB8tBBCmvB8tBACnvB8tBACovB8tBACpvB8t",
  "BACqvB8tBAC1uB5tBACxuB/tBAC7uB/tBACkvB/tBACwuB8uBtECn2B0zBMCmxBnxBACmxBnxBACmxB12BACmxB12BAC",
  "mxBoyBACmxBoyBACmxBn2BACmxBn2BACmxBm2BACmxBm2BACmxBo2BACmxBo2BACmxBw2BACmxBw2BACmxBw2BACmxBp",
  "yBACmxBpyBACmxBpyBECmxBsxBACmxBtxBACmxBlyBACmxBpyBACmxBqyBACoxBsxBACoxBtxBACoxBuxBACoxBlyBAC",
  "oxBpyBACoxBqyBACqxBsxBACqxBtxBACqxBuxBACqxBlyBACqxBpyBACqxBqyBACrxBsxBACrxBlyBACrxBpyBACrxBq",
  "yBACsxBtxBACsxBlyBACtxBsxBACtxBlyBACuxBsxBACuxBtxBACuxBlyBACzxBsxBACzxBtxBACzxBuxBACzxBlyBAC",
  "1xBtxBAC1xBlyBAC2xBsxBAC2xBtxBAC2xBuxBAC2xBlyBAC3xBtxBAC3xBlyBAC4xBlyBAC5xBsxBAC5xBlyBAC6xBs",
  "xBAC6xBlyBAChyBsxBAChyBtxBAChyBuxBAChyBlyBAChyBpyBAChyBqyBACiyBtxBACiyBlyBACiyBpyBACiyBqyBAC",
  "jyBnxBACjyBsxBACjyBtxBACjyBuxBACjyBkyBACjyBlyBACjyBpyBACjyBqyBACkyBsxBACkyBtxBACkyBuxBACkyBl",
  "yBACkyBpyBACkyBqyBAClyBsxBAClyBtxBAClyBuxBAClyBlyBAClyBpyBAClyBqyBACmyBsxBACmyBtxBACmyBuxBAC",
  "myBlyBACmyBpyBACmyBqyBACnyBsxBACnyBlyBACnyBpyBACnyBqyBACqyBsxBACqyBtxBACqyBuxBACqyBlyBACqyBp",
  "yBACqyBqyBACwxBwzBACxxBwzBACpyBwzBADgBsyBxyBADgBtyBxyBADgBuyBxyBADgBvyBxyBADgBwyBxyBADgBxyBw",
  "zBACmxBxxBACmxByxBACmxBlyBACmxBmyBACmxBpyBACmxBqyBACoxBxxBACoxByxBACoxBlyBACoxBmyBACoxBpyBAC",
  "oxBqyBACqxBxxBACqxByxBACqxBlyBACqxBmyBACqxBpyBACqxBqyBACrxBxxBACrxByxBACrxBlyBACrxBmyBACrxBp",
  "yBACrxBqyBAChyBpyBAChyBqyBACiyBpyBACiyBqyBACjyBnxBACjyBkyBACjyBlyBACjyBpyBACjyBqyBACkyBlyBAC",
  "kyBpyBACkyBqyBAClyBnxBAClyBlyBACmyBxxBACmyByxBACmyBlyBACmyBmyBACmyBpyBACmyBqyBACpyBwzBACqyBx",
  "xBACqyByxBACqyBlyBACqyBmyBACqyBpyBACqyBqyBACmxBsxBACmxBtxBACmxBuxBACmxBlyBACmxBnyBACoxBsxBAC",
  "oxBtxBACoxBuxBACoxBlyBACoxBnyBACqxBsxBACqxBtxBACqxBuxBACqxBlyBACqxBnyBACrxBlyBACsxBtxBACsxBl",
  "yBACtxBsxBACtxBlyBACuxBsxBACuxBlyBACzxBsxBACzxBtxBACzxBuxBACzxBlyBAC1xBtxBAC1xBuxBAC1xBlyBAC",
  "2xBsxBAC2xBtxBAC2xBuxBAC2xBlyBAC3xBtxBAC4xBlyBAC5xBsxBAC5xBlyBAC6xBsxBAC6xBlyBAChyBsxBAChyBt",
  "xBAChyBuxBAChyBlyBACiyBtxBACiyBlyBACjyBsxBACjyBtxBACjyBuxBACjyBkyBACjyBlyBACkyBsxBACkyBtxBAC",
  "kyBuxBACkyBlyBACkyBnyBAClyBsxBAClyBtxBAClyBuxBAClyBlyBACmyBsxBACmyBtxBACmyBuxBACmyBlyBACmyBn",
  "yBACnyBsxBACnyBlyBACnyBwzBACqyBsxBACqyBtxBACqyBuxBACqyBlyBACqyBnyBACmxBlyBACmxBnyBACoxBlyBAC",
  "oxBnyBACqxBlyBACqxBnyBACrxBlyBACrxBnyBACzxBlyBACzxBnyBAC0xBlyBAC0xBnyBACjyBkyBACjyBlyBACkyBl",
  "yBACmyBlyBACmyBnyBACqyBlyBACqyBnyBADgyBuyBxyBADgyBvyBxyBADgyBwyBxyBAC3xBpyBAC3xBqyBAC5xBpyBA",
  "C5xBqyBAC6xBpyBAC6xBqyBACzxBpyBACzxBqyBAC0xBpyBAC0xBqyBACtxBpyBACtxBqyBACsxBpyBACsxBqyBACuxB",
  "pyBACuxBqyBAC1xBpyBAC1xBqyBAC2xBpyBAC2xBqyBAC0xBsxBAC0xBtxBAC0xBuxBAC0xBlyBAC0xBxxBACzxBxxBA",
  "C1xBxxBAC2xBxxBAC3xBpyBAC3xBqyBAC5xBpyBAC5xBqyBAC6xBpyBAC6xBqyBACzxBpyBACzxBqyBAC0xBpyBAC0xB",
  "qyBACtxBpyBACtxBqyBACsxBpyBACsxBqyBACuxBpyBACuxBqyBAC1xBpyBAC1xBqyBAC2xBpyBAC2xBqyBAC0xBsxBA",
  "C0xBtxBAC0xBuxBAC0xBlyBAC0xBxxBACzxBxxBAC1xBxxBAC2xBxxBAC0xBsxBAC0xBtxBAC0xBuxBAC0xBlyBACzxB",
  "nyBAC0xBnyBAC3xBlyBACzxBsxBACzxBtxBACzxBuxBAC0xBsxBAC0xBtxBAC0xBuxBAC3xBlyBAC4xBlyBACnxBryBA",
  "CnxBryBSDqxBsxBlyBADqxBtxBsxBADqxBtxBsxBADqxBtxBlyBADqxBuxBlyBADqxBlyBsxBADqxBlyBtxBADqxBlyB",
  "uxBADsxBlyBtxBADsxBlyBtxBADtxBlyBqyBADtxBlyBpyBADzxBtxBsxBADzxBsxBtxBADzxBsxBpyBADzxBlyBtxBA",
  "DzxBlyBtxBADzxBlyBsxBADzxBlyBlyBADzxBlyBlyBAD1xBtxBtxBAD1xBtxBtxBAD1xBlyBlyBAD0xBtxBlyBAD0xB",
  "txBlyBAD0xBsxBqyBAD0xBlyBuxBAD0xBlyBuxBAD0xBlyBlyBAD0xBlyBlyBAD2xBtxBpyBAD2xBuxBlyBAD2xBuxBl",
  "yBAD3xBlyBtxBAD3xBlyBtxBAD3xBlyBlyBAD3xBlyBqyBAD5xBsxBlyBAD5xBlyBlyBAD5xBlyBlyBAD5xBlyBpyBAD",
  "6xBlyBlyBAD6xBlyBqyBAD6xBlyBpyBADhyBuxBlyBADhyBuxBlyBADiyBlyBtxBADiyBlyBlyBADkyBtxBlyBADkyBt",
  "xBqyBADkyBtxBpyBADkyBsxBsxBADkyBsxBsxBADkyBuxBlyBADkyBuxBlyBADkyBlyBtxBADkyBlyBtxBADlyBtxBsx",
  "BADlyBtxBlyBADlyBtxBqyBADlyBsxBtxBADlyBsxBlyBADlyBuxBsxBADlyBuxBlyBCDlyBsxBuxBADnyBlyBsxBADn",
  "yBlyBlyBADmyBtxBlyBADmyBtxBpyBADmyBsxBlyBADmyBsxBlyBADmyBsxBpyBADmyBlyBqyBADmyBlyBpyBADqyBly",
  "BlyBADqyBlyBlyBADoxBuxBqyBADqxBsxBqyBADqxBsxBpyBADqxBuxBqyBADqxBuxBpyBADqxBlyBqyBADqxBlyBpyB",
  "ADsxBlyBqyBADsxBtxBpyBADsxBlyBpyBADzxBuxBpyBAD1xBtxBqyBAD0xBtxBqyBAD2xBtxBqyBADkyBsxBqyBADky",
  "BlyBqyBADqyBtxBqyBADqyBsxBqyBADqyBlyBqyBADlyBlyBqyBADiyBlyBqyBADmyBtxBqyBADiyBlyBtxBADkyBtxB",
  "lyBAD5xBlyBqyBADjyBlyBqyBADmyBsxBtxBADlyBuxBqyBADkyBsxBlyBADjyBlyBlyBADkyBsxBlyBADmyBsxBtxBA",
  "DsxBtxBqyBADtxBsxBqyBADlyBsxBqyBADhyBlyBqyBADoxBtxBqyBADjyBlyBlyBAD5xBsxBlyBAD1xBlyBlyBADzxB",
  "uxBqyBADmyBsxBqyBoBD1xBkyBy2BADiyBkyBy2BAEnxBkyBkyBnyBAEnxBjyBoxBxxBAElyBtxBlyBvxBAE1xBkyB5x",
  "BlyBAExxBzxBoyBkyBAE5xBkyBqyBnyBAEoyBzxBkyBlyBAD1xBkyBpyBAS1xBkyBpyBgBnxBkyBkyBnyBgB5xBkyBqy",
  "BnyBgBoyBzxBkyBlyBAIsxBkyBgBsxBkyBnxBkyBnyBAExxBs2BnxBkyBsCCgBlYACgBlYACgBlYACgBlYjBCgBryBAC",
  "gyBryBACgBsyBBCgBtyBBCgBuyBACgyBuyBACgBvyBACgyBvyBACgBwyBACgyBwyBACgBxyBACgyBxyBACgByyBACgyB",
  "yyB1DCkyBixBACkyBixBACkyBjxBACkyBjxBACkyBlxBACkyBlxBACkyBnxBACkyBnxBmHCgBkY6r0BC3q0Dlr0DAC4q",
  "0Dlr0DAD4q0Dlr0Dur0DAD4q0Dlr0Dvr0DAD4q0Dlr0Dwr0DAD4q0Dlr0Dxr0DAD4q0Dlr0Dyr0D2CC5t0Dlr0DAC6t0",
  "Dlr0DAD5t0Dlr0Dur0DAD6t0Dlr0Dur0DAD5t0Dlr0Dvr0DAD6t0Dlr0Dvr0Dg6HCwBsBACxBsBACyBsBACzBsBAC0Bs",
  "BAC1BsBAC2BsBAC3BsBAC4BsBAC5BsBFDoBhDpBADoBiDpBADoBjDpBADoBkDpBADoBlDpBADoBmDpBADoBnDpBADoBo",
  "DpBADoBpDpBADoBqDpBADoBrDpBADoBsDpBADoBtDpBADoBuDpBADoBvDpBADoBwDpBADoBxDpBADoByDpBADoBzDpBA",
  "DoB0DpBADoB1DpBADoB2DpBADoB3DpBADoB4DpBADoB5DpBADoB6DpBAD0gMzD1gMCCjDkDAC3D6DbCoD2DACtD2DACz",
  "DkDACzDzDADwDwD2DAC3DjDaCtDjDACtDkDACtDyDjBCkDqDvDC7jMriMACzlMzlM+BD0gMs5Z1gMAD0gMpwT1gMAD0g",
  "Ms0T1gMAD0gMp8W1gMAD0gM5lc1gMAD0gMzyY1gMAD0gM32d1gMAD0gM92U1gMAD0gM3qZ1gM"]

/-- The ranges of characters that are valid or passed over. -/
def statuses : List Range :=
  Range.table statusText

/-- A run of characters that stand for one other character. -/
structure Shift where
  first : Nat
  last : Nat
  /-- How far one of them is from the next. -/
  step : Nat
  offset : Int
  deriving DecidableEq, Repr

namespace Shift

/-- The runs that numbers write, where `next` is the code point after the run
before. -/
def ofNumbers (next : Nat) : List Nat → List Shift
  | distance :: length :: offset :: r =>
    let first := next + distance / 2
    let step := distance % 2 + 1
    let last := first + length * step
    ⟨first, last, step, Vlq.signed offset⟩ :: ofNumbers (last + 1) r
  | _ => []

/-- Whether a run holds a character. -/
def holds (s : Shift) (c : Char) : Bool :=
  s.first ≤ c.toNat && c.toNat ≤ s.last && (c.toNat - s.first) % s.step == 0

/-- The character that one of a run stands for. -/
def apply (s : Shift) (c : Char) : Char :=
  Char.ofNat (c.toNat + s.offset).toNat

end Shift

/-- The runs of characters that stand for one other character. -/
def shifts : List Shift :=
  Shift.ofNumbers 0 (Vlq.decode shiftText)

/-- The texts that numbers write, each with its character, where `next` is the
code point after the one before and `count` bounds how many there are. -/
def expansionsOf : (count next : Nat) → List Nat → List (Char × List Char)
  | n + 1, next, distance :: length :: r =>
    let c := next + distance
    (Char.ofNat c, (r.take length).map Char.ofNat) :: expansionsOf n (c + 1) (r.drop length)
  | _, _, _ => []

/-- The characters that stand for more than one. -/
def expansions : List (Char × List Char) :=
  let ns := Vlq.decode expansionText
  expansionsOf ns.length 0 ns

/-- Whether a character stands for itself. In ASCII these are all but the upper
case letters. -/
def isValid (c : Char) : Bool :=
  if c.toNat < 128 then !c.isUpper else Range.value? statuses c == some 1

/-- The text that a character stands for, if domains have it. -/
def mapped? (c : Char) : Option (List Char) :=
  if c.toNat < 128 then some [c.toLower]
  else match Range.value? statuses c with
    | some 1 => some [c]
    | some _ => some []
    | none =>
      match shifts.find? (·.holds c) with
      | some s => some [s.apply c]
      | none => expansions.lookup c

end OpenIdProvider.Unicode
