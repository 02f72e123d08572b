import OpenIdProvider.Text.Utf8

/-!
# AES decryption

The inverse cipher for keys of 16 and 32 bytes, and its chaining mode CBC with the
padding that says its own length. The substitution table is computed from its
definition: inversion in the field of 256 elements, then an affine map.
-/

namespace OpenIdProvider.Aes

/-- The product by `x` in the field. -/
def double (b : UInt8) : UInt8 :=
  (b <<< 1) ^^^ (if b &&& 0x80 = 0 then 0 else 0x1b)

/-- The product in the field, from the low eight bits of a factor. -/
def multiply (a b : UInt8) : UInt8 :=
  ((List.range 8).foldl (fun (sum, p) i =>
    (if (a >>> UInt8.ofNat i) &&& 1 = 1 then sum ^^^ p else sum, double p)) ((0 : UInt8), b)).1

/-- The inverse in the field, zero for zero: the power of 254. -/
def inverse (b : UInt8) : UInt8 :=
  let square (x : UInt8) := multiply x x
  ((List.range 6).foldl (fun (power, x) _ =>
    let x := square x
    (multiply power x, x)) (square b, square b)).1

/-- A byte rotated to the left. -/
def rotate (b : UInt8) (n : UInt8) : UInt8 :=
  (b <<< n) ||| (b >>> (8 - n))

/-- The substitution table. -/
def substitution : Array UInt8 :=
  ((List.range 256).map fun n =>
    let b := inverse (UInt8.ofNat n)
    b ^^^ rotate b 1 ^^^ rotate b 2 ^^^ rotate b 3 ^^^ rotate b 4 ^^^ 0x63).toArray

/-- The table that undoes the substitution. -/
def inverseSubstitution : Array UInt8 :=
  (List.range 256).foldl (fun table n =>
    table.set! (substitution.getD n 0).toNat (UInt8.ofNat n)) (Array.replicate 256 0)

/-- The substitute of a byte. -/
def substitute (b : UInt8) : UInt8 :=
  substitution.getD b.toNat 0

/-- The byte whose substitute is given. -/
def unsubstitute (b : UInt8) : UInt8 :=
  inverseSubstitution.getD b.toNat 0

/-- The exclusive or of two byte strings, byte by byte. -/
def xor (a b : Bytes) : Bytes :=
  List.zipWith (· ^^^ ·) a b

/-- The words of four bytes of the key schedule, last word first, after `n` more
of them. A key has `size` words. -/
def expand (size : Nat) : (n : Nat) → (reversed : List Bytes) → (constant : UInt8) → List Bytes
  | 0, ws, _ => ws
  | n + 1, ws, constant =>
    let last := ws.headD []
    let base := ws.getD (size - 1) []
    if ws.length % size = 0 then
      let turned := (last.drop 1 ++ last.take 1).map substitute
      expand size n (xor base (xor turned [constant, 0, 0, 0]) :: ws) (double constant)
    else if 6 < size && ws.length % size = 4 then
      expand size n (xor base (last.map substitute) :: ws) constant
    else expand size n (xor base last :: ws) constant

/-- The pieces of `width` bytes of a byte string. -/
def chunks (width : Nat) : (count : Nat) → Bytes → List Bytes
  | 0, _ => []
  | n + 1, bs => bs.take width :: chunks width n (bs.drop width)

/-- The round keys of a key of 16 or 32 bytes, the last one first. -/
def roundKeys (key : Bytes) : List Bytes :=
  let size := key.length / 4
  let words := expand size (4 * (size + 7) - size) (chunks 4 size key).reverse 1
  (chunks 16 (size + 7) (words.reverse.flatten)).reverse

/-- The rows of a block turned back: byte `4 c + r` comes from column `c - r`. -/
def unshiftRows (block : Bytes) : Bytes :=
  (List.range 16).map fun i => block.getD ((i + 16 - 4 * (i % 4)) % 16) 0

/-- A column of four bytes unmixed. -/
def unmixColumn (column : Bytes) : Bytes :=
  (List.range 4).map fun i =>
    let at_ (k : Nat) := column.getD ((i + k) % 4) 0
    multiply 14 (at_ 0) ^^^ multiply 11 (at_ 1) ^^^ multiply 13 (at_ 2) ^^^ multiply 9 (at_ 3)

/-- The rounds after the first key was added, for the other round keys. -/
def rounds : List Bytes → Bytes → Bytes
  | [], block => block
  | [k], block => xor ((unshiftRows block).map unsubstitute) k
  | k :: k' :: ks, block =>
    let mixed := xor ((unshiftRows block).map unsubstitute) k
    rounds (k' :: ks) ((chunks 4 4 mixed).flatMap unmixColumn)

/-- A block of 16 bytes decrypted. -/
def decryptBlock (keys : List Bytes) (block : Bytes) : Bytes :=
  match keys with
  | [] => block
  | k :: ks => rounds ks (xor block k)

/-- The blocks of a chain decrypted, where `previous` is the cipher block before. -/
def decryptChain (keys : List Bytes) (previous : Bytes) : List Bytes → Bytes
  | [] => []
  | b :: bs => xor (decryptBlock keys b) previous ++ decryptChain keys b bs

/-- A byte string without its padding: `n` bytes of the value `n`, from 1 to 16. -/
def unpad? (bs : Bytes) : Option Bytes :=
  match bs.getLast? with
  | none => none
  | some last =>
    let n := last.toNat
    let body := bs.take (bs.length - n)
    if 1 ≤ n && n ≤ 16 && bs == body ++ List.replicate n last then some body else none

/-- A chain of whole blocks decrypted and freed of its padding. -/
def decryptCbc? (key iv : Bytes) (cipher : Bytes) : Option Bytes :=
  if cipher.length % 16 = 0 && (key.length = 16 || key.length = 32) && iv.length = 16 then
    unpad? (decryptChain (roundKeys key) iv (chunks 16 (cipher.length / 16) cipher))
  else none

end OpenIdProvider.Aes
