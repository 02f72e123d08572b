import Mathlib.Data.List.Induction
import Mathlib.FieldTheory.Finite.Basic
import OpenIdProvider.Key.WebKey
import OpenIdProvider.Proofs.Text

/-!
# RSA numbers and signatures

Numbers and their big-endian bytes are read back from each other: `ofBytes_bigEndian`,
`bigEndian_ofBytes`, `ofBytes_toBytes`. So the key itself is read back from its published
form (`WebKey.publicKey?_signing`).

A key of two different primes whose numbers belong together verifies each signature that it
makes (`verify_of_sign?`).
-/

namespace OpenIdProvider

/-! ## Bytes of numbers -/

namespace Rsa

theorem length_bigEndian (width n : Nat) : (Sha256.bigEndian width n).length = width := by
  rw [Sha256.bigEndian, List.length_map, List.length_range]

theorem ofBytes_append_single (bs : Bytes) (b : UInt8) :
    ofBytes (bs ++ [b]) = 256 * ofBytes bs + b.toNat := by
  simp [ofBytes, List.foldl_append]

theorem bigEndian_succ (width n : Nat) : Sha256.bigEndian (width + 1) n
    = Sha256.bigEndian width (n / 256) ++ [UInt8.ofNat n] := by
  rw [Sha256.bigEndian, List.range_succ, List.map_append]
  congr 1
  · refine List.map_congr_left fun i hi => ?_
    have hi := List.mem_range.mp hi
    rw [show 8 * (width + 1 - 1 - i) = 8 + 8 * (width - 1 - i) by omega, Nat.shiftRight_add,
      Nat.shiftRight_eq_div_pow n 8]
  · simp

/-- A number is read back from its bytes, if they suffice. -/
theorem ofBytes_bigEndian (width n : Nat) :
    ofBytes (Sha256.bigEndian width n) = n % 256 ^ width := by
  induction width generalizing n with
  | zero => simp [Sha256.bigEndian, ofBytes, Nat.mod_one]
  | succ width ih =>
    have hsplit : n % 256 ^ (width + 1) = n % 256 + 256 * (n / 256 % 256 ^ width) := by
      rw [Nat.pow_succ', Nat.mod_mul]
    rw [bigEndian_succ, ofBytes_append_single, ih, UInt8.toNat_ofNat', hsplit]
    omega

theorem ofBytes_lt (bs : Bytes) : ofBytes bs < 256 ^ bs.length := by
  induction bs using List.reverseRecOn with
  | nil => simp [ofBytes]
  | append_singleton bs b ih =>
    have hb := b.toNat_lt
    rw [ofBytes_append_single, List.length_append, List.length_singleton, Nat.pow_succ]
    omega

/-- Bytes are read back from the number that they are. -/
theorem bigEndian_ofBytes (bs : Bytes) : Sha256.bigEndian bs.length (ofBytes bs) = bs := by
  induction bs using List.reverseRecOn with
  | nil => rfl
  | append_singleton bs b ih =>
    have hb := b.toNat_lt
    rw [List.length_append, List.length_singleton, bigEndian_succ, ofBytes_append_single,
      show (256 * ofBytes bs + b.toNat) / 256 = ofBytes bs by omega, ih]
    congr 2
    rw [← UInt8.toNat_inj, UInt8.toNat_ofNat']
    omega

theorem lt_pow_byteLength (n : Nat) : n < 256 ^ byteLength n := by
  rw [show 256 = 2 ^ 8 from rfl, ← Nat.pow_mul, byteLength, bitLength]
  split
  · rename_i h
    subst h
    exact Nat.two_pow_pos _
  · exact Nat.lt_of_lt_of_le Nat.lt_log2_self (Nat.pow_le_pow_right (by decide) (by omega))

theorem pow_byteLength_le {n : Nat} (h : n ≠ 0) : 256 ^ (byteLength n - 1) ≤ n := by
  rw [show 256 = 2 ^ 8 from rfl, ← Nat.pow_mul, byteLength, bitLength, if_neg h]
  exact Nat.le_trans (Nat.pow_le_pow_right (by decide) (by omega)) (Nat.log2_self_le h)

theorem ofBytes_toBytes (n : Nat) : ofBytes (toBytes n) = n := by
  rw [toBytes, ofBytes_bigEndian, Nat.mod_eq_of_lt (lt_pow_byteLength n)]

/-! ## Powers -/

theorem powMod_eq (b e n : Nat) : powMod b e n = b ^ e % n := by
  induction e using Nat.strong_induction_on generalizing b with
  | h e ih =>
    rw [powMod]
    split
    · rename_i h
      rw [h, Nat.pow_zero]
    · rename_i h
      have hhalf : powMod (b * b % n) (e / 2) n = b ^ (2 * (e / 2)) % n := by
        rw [ih (e / 2) (by omega), ← Nat.pow_mod, Nat.pow_mul, Nat.pow_two]
      simp only [hhalf]
      split
      · rw [Nat.mod_mul_mod, ← Nat.pow_succ, show (2 * (e / 2)).succ = e by omega]
      · rw [show 2 * (e / 2) = e by omega]

/-- A power with an exponent of one more than a multiple of `p - 1` changes nothing
modulo a prime `p`. -/
theorem pow_modEq_self {p : Nat} (hp : p.Prime) {e : Nat} (he : e % (p - 1) = 1) (m : Nat) :
    m ^ e ≡ m [MOD p] := by
  have hsplit : e = (p - 1) * (e / (p - 1)) + 1 := by
    have h := Nat.div_add_mod e (p - 1)
    omega
  by_cases hm : p ∣ m
  · have hzero : m ≡ 0 [MOD p] := (Nat.modEq_zero_iff_dvd).mpr hm
    refine Nat.ModEq.trans ((Nat.modEq_zero_iff_dvd).mpr ?_) hzero.symm
    rw [hsplit]
    exact Dvd.dvd.mul_left hm _
  · have hone : m ^ (p - 1) ≡ 1 [MOD p] := by
      have h := Nat.ModEq.pow_totient ((Nat.Prime.coprime_iff_not_dvd hp).mpr hm).symm
      rwa [Nat.totient_prime hp] at h
    calc m ^ e = (m ^ (p - 1)) ^ (e / (p - 1)) * m := by
          rw [← Nat.pow_mul, ← Nat.pow_succ, Nat.succ_eq_add_one, ← hsplit]
      _ ≡ 1 ^ (e / (p - 1)) * m [MOD p] := (hone.pow _).mul_right m
      _ = m := by rw [Nat.one_pow, Nat.one_mul]

/-- The two exponents of a key undo each other. -/
theorem pow_pow_mod {k : PrivateKey} (hk : k.consistent = true) (hp : k.prime1.Prime)
    (hq : k.prime2.Prime) (hne : k.prime1 ≠ k.prime2) {m : Nat} (hm : m < k.modulus) :
    (m ^ k.privateExponent % k.modulus) ^ k.publicExponent % k.modulus = m := by
  simp only [PrivateKey.consistent, Bool.and_eq_true, beq_iff_eq] at hk
  obtain ⟨⟨⟨-, hmodulus⟩, h₁⟩, h₂⟩ := hk
  rw [Nat.mul_comm] at h₁ h₂
  rw [← Nat.pow_mod, ← Nat.pow_mul, ← hmodulus]
  have hcoprime := (Nat.coprime_primes hp hq).mpr hne
  have hboth : m ^ (k.privateExponent * k.publicExponent) ≡ m [MOD k.prime1 * k.prime2] :=
    (Nat.modEq_and_modEq_iff_modEq_mul hcoprime).mp ⟨pow_modEq_self hp h₁ m, pow_modEq_self hq h₂ m⟩
  rw [hboth, Nat.mod_eq_of_lt (hmodulus.symm ▸ hm)]

/-! ## Signatures -/

theorem length_encodedMessage {length : Nat} (h : 54 ≤ length) (message : Bytes) :
    (encodedMessage length message).length = length := by
  have hinfo : (digestInfo ++ Sha256.digest message).length = 51 := by
    rw [List.length_append, Sha256.length_digest]
    rfl
  simp only [encodedMessage, List.length_cons, List.length_append, List.length_replicate, hinfo]
  omega

/-- The block that is signed is below the modulus, as it begins with a zero. -/
theorem ofBytes_encodedMessage_lt {modulus : Nat} (h : 54 ≤ byteLength modulus)
    (hmodulus : modulus ≠ 0) (message : Bytes) :
    ofBytes (encodedMessage (byteLength modulus) message) < modulus := by
  have hlength := length_encodedMessage h message
  obtain ⟨rest, hrest⟩ : ∃ rest, encodedMessage (byteLength modulus) message = 0 :: rest := ⟨_, rfl⟩
  have hzero : ofBytes (0 :: rest) = ofBytes rest := rfl
  rw [hrest, List.length_cons] at hlength
  have hless := ofBytes_lt rest
  rw [show rest.length = byteLength modulus - 1 by omega] at hless
  rw [hrest, hzero]
  exact Nat.lt_of_lt_of_le hless (pow_byteLength_le hmodulus)

/-- A key whose numbers belong together verifies the signatures that it makes. -/
theorem verify_of_sign? {k : PrivateKey} (hk : k.consistent = true) (hp : k.prime1.Prime)
    (hq : k.prime2.Prime) (hne : k.prime1 ≠ k.prime2) (hodd : k.publicExponent % 2 = 1)
    {message signature : Bytes} (h : sign? k message = some signature) :
    verify k.publicKey message signature = true := by
  have hexponent : 2 ≤ k.publicExponent ∧ k.publicExponent ≤ PublicKey.maxExponent := by
    simp only [PrivateKey.consistent, PublicKey.exponentInRange, Bool.and_eq_true,
      decide_eq_true_eq] at hk
    exact hk.1.1.1.1.1
  rw [sign?] at h
  split at h
  · rename_i hsize
    have hbits : 2048 ≤ bitLength k.modulus := by
      simp only [signatureSize, Bool.and_eq_true, decide_eq_true_eq] at hsize
      exact hsize.1
    have hlong : 54 ≤ byteLength k.modulus := by
      rw [byteLength]
      omega
    have hpos : k.modulus ≠ 0 := by
      intro hzero
      rw [hzero] at hbits
      exact absurd hbits (by decide)
    have hless := ofBytes_encodedMessage_lt hlong hpos message
    obtain rfl := Option.some.inj h
    have hpower := Nat.mod_lt (ofBytes (encodedMessage (byteLength k.modulus) message)
      ^ k.privateExponent) (Nat.pos_of_ne_zero hpos)
    have hbytes := bigEndian_ofBytes (encodedMessage (byteLength k.modulus) message)
    rw [length_encodedMessage hlong] at hbytes
    rw [verify, PrivateKey.publicKey]
    simp only [length_bigEndian, ofBytes_bigEndian, powMod_eq, hsize,
      Nat.mod_eq_of_lt (Nat.lt_trans hpower (lt_pow_byteLength _)), hpower,
      pow_pow_mod hk hp hq hne hless, hbytes, hodd, hexponent.2, beq_self_eq_true, decide_true,
      Bool.and_true, Bool.true_and, decide_eq_true_eq]
    omega
  · cases h

end Rsa

/-- A key is read back from its published form. -/
theorem WebKey.publicKey?_signing (keyId : String) (k : Rsa.PublicKey)
    (certificates : Option (List String)) : (signing keyId k certificates).publicKey? = some k := by
  simp only [publicKey?, signing, Base64.decodeUrl?_encodeUrl, Option.bind_eq_bind,
    Option.bind_some, Rsa.ofBytes_toBytes]
  rfl

end OpenIdProvider
