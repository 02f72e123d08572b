import OpenIdProvider.Proofs.Pem
import OpenIdProvider.Proofs.Rsa
import OpenIdProvider.Proofs.Verification

/-!
# Certificates and their key

Those who verify signatures take the key of the provider from the numbers of a published key, and
whom to trust from the certificates beside them. Both come from one text of certificates, and the
first of these is the one that certifies the key (`KeyMaterial.certificates_lead_with_key`).

A text of certificates is read if its lines hold blocks of which none is broken, and the first
certificate among them has an RSA key (`KeyMaterial.certificateChain_eq_ok`).
-/

namespace OpenIdProvider.KeyMaterial

open Pem (Block Holds IsWhole lines)

variable {pem pem' : String} {bs bs' : List Block} {broken : Bool} {chain : CertificateChain}

/-- The blocks that are certificates. -/
def certificateBlocks (bs : List Block) : List Block :=
  bs.filter fun b => b.label == "CERTIFICATE"

theorem certificateBlocks_append (bs bs' : List Block) :
    certificateBlocks (bs ++ bs') = certificateBlocks bs ++ certificateBlocks bs' :=
  List.filter_append _ _

/-- A chain of certificates that some blocks hold. -/
structure CertificateChain.IsOf (chain : CertificateChain) (bs : List Block) : Prop where
  /-- It has the bytes of each block that is a certificate, in base64 and in order. -/
  certificates : (WebKey.chainTexts chain).map Base64.decode?
    = (certificateBlocks bs).map fun b => some b.contents
  /-- The key is that of the first certificate. -/
  publicKey : ∃ text der, (WebKey.chainTexts chain).head? = some text ∧
    Base64.decode? text = some der ∧ leafKey der = .ok chain.publicKey

/-! ## Reading -/

/-- Blocks that are not certificates do not count. -/
theorem certificateChain_congr (h : Holds (lines pem.toList) bs broken)
    (h' : Holds (lines pem'.toList) bs' broken)
    (hsame : certificateBlocks bs = certificateBlocks bs') :
    certificateChain pem = certificateChain pem' := by
  rw [certificateChain, certificateChain, Pem.holds_iff.mp h, Pem.holds_iff.mp h']
  dsimp only
  rw [← certificateBlocks, hsame, certificateBlocks]

theorem certificateChain_of_nil (h : Holds (lines pem.toList) bs broken)
    (hnone : certificateBlocks bs = []) :
    ∃ detail, certificateChain pem = .error (.certificate detail) := by
  rw [certificateChain, Pem.holds_iff.mp h]
  dsimp only
  rw [← certificateBlocks, hnone]
  cases broken
  · exact ⟨_, rfl⟩
  · exact ⟨_, rfl⟩

theorem certificateChain_of_cons {leaf : Block} {more : List Block}
    (h : Holds (lines pem.toList) bs broken) (hleaf : certificateBlocks bs = leaf :: more) :
    certificateChain pem = .ok chain ↔ broken = false ∧
      leafKey leaf.contents = .ok chain.publicKey ∧
        chain.certificates = (leaf :: more).map Block.contents := by
  rw [certificateChain, Pem.holds_iff.mp h]
  dsimp only
  rw [← certificateBlocks, hleaf, List.map_cons, except_bind_eq_ok]
  constructor
  · rintro ⟨key, hkey, h⟩
    obtain ⟨hbroken, h⟩ := except_guard_eq_ok.mp h
    obtain rfl := Except.ok.inj h
    exact ⟨Bool.eq_false_of_not_eq_true hbroken, hkey, rfl⟩
  · obtain ⟨key, certificates⟩ := chain
    rintro ⟨rfl, hkey, rfl⟩
    exact ⟨key, hkey, rfl⟩

theorem map_decode?_chainTexts (chain : CertificateChain) :
    (WebKey.chainTexts chain).map Base64.decode? = chain.certificates.map some := by
  rw [WebKey.chainTexts, List.map_map]
  exact List.map_congr_left fun der _ => Base64.decode?_encode der

theorem CertificateChain.isOf_iff {leaf : Block} {more : List Block}
    (hleaf : certificateBlocks bs = leaf :: more) :
    chain.IsOf bs ↔ leafKey leaf.contents = .ok chain.publicKey ∧
      chain.certificates = (leaf :: more).map Block.contents := by
  have hhead : chain.certificates = (leaf :: more).map Block.contents →
      (WebKey.chainTexts chain).head? = some (Base64.encode leaf.contents) := by
    intro h
    rw [WebKey.chainTexts, h]
    rfl
  constructor
  · rintro ⟨hcertificates, text, der, htext, hder, hkey⟩
    have hsame : chain.certificates.map some = ((leaf :: more).map Block.contents).map some := by
      rw [← map_decode?_chainTexts, hcertificates, hleaf, List.map_map]
      rfl
    have hcontents := List.map_injective_iff.mpr (Option.some_injective _) hsame
    rw [hhead hcontents] at htext
    obtain rfl := Option.some.inj htext
    rw [Base64.decode?_encode] at hder
    obtain rfl := Option.some.inj hder
    exact ⟨hkey, hcontents⟩
  · rintro ⟨hkey, hcontents⟩
    refine ⟨?_, _, _, hhead hcontents, Base64.decode?_encode _, hkey⟩
    rw [map_decode?_chainTexts, hcontents, hleaf, List.map_map]
    rfl

/-- A text is read if its lines hold a chain, and no broken block. -/
theorem certificateChain_eq_ok : certificateChain pem = .ok chain ↔
    ∃ bs, Holds (lines pem.toList) bs false ∧ chain.IsOf bs := by
  have hholds := Pem.holds_blocks pem
  constructor
  · intro h
    cases hcertificates : certificateBlocks (Pem.blocks pem).whole with
    | nil =>
      obtain ⟨detail, herror⟩ := certificateChain_of_nil hholds hcertificates
      cases h.symm.trans herror
    | cons leaf more =>
      obtain ⟨hbroken, hchain⟩ := (certificateChain_of_cons hholds hcertificates).mp h
      rw [hbroken] at hholds
      exact ⟨_, hholds, (CertificateChain.isOf_iff hcertificates).mpr hchain⟩
  · rintro ⟨bs, hwhole, hchain⟩
    cases hcertificates : certificateBlocks bs with
    | nil =>
      obtain ⟨hentries, text, -, htext, -⟩ := hchain
      rw [hcertificates, List.map_nil, List.map_eq_nil_iff] at hentries
      rw [hentries] at htext
      cases htext
    | cons leaf more =>
      exact (certificateChain_of_cons hwhole hcertificates).mpr
        ⟨rfl, (CertificateChain.isOf_iff hcertificates).mp hchain⟩

/-- A whole block that is not a certificate can be left out of a text. -/
theorem certificateChain_append {s m t : String} (hs : IsWhole s.toList) (hm : IsWhole m.toList)
    (h : Holds (lines s.toList) bs false) (h' : Holds (lines m.toList) bs' false)
    (hnone : certificateBlocks bs' = []) :
    certificateChain (s ++ (m ++ t)) = certificateChain (s ++ t) := by
  have ht := Pem.holds_blocks t
  refine certificateChain_congr (h.append_text hs (h'.append_text hm ht)) (h.append_text hs ht) ?_
  rw [certificateBlocks_append, certificateBlocks_append, certificateBlocks_append, hnone,
    List.nil_append]

/-! ## Publication -/

/-- The key of a chain is published with its certificates. -/
theorem webKey_of_certificateChain {k : SigningKey} (h : certificateChain pem = .ok chain)
    (hk : k.keyCertificate = some pem) : WebKey.ofSigningKey k
      = .ok (some (.signing k.keyId chain.publicKey (some (WebKey.chainTexts chain)))) := by
  simp only [WebKey.ofSigningKey, hk, h]
  rfl

/-- **Certificates.** A text of certificates that is read holds whole blocks, and its chain has
each of those that are certificates, in order. The first of them certifies the key of the chain; a
signing key with this text is published with this key and these certificates. Blocks that are not
certificates can be left out, and a text without certificates is refused. -/
theorem certificates_lead_with_key :
    (∀ (pem : String) (chain : CertificateChain),
      (certificateChain pem = .ok chain ↔
        ∃ bs, Holds (lines pem.toList) bs false ∧ chain.IsOf bs) ∧
      ∀ k : SigningKey, certificateChain pem = .ok chain → k.keyCertificate = some pem →
        ∃ w, WebKey.ofSigningKey k = .ok (some w) ∧
          w.certificates = some (WebKey.chainTexts chain) ∧ w.publicKey? = some chain.publicKey) ∧
    (∀ pem pem' bs bs' broken, Holds (lines pem.toList) bs broken →
      Holds (lines pem'.toList) bs' broken → certificateBlocks bs = certificateBlocks bs' →
      certificateChain pem = certificateChain pem') ∧
    (∀ (s m t : String) (bs bs' : List Block), IsWhole s.toList → IsWhole m.toList →
      Holds (lines s.toList) bs false → Holds (lines m.toList) bs' false →
      certificateBlocks bs' = [] → certificateChain (s ++ (m ++ t)) = certificateChain (s ++ t)) ∧
    ∀ pem bs broken, Holds (lines pem.toList) bs broken → certificateBlocks bs = [] →
      ∃ detail, certificateChain pem = .error (.certificate detail) := by
  refine ⟨fun pem chain => ⟨certificateChain_eq_ok, fun k h hk => ?_⟩,
    fun _ _ _ _ _ => certificateChain_congr, fun _ _ _ _ _ => certificateChain_append,
    fun _ _ _ => certificateChain_of_nil⟩
  exact ⟨_, webKey_of_certificateChain h hk, rfl, WebKey.publicKey?_signing _ _ _⟩

namespace CertificateSample

/-- A certificate of a key, without names. -/
def certificate (serial : Nat) (key : Rsa.PublicKey) : Bytes :=
  let name := Der.write Der.tagSequence []
  let time := Der.write Der.tagUtcTime (Utf8.ofString "240101000000Z")
  let validity := Der.write Der.tagSequence (time ++ time)
  let body := Der.write Der.tagSequence
    (Der.writeNatural serial ++ rsaAlgorithm ++ name ++ validity ++ name ++ toSpki key)
  Der.write Der.tagSequence (body ++ rsaAlgorithm ++ Der.write Der.tagBitString [0])

/-- The key of the leaf. -/
def leafPublicKey : Rsa.PublicKey := ⟨3233, 17⟩

/-- The certificate of the leaf. -/
def leaf : Block := ⟨"CERTIFICATE", certificate 1 leafPublicKey⟩

/-- The certificate of its issuer. -/
def issuer : Block := ⟨"CERTIFICATE", certificate 2 ⟨2773, 17⟩⟩

/-- A block that is not a certificate. -/
def other : Block := ⟨"PUBLIC KEY", toSpki ⟨2773, 17⟩⟩

/-- The chain of both certificates. -/
def certified : CertificateChain := ⟨leafPublicKey, [leaf.contents, issuer.contents]⟩

theorem leafKey_leaf : leafKey leaf.contents = .ok leafPublicKey := by
  have hkey : certificateKey? leaf.contents = some (toSpki leafPublicKey) := by decide +kernel
  have hpublic : spkiPublic? (toSpki leafPublicKey) = some leafPublicKey := by decide +kernel
  simp only [leafKey, hkey, hpublic]

theorem writable : leaf.Writable ∧ issuer.Writable ∧ other.Writable := by
  simp only [Block.Writable]
  decide

/-- A public key between the certificates. -/
def text : String := leaf.text ++ (other.text ++ issuer.text)

/-- The start of 2025. -/
def now : Instant := ⟨1735689600, 0, by omega, by omega, .inl (by decide)⟩

/-- A signing key with both certificates. -/
def signingKey : SigningKey :=
  { SigningKey.create "K1" "root" "" now now with keyCertificate := some text }

end CertificateSample

open CertificateSample

/-- A public key between the certificates of a leaf and of its issuer, before both, or left out:
the chain is the same, and is published with the key of the leaf. -/
theorem certificates_around_public_key :
    certificateChain text = .ok certified ∧
    (∃ w, WebKey.ofSigningKey signingKey = .ok (some w) ∧
      w.certificates = some [Base64.encode leaf.contents, Base64.encode issuer.contents] ∧
      w.publicKey? = some leafPublicKey) ∧
    certificateChain (other.text ++ (leaf.text ++ issuer.text)) = .ok certified ∧
    certificateChain (leaf.text ++ issuer.text) = .ok certified ∧
    ∃ detail, certificateChain other.text = .error (.certificate detail) := by
  obtain ⟨hread, hsame, hleft, hnone⟩ := certificates_lead_with_key
  obtain ⟨hleaf, hissuer, hother⟩ := writable
  have hbetween : Holds (lines text.toList) ([leaf] ++ ([other] ++ [issuer])) false :=
    (Block.holds_text hleaf).append_text leaf.isWhole_text
      ((Block.holds_text hother).append_text other.isWhole_text (Block.holds_text hissuer))
  have hbefore : Holds (lines (other.text ++ (leaf.text ++ issuer.text)).toList)
      ([other] ++ ([leaf] ++ [issuer])) false :=
    (Block.holds_text hother).append_text other.isWhole_text
      ((Block.holds_text hleaf).append_text leaf.isWhole_text (Block.holds_text hissuer))
  have hfilter : certificateBlocks ([leaf] ++ ([other] ++ [issuer])) = [leaf, issuer] := rfl
  have hchain : certified.IsOf ([leaf] ++ ([other] ++ [issuer])) :=
    (CertificateChain.isOf_iff hfilter).mpr ⟨leafKey_leaf, rfl⟩
  obtain ⟨haccepted, hpublished⟩ := hread text certified
  have hok := haccepted.mpr ⟨_, hbetween, hchain⟩
  have hmoved := hsame text _ _ _ false hbetween hbefore rfl
  have hwithout := hleft leaf.text other.text issuer.text [leaf] [other] leaf.isWhole_text
    other.isWhole_text (Block.holds_text hleaf) (Block.holds_text hother) rfl
  exact ⟨hok, hpublished signingKey hok rfl, hmoved.symm.trans hok, hwithout.symm.trans hok,
    hnone other.text [other] false (Block.holds_text hother) rfl⟩

end OpenIdProvider.KeyMaterial
