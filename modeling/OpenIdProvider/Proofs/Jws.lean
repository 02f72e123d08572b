import Mathlib.Data.List.TakeDrop
import OpenIdProvider.Proofs.Claims

/-!
# Signed tokens that are read back

A token made by `Jws.create?` is read from its text with the parts that it was made of:
`ofText?_of_create?`, `readHeader_of_create?`, `readPayload_of_create?`. Its signature is
accepted by every check that accepts what its signer makes (`checkSignature_of_create?`).
-/

namespace OpenIdProvider.Jws

/-! ## Parts of a text -/

theorem splitLastDot?_append {a b : List Char} (h : '.' ∉ b) :
    splitLastDot? (a ++ '.' :: b) = some (a, b) := by
  have hb : ∀ c ∈ b.reverse, decide (c ≠ '.') = true := fun c hc => by
    rw [List.mem_reverse] at hc
    exact decide_eq_true fun e => h (e ▸ hc)
  have hspan : (b.reverse ++ '.' :: a.reverse).span (· ≠ '.') = (b.reverse, '.' :: a.reverse) := by
    rw [List.span_eq_takeWhile_dropWhile, List.takeWhile_append_of_pos hb,
      List.dropWhile_append_of_pos hb]
    simp
  rw [splitLastDot?, List.reverse_append, List.reverse_cons, List.append_assoc,
    List.singleton_append, hspan]
  simp only [List.reverse_reverse]

/-- The parts of a token are those of its text, if only the header has dots. -/
theorem ofText?_text {t : Jws} (hp : '.' ∉ t.payload.toList) (hs : '.' ∉ t.signature.toList) :
    ofText? t.text = some t := by
  have hdot : ".".toList = ['.'] := rfl
  have hmessage : t.message.toList = t.header.toList ++ '.' :: t.payload.toList := by
    rw [message, String.toList_append, String.toList_append, hdot, List.append_assoc,
      List.singleton_append]
  have htext : t.text.toList = t.message.toList ++ '.' :: t.signature.toList := by
    rw [text, String.toList_append, String.toList_append, hdot, List.append_assoc,
      List.singleton_append]
  rw [ofText?, htext, splitLastDot?_append hs, hmessage]
  simp only [Option.bind_eq_bind, Option.bind_some, splitLastDot?_append hp, String.ofList_toList]
  rfl

/-! ## Tokens that were made -/

/-- The part of a token that stands for a JSON value. -/
def part (j : Json) : String :=
  Base64.encodeUrl (Utf8.ofString j.render)

theorem jsonOf_part {j : Json} (h : Json.Writable Json.maxDepth j) : jsonOf (part j) = .ok j := by
  simp only [jsonOf, part, Base64.decodeUrl?_encodeUrl, Json.parseBytes?_ofString,
    Json.parse?_render h]

variable {header payload : Json} {sign? : Bytes → Option Bytes} {t : Jws}

/-- A token is made of the parts of its header and its payload and of a signature over both. -/
theorem create?_eq_some (h : create? header payload sign? = some t) :
    t.header = part header ∧ t.payload = part payload ∧
      ∃ s, sign? (Utf8.ofString t.message) = some s ∧ t.signature = Base64.encodeUrl s := by
  simp only [create?, Option.bind_eq_bind, Option.bind_eq_some_iff] at h
  obtain ⟨s, hs, ht⟩ := h
  obtain rfl := Option.some.inj ht
  exact ⟨rfl, rfl, s, hs, rfl⟩

theorem ofText?_of_create? (h : create? header payload sign? = some t) :
    ofText? t.text = some t := by
  obtain ⟨-, hp, s, -, hs⟩ := create?_eq_some h
  refine ofText?_text ?_ ?_
  · rw [hp]
    exact Base64.dot_notMem_encodeUrl _
  · rw [hs]
    exact Base64.dot_notMem_encodeUrl _

theorem readHeader_of_create? (h : create? header payload sign? = some t)
    (hw : Json.Writable Json.maxDepth header) {th : TokenHeader}
    (hth : TokenHeader.ofJson? header = some th) : t.readHeader = .ok th := by
  rw [readHeader, (create?_eq_some h).1, jsonOf_part hw]
  simp only [hth, bind, Except.bind]
  rfl

theorem jsonOf_payload_of_create? (h : create? header payload sign? = some t)
    (hw : Json.Writable Json.maxDepth payload) : jsonOf t.payload = .ok payload := by
  rw [(create?_eq_some h).2.1, jsonOf_part hw]

theorem readPayload_of_create? (h : create? header payload sign? = some t)
    (hw : Json.Writable Json.maxDepth payload) {α : Type} {f : Json → Option α} {a : α}
    (ha : f payload = some a) : t.readPayload f = .ok a := by
  rw [readPayload, jsonOf_payload_of_create? h hw]
  simp only [ha, bind, Except.bind]
  rfl

theorem checkSignature_of_create? (h : create? header payload sign? = some t)
    {accepts : Bytes → Bytes → Bool}
    (ha : ∀ s, sign? (Utf8.ofString t.message) = some s →
      accepts (Utf8.ofString t.message) s = true) : t.checkSignature accepts = .ok () := by
  obtain ⟨-, -, s, hsign, hs⟩ := create?_eq_some h
  simp only [checkSignature, hs, Base64.decodeUrl?_encodeUrl, ha s hsign, if_true]

/-! ## Headers -/

/-- A header that names an algorithm and a key is read. -/
theorem ofJson?_header (a : SignatureAlgorithm) (keyId : Option String) :
    TokenHeader.ofJson? (.object ([("typ", .string "JWT"), ("alg", .string a.name)]
      ++ Json.memberIf "kid" .string keyId)) = some ⟨a, keyId⟩ := by
  cases a <;> cases keyId <;> rfl

theorem writable_header (a : SignatureAlgorithm) (keyId : Option String) :
    Json.Writable Json.maxDepth (.object ([("typ", .string "JWT"), ("alg", .string a.name)]
      ++ Json.memberIf "kid" .string keyId)) := by
  refine Json.writable_object fun m hm => ?_
  rcases List.mem_append.mp hm with hm | hm
  · simp only [List.mem_cons, List.not_mem_nil, or_false] at hm
    rcases hm with rfl | rfl <;> trivial
  · obtain ⟨s, hs⟩ := Json.mem_memberIf hm
    rw [hs]
    trivial

end OpenIdProvider.Jws
