import OpenIdProvider.Proofs.Json
import OpenIdProvider.Token.Claims
import OpenIdProvider.Token.Jws

/-!
# Claims that are read back

The JSON forms of a token's claims and of an assertion's claims are read back as these
claims (`TokenClaims.ofJson?_toJson`, `AssertionClaims.ofJson?_toJson`), and both can be
written as text (`TokenClaims.writable_toJson`, `AssertionClaims.writable_toJson`). Their
times have to be integers of 64 bits, which the seconds of instants are.

Records are read by field: `Record.ofJson?_object` reduces the reading of an object to
that of its members by name, and one law for each kind of field does the rest.
-/

namespace OpenIdProvider

namespace Json

/-! ## Fields -/

/-- Whether `n` is a signed integer of 64 bits. -/
def IsInt64 (n : Int) : Prop :=
  -9223372036854775808 ≤ n ∧ n ≤ 9223372036854775807

theorem int64?_integer {n : Int} (h : IsInt64 n) : int64? (.integer n) = some n := by
  simp only [int64?, integer?, UInt64.size]
  exact if_pos (by simp only [IsInt64] at h; simp; omega)

theorem optional?_of_ne_null {α : Type} {f : Json → Option α} {j : Json} {a : α} (hj : j ≠ .null)
    (h : f j = some a) : optional? f j = some (some a) := by
  rw [optional?, h, Option.map_some]
  exact hj

theorem optional?_ofOption {α : Type} {f : α → Json} {g : Json → Option α} {a : Option α}
    (h : ∀ b ∈ a, optional? g (f b) = some (some b)) : optional? g (ofOption f a) = some a := by
  cases a with
  | none => rfl
  | some b => exact h b rfl

theorem IsInt64.isWord {n : Int} (h : IsInt64 n) : isWord n = true := by
  simp only [IsInt64] at h
  simp only [Json.isWord, UInt64.size]
  simp
  omega

theorem lookup_member (key name : String) (v : Json) (ms : List (String × Json)) :
    ((key, v) :: ms).lookup name = if name = key then some v else ms.lookup name := by
  rw [List.lookup_cons]
  by_cases h : name = key
  · simp [h]
  · rw [if_neg h, (by simpa using h : (name == key) = false)]

theorem lookup_memberIf {α : Type} (key name : String) (f : α → Json) (a : Option α) :
    (memberIf key f a).lookup name = if name = key then a.map f else none := by
  cases a with
  | none => simp [memberIf]
  | some a => rw [memberIf, lookup_member, List.lookup_nil, Option.map_some]

theorem map_fst_memberIf {α : Type} (key : String) (f : α → Json) (a : Option α) :
    ((memberIf key f a).map Prod.fst).Sublist [key] := by
  cases a with
  | none => exact List.nil_sublist _
  | some a => exact List.Sublist.refl _

theorem mem_memberIf {α : Type} {key : String} {f : α → Json} {a : Option α} {m : String × Json}
    (h : m ∈ memberIf key f a) : ∃ b, m.2 = f b := by
  cases a with
  | none => cases h
  | some b => exact ⟨b, by rw [List.mem_singleton.mp h]⟩

namespace Record

variable {α β : Type} {r : Record} {name : String}

theorem lookup_filter (names : List String) (ms : List (String × Json)) :
    (ms.filter fun m => names.contains m.1).lookup name
      = if names.contains name then ms.lookup name else none := by
  induction ms with
  | nil => simp
  | cons m ms ih =>
    obtain ⟨key, v⟩ := m
    rw [List.filter_cons, List.lookup_cons]
    by_cases hm : name = key
    · subst hm
      by_cases hn : name ∈ names
      · simp [hn]
      · simpa [hn] using ih
    · have hne : (name == key) = false := by simpa using hm
      by_cases hn : key ∈ names
      · simpa [hn, hne, List.lookup_cons] using ih
      · simpa [hn, hne] using ih

/-- An object with distinct keys is a record, whose fields are its members of the given
names. -/
theorem ofJson?_object (names : List String) {ms : List (String × Json)}
    (h : (ms.map Prod.fst).Nodup) :
    ∃ r, Record.ofJson? names (.object ms) = some r ∧ r.positional = false ∧
      ∀ name, r.fields.lookup name = if names.contains name then ms.lookup name else none := by
  refine ⟨⟨false, ms.filter fun m => names.contains m.1⟩, ?_, rfl,
    fun _ => lookup_filter names ms⟩
  rw [Record.ofJson?, if_pos (h.sublist (List.filter_sublist.map Prod.fst))]

theorem required_of_lookup {j : Json} {f : Json → Option α} {a : α}
    (h : r.fields.lookup name = some j) (hf : f j = some a) : r.required name f = some a := by
  rw [required, h, Option.bind_some, hf]

theorem withDefault_text {a : Option String} (h : r.fields.lookup name = some (.ofText? a)) :
    r.withDefault name (optional? text?) none = some a := by
  rw [withDefault, h]
  exact optional?_ofOption fun _ _ => rfl

theorem withDefault_of_lookup {j : Json} {f : Json → Option α} {a d : α}
    (h : r.fields.lookup name = some j) (hf : f j = some a) :
    r.withDefault name f d = some a := by
  rw [withDefault, h]
  exact hf

/-- A value that is written when it is there is read back, whether or not it is. -/
theorem optional_of_lookup {g : α → Json} {f : Json → Option α} {a : Option α}
    (hr : r.positional = false) (h : r.fields.lookup name = a.map g)
    (hf : ∀ b, optional? f (g b) = some (some b)) : r.optional name f = some a := by
  rw [optional, h, hr]
  cases a with
  | none => rfl
  | some b => exact hf b

theorem required_text {s : String} (h : r.fields.lookup name = some (.string s)) :
    r.required name text? = some s :=
  required_of_lookup h rfl

theorem optional_text {a : Option String} (hr : r.positional = false)
    (h : r.fields.lookup name = a.map string) : r.optional name text? = some a :=
  optional_of_lookup hr h fun _ => rfl

end Record

/-! ## Writable objects -/

theorem membersWritable_iff {room : Nat} {ms : List (String × Json)} :
    MembersWritable room ms ↔ ∀ m ∈ ms, Writable room m.2 := by
  induction ms with
  | nil => simp [MembersWritable]
  | cons m ms ih => simp [MembersWritable, ih]

theorem itemsWritable_iff {room : Nat} {vs : List Json} :
    ItemsWritable room vs ↔ ∀ v ∈ vs, Writable room v := by
  induction vs with
  | nil => simp [ItemsWritable]
  | cons v vs ih => simp [ItemsWritable, ih]

theorem writable_object {room : Nat} {ms : List (String × Json)}
    (h : ∀ m ∈ ms, Writable room m.2) : Writable (room + 1) (.object ms) := by
  rw [Writable]
  exact ⟨by omega, membersWritable_iff.mpr h⟩

theorem writable_ofTexts (room : Nat) (ss : List String) : Writable (room + 1) (.ofTexts ss) := by
  rw [ofTexts, Writable]
  refine ⟨by omega, itemsWritable_iff.mpr fun v hv => ?_⟩
  obtain ⟨s, -, rfl⟩ := List.mem_map.mp hv
  simp [Writable]

/-- Items that are each read back make a list that is. -/
theorem list?_map {α : Type} {f : Json → Option α} {g : α → Json} {as : List α}
    (h : ∀ a ∈ as, f (g a) = some a) : list? f (.array (as.map g)) = some as := by
  rw [list?]
  induction as with
  | nil => rfl
  | cons a as ih =>
    rw [List.map_cons, List.mapM_cons, h a List.mem_cons_self,
      ih fun b hb => h b (List.mem_cons_of_mem a hb)]
    rfl

theorem list?_ofTexts (ss : List String) : list? text? (.ofTexts ss) = some ss :=
  list?_map fun _ _ => rfl

end Json

open Json Json.Record

/-- The second of an instant is an integer of 64 bits. -/
theorem Instant.isInt64_second (t : Instant) : IsInt64 t.second :=
  ⟨by have := t.first_le; omega, by have := t.le_last; omega⟩

/-! ## Parts of claims -/

theorem Audience.ofJson?_toJson (a : Audience) : Audience.ofJson? a.toJson = some a := by
  cases a with
  | single p => rfl
  | many ps =>
    show (list? text? (.ofTexts ps)).map Audience.many = some (.many ps)
    rw [list?_ofTexts, Option.map_some]

theorem Audience.writable_toJson (room : Nat) (a : Audience) : Writable (room + 1) a.toJson := by
  cases a with
  | single p => simp [toJson, Writable]
  | many ps => exact writable_ofTexts room ps

theorem Address.ofJson?_toJson (a : Address) : Address.ofJson? a.toJson = some a := by
  have hkeys : ((memberIf "street_address" .string a.streetAddress
      ++ memberIf "locality" .string a.locality ++ memberIf "region" .string a.region
      ++ memberIf "postal_code" .string a.postalCode
      ++ memberIf "country" .string a.country).map Prod.fst).Sublist
      ["street_address", "locality", "region", "postal_code", "country"] := by
    simp only [List.map_append]
    exact ((((map_fst_memberIf _ _ _).append (map_fst_memberIf _ _ _)).append
      (map_fst_memberIf _ _ _)).append (map_fst_memberIf _ _ _)).append (map_fst_memberIf _ _ _)
  obtain ⟨r, hr, hobject, hlookup⟩ := ofJson?_object
    ["street_address", "locality", "region", "postal_code", "country"]
    (List.Nodup.sublist hkeys (by decide))
  simp only [List.lookup_append, lookup_memberIf] at hlookup
  rw [toJson, Address.ofJson?, hr]
  simp only [Option.bind_eq_bind, Option.bind_some]
  rw [optional_text (a := a.streetAddress) hobject (by rw [hlookup]; simp),
    optional_text (a := a.locality) hobject (by rw [hlookup]; simp),
    optional_text (a := a.region) hobject (by rw [hlookup]; simp),
    optional_text (a := a.postalCode) hobject (by rw [hlookup]; simp),
    optional_text (a := a.country) hobject (by rw [hlookup]; simp)]
  rfl

theorem Address.writable_toJson (room : Nat) (a : Address) : Writable (room + 1) a.toJson := by
  refine writable_object fun m hm => ?_
  simp only [List.mem_append] at hm
  rcases hm with (((hm | hm) | hm) | hm) | hm <;>
  · obtain ⟨b, hb⟩ := mem_memberIf hm
    simp [hb, Writable]

theorem TokenType.lookup_name (t : TokenType) : TokenType.names.lookup t.name = some t := by
  cases t <;> rfl

/-! ## The claims of a token -/

namespace TokenClaims

/-- The members of a token's claims. -/
def members (c : TokenClaims) : List (String × Json) :=
  [("iss", .string c.issuer), ("sub", .string c.subject), ("aud", c.audience.toJson),
      ("exp", .integer c.expiresAt), ("iat", .integer c.issuedAt), ("jti", .string c.jti)]
    ++ c.personalMembers ++ memberIf "scope" .string c.scope
    ++ [("tenant_id", .string c.tenantId), ("client_id", .string c.clientId),
      ("token_type", .string c.tokenType.name)]

theorem toJson_eq (c : TokenClaims) : c.toJson = .object c.members := rfl

/-- The names of the members are names of claims, in their order. -/
theorem map_fst_members (c : TokenClaims) : (c.members.map Prod.fst).Sublist names := by
  have hnames : names = ["iss", "sub", "aud", "exp", "iat", "jti"]
      ++ (["name"] ++ ["given_name"] ++ ["middle_name"] ++ ["family_name"] ++ ["email"]
        ++ ["email_verified"] ++ ["phone_number"] ++ ["phone_number_verified"] ++ ["address"]
        ++ ["locale"]) ++ ["scope"] ++ ["tenant_id", "client_id", "token_type"] := rfl
  rw [hnames, members, personalMembers]
  simp only [List.map_append]
  repeat' apply List.Sublist.append
  all_goals first | exact map_fst_memberIf _ _ _ | exact List.Sublist.refl _

theorem nodup_members (c : TokenClaims) : (c.members.map Prod.fst).Nodup :=
  List.Nodup.sublist c.map_fst_members (by decide)

/-- The claims of a token are read back. -/
theorem ofJson?_toJson {c : TokenClaims} (hexp : IsInt64 c.expiresAt) (hiat : IsInt64 c.issuedAt) :
    ofJson? c.toJson = some c := by
  obtain ⟨r, hr, hobject, hlookup⟩ := ofJson?_object names c.nodup_members
  simp only [members, personalMembers, List.lookup_append, lookup_memberIf, lookup_member,
    List.lookup_nil] at hlookup
  rw [toJson_eq, TokenClaims.ofJson?, hr, Option.bind_eq_bind, Option.bind_some]
  rw [required_text (s := c.issuer) ((hlookup _).trans (by simp [names])),
    required_text (s := c.subject) ((hlookup _).trans (by simp [names])),
    required_of_lookup ((hlookup _).trans (by simp [names])) c.audience.ofJson?_toJson,
    required_of_lookup ((hlookup _).trans (by simp [names])) (int64?_integer hexp),
    required_of_lookup ((hlookup _).trans (by simp [names])) (int64?_integer hiat),
    required_text (s := c.jti) ((hlookup _).trans (by simp [names])),
    optional_text (a := c.name) hobject ((hlookup _).trans (by simp [names])),
    optional_text (a := c.givenName) hobject ((hlookup _).trans (by simp [names])),
    optional_text (a := c.middleName) hobject ((hlookup _).trans (by simp [names])),
    optional_text (a := c.familyName) hobject ((hlookup _).trans (by simp [names])),
    optional_text (a := c.email) hobject ((hlookup _).trans (by simp [names])),
    optional_of_lookup (a := c.emailVerified) (g := .bool) hobject
      ((hlookup _).trans (by simp [names])) fun _ => rfl,
    optional_text (a := c.phoneNumber) hobject ((hlookup _).trans (by simp [names])),
    optional_of_lookup (a := c.phoneNumberVerified) (g := .bool) hobject
      ((hlookup _).trans (by simp [names])) fun _ => rfl,
    optional_of_lookup (a := c.address) (g := Address.toJson) hobject
      ((hlookup _).trans (by simp [names])) fun b => optional?_of_ne_null nofun b.ofJson?_toJson,
    optional_text (a := c.locale) hobject ((hlookup _).trans (by simp [names])),
    optional_text (a := c.scope) hobject ((hlookup _).trans (by simp [names])),
    required_text (s := c.tenantId) ((hlookup _).trans (by simp [names])),
    required_text (s := c.clientId) ((hlookup _).trans (by simp [names])),
    required_of_lookup (j := .string c.tokenType.name) ((hlookup _).trans (by simp [names]))
      c.tokenType.lookup_name]
  rfl

theorem writable_toJson (room : Nat) {c : TokenClaims} (hexp : IsInt64 c.expiresAt)
    (hiat : IsInt64 c.issuedAt) : Writable (room + 2) c.toJson := by
  refine writable_object fun m hm => ?_
  simp only [personalMembers, List.mem_append, List.mem_cons, List.not_mem_nil, or_false,
    or_assoc] at hm
  rcases hm with rfl | rfl | rfl | rfl | rfl | rfl | hm | hm | hm | hm | hm | hm | hm | hm | hm
    | hm | hm | rfl | rfl | rfl
  case inr.inr.inl => exact c.audience.writable_toJson room
  case inr.inr.inr.inl => exact hexp.isWord
  case inr.inr.inr.inr.inl => exact hiat.isWord
  all_goals first
    | exact trivial
    | (obtain ⟨b, hb⟩ := mem_memberIf hm
       rw [hb]
       first | exact trivial | exact b.writable_toJson room)

/-- The registered claims of a token can be looked at. -/
theorem registeredClaimsFit_toJson (c : TokenClaims) : registeredClaimsFit c.toJson = true := by
  obtain ⟨r, hr, hobject, hlookup⟩ :=
    ofJson?_object ["exp", "nbf", "sub", "iss", "aud"] c.nodup_members
  simp only [members, personalMembers, List.lookup_append, lookup_memberIf, lookup_member,
    List.lookup_nil] at hlookup
  rw [toJson_eq, registeredClaimsFit, hr]
  simp [hobject, hlookup, isSkippable, isScalar]

end TokenClaims

/-! ## The claims of an assertion -/

namespace AssertionClaims

/-- The members of an assertion's claims. -/
def members (c : AssertionClaims) : List (String × Json) :=
  [("iss", .ofText? c.issuer), ("sub", .ofText? c.subject),
    ("aud", .ofOption Audience.toJson c.audience), ("exp", .ofOption .integer c.expiresAt),
    ("jti", .ofText? c.jti)]

theorem nodup_members (c : AssertionClaims) : (c.members.map Prod.fst).Nodup := by
  simp [members]

/-- The claims of an assertion are read back. -/
theorem ofJson?_toJson {c : AssertionClaims} (hexp : ∀ n ∈ c.expiresAt, IsInt64 n) :
    ofJson? c.toJson = some c := by
  obtain ⟨r, hr, hobject, hlookup⟩ :=
    ofJson?_object ["iss", "sub", "aud", "exp", "jti"] c.nodup_members
  simp only [members, lookup_member, List.lookup_nil] at hlookup
  have haud : ∀ a ∈ c.audience, optional? Audience.ofJson? a.toJson = some (some a) :=
    fun a _ => optional?_of_ne_null (by cases a <;> nofun) a.ofJson?_toJson
  rw [show c.toJson = .object c.members from rfl, AssertionClaims.ofJson?, hr]
  simp only [Option.bind_eq_bind, Option.bind_some]
  rw [withDefault_text (a := c.issuer) ((hlookup _).trans (by simp)),
    withDefault_text (a := c.subject) ((hlookup _).trans (by simp)),
    withDefault_of_lookup (j := .ofOption Audience.toJson c.audience)
      ((hlookup _).trans (by simp)) (optional?_ofOption haud),
    withDefault_of_lookup (j := .ofOption .integer c.expiresAt)
      ((hlookup _).trans (by simp))
      (optional?_ofOption fun n hn => optional?_of_ne_null nofun (int64?_integer (hexp n hn))),
    withDefault_text (a := c.jti) ((hlookup _).trans (by simp))]
  rfl

theorem writable_toJson (room : Nat) {c : AssertionClaims} (hexp : ∀ n ∈ c.expiresAt, IsInt64 n) :
    Writable (room + 2) c.toJson := by
  have htext : ∀ a, Writable (room + 1) (.ofText? a) := fun a => by cases a <;> trivial
  refine writable_object fun m hm => ?_
  simp only [List.mem_cons, List.not_mem_nil, or_false] at hm
  rcases hm with rfl | rfl | rfl | rfl | rfl
  · exact htext _
  · exact htext _
  · show Writable _ (.ofOption _ c.audience)
    cases c.audience with
    | none => trivial
    | some a => exact a.writable_toJson room
  · show Writable _ (.ofOption _ c.expiresAt)
    cases h : c.expiresAt with
    | none => trivial
    | some n => exact (hexp n h).isWord
  · exact htext _

/-- The registered claims of an assertion can be looked at. -/
theorem registeredClaimsFit_toJson (c : AssertionClaims) :
    registeredClaimsFit c.toJson = true := by
  obtain ⟨r, hr, hobject, hlookup⟩ :=
    ofJson?_object ["exp", "nbf", "sub", "iss", "aud"] c.nodup_members
  simp only [members, lookup_member, List.lookup_nil] at hlookup
  have hexp : isSkippable (.ofOption .integer c.expiresAt) = true := by cases c.expiresAt <;> rfl
  have hsub : isScalar (.ofText? c.subject) = true := by cases c.subject <;> rfl
  rw [show c.toJson = .object c.members from rfl, registeredClaimsFit, hr]
  simp [hobject, hlookup, hexp, hsub]

end AssertionClaims

end OpenIdProvider
