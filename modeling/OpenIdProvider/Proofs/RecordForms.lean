import OpenIdProvider.Json.Form
import OpenIdProvider.Proofs.Claims
import OpenIdProvider.Proofs.Timestamp

/-!
# Records that are read back

What is stored, sent or signed as JSON is read back from its text as the same value: tenants,
clients and their updates, users, scopes and their grants, signing keys, the four kinds of
records that expire, the claims of tokens and sets of published keys (`records_read_back`).
The integers of such a value have to fit the machine integers that hold them.

`JsonForm.Faithful` says of one value that its JSON form can be written as text and is read as this
value. An object that has all fields of a record is read field by field
(`Record.ofJson?_of_sublist`), and each kind of field has its law.
-/

namespace OpenIdProvider

open Json Json.Record

/-! ## Kinds of fields -/

namespace Json

@[simp] theorem text?_string (s : String) : text? (.string s) = some s := rfl

@[simp] theorem bool?_bool (b : Bool) : bool? (.bool b) = some b := rfl

@[simp] theorem variant?_string {α : Type} (names : List (String × α)) (s : String) :
    variant? names (.string s) = names.lookup s := rfl

@[simp] theorem optional?_ofText? (a : Option String) : optional? text? (.ofText? a) = some a :=
  optional?_ofOption fun _ _ => rfl

@[simp] theorem optional?_bool (a : Option Bool) :
    optional? bool? (.ofOption .bool a) = some a :=
  optional?_ofOption fun _ _ => rfl

/-- An unsigned integer of 32 bits is read back. -/
theorem natural?_integer {n : Nat} (h : n < UInt32.size) :
    natural? UInt32.size (.integer n) = some n := by
  have hrange : (0 : Int) ≤ n ∧ (n : Int) ≤ (UInt32.size : Nat) - 1 := by omega
  rw [natural?, integer?, if_pos (by simpa only [Bool.and_eq_true, decide_eq_true_eq] using hrange)]
  rfl

theorem optional?_int64 {a : Option Int} (h : ∀ n ∈ a, IsInt64 n) :
    optional? int64? (.ofOption .integer a) = some a :=
  optional?_ofOption fun n hn => optional?_of_ne_null nofun (int64?_integer (h n hn))

theorem isWord_of_lt {n : Nat} (h : n < UInt32.size) : isWord (n : Int) = true := by
  refine IsInt64.isWord ⟨by omega, ?_⟩
  simp only [UInt32.size] at h
  omega

@[simp] theorem writable_ofText? (room : Nat) (a : Option String) :
    Writable room (.ofText? a) := by
  cases a <;> trivial

theorem writable_ofOption {α : Type} {room : Nat} {g : α → Json} {a : Option α}
    (h : ∀ b ∈ a, Writable room (g b)) : Writable room (.ofOption g a) := by
  cases a with
  | none => trivial
  | some b => exact h b rfl

@[simp] theorem writable_optional_bool (room : Nat) (a : Option Bool) :
    Writable room (.ofOption .bool a) :=
  writable_ofOption fun _ _ => trivial

theorem writable_int64 {room : Nat} {a : Option Int} (h : ∀ n ∈ a, IsInt64 n) :
    Writable room (.ofOption .integer a) :=
  writable_ofOption fun n hn => (h n hn).isWord

/-- An object whose keys are some of the names of a record, in order, is a record of its
members. -/
theorem Record.ofJson?_of_sublist {names : List String} {ms : List (String × Json)}
    (hkeys : (ms.map Prod.fst).Sublist names) (hnames : names.Nodup) :
    Record.ofJson? names (.object ms) = some ⟨false, ms⟩ := by
  have hall : ms.filter (fun m => names.contains m.1) = ms := by
    rw [List.filter_eq_self]
    intro m hm
    exact List.contains_iff_mem.mpr (hkeys.subset (List.mem_map_of_mem hm))
  rw [Record.ofJson?, hall, if_pos (hnames.sublist hkeys)]

end Json

/-! ## Parts of records -/

@[simp] theorem Instant.ofJson?_toJson (t : Instant) : ofJson? t.toJson = some t :=
  t.read?_timestamp

@[simp] theorem Instant.writable_toJson (room : Nat) (t : Instant) : Writable room t.toJson := by
  trivial

namespace TextSet

/-- A text before all members of a set takes the first place. -/
theorem place_of_lt {s : String} {ts : List String} (h : ∀ t ∈ ts, s < t) :
    place s ts = s :: ts := by
  cases ts with
  | nil => rfl
  | cons t ts => exact if_pos (h t List.mem_cons_self)

theorem ofList_items (x : TextSet) : ofList x.items = x := by
  have hitems : ∀ ts : List String, ts.Pairwise (· < ·) → (ofList ts).items = ts := by
    intro ts sorted
    induction ts with
    | nil => rfl
    | cons s ts ih =>
      obtain ⟨hfirst, hrest⟩ := List.pairwise_cons.mp sorted
      show place s (ofList ts).items = s :: ts
      rw [ih hrest, place_of_lt hfirst]
  have hsame := hitems x.items x.sorted
  cases x
  cases hx : ofList _
  simpa [hx] using hsame

@[simp] theorem ofJson?_toJson (x : TextSet) : ofJson? x.toJson = some x := by
  rw [ofJson?, toJson, list?_ofTexts, Option.map_some, ofList_items]

@[simp] theorem writable_toJson {room : Nat} (h : 0 < room) (x : TextSet) :
    Writable room x.toJson := by
  obtain ⟨room, rfl⟩ := Nat.exists_eq_succ_of_ne_zero (Nat.pos_iff_ne_zero.mp h)
  exact writable_ofTexts room x.items

end TextSet

@[simp] theorem ClientType.lookup_name (t : ClientType) : names.lookup t.name = some t := by
  cases t <;> rfl

@[simp] theorem NameOrder.lookup_name (o : NameOrder) : names.lookup o.name = some o := by
  cases o <;> rfl

@[simp] theorem KeyUse.lookup_name (u : KeyUse) : names.lookup u.name = some u := by
  cases u <;> rfl

@[simp] theorem KeyStatus.lookup_name (s : KeyStatus) : names.lookup s.name = some s := by
  cases s <;> rfl

@[simp] theorem ResponseMode.lookup_name (m : ResponseMode) : names.lookup m.name = some m := by
  cases m <;> rfl

/-! ## Values that are read back -/

/-- A value whose JSON form can be written as text and is read as this value. -/
structure JsonForm.Faithful {α : Type} [JsonForm α] (a : α) : Prop where
  writable : Writable maxDepth (toJson a)
  ofJson?_toJson : ofJson? (toJson a) = some a

namespace JsonForm.Faithful

variable {α : Type} [JsonForm α] {a : α}

theorem read?_render (h : Faithful a) : read? α (toJson a).render = some a := by
  rw [read?, parse?_render h.writable, Option.bind_some, h.ofJson?_toJson]

/-- A record is read back if its members are, from the record that they are. -/
theorem of_members {names : List String} {ms : List (String × Json)} {read : Record → Option α}
    (hform : toJson a = .object ms)
    (hofJson : ∀ j, JsonForm.ofJson? j = (Record.ofJson? names j).bind read)
    (hkeys : (ms.map Prod.fst).Sublist names) (hnames : names.Nodup)
    (hwritable : MembersWritable (maxDepth - 1) ms) (hread : read ⟨false, ms⟩ = some a) :
    Faithful a where
  writable := by
    rw [hform, Writable]
    exact ⟨by decide, hwritable⟩
  ofJson?_toJson := by
    rw [hform, hofJson, Record.ofJson?_of_sublist hkeys hnames, Option.bind_some, hread]

end JsonForm.Faithful

open JsonForm (Faithful)

/- A field is looked up by the names before it. `String.reduceBEq` compares two of them as
literals; `BEq.rfl` would unify them first, byte by byte. -/

/-! ## Tenants, clients and users -/

/-- A rate limit of integers of 32 bits. -/
def RateLimit.InRange (r : RateLimit) : Prop :=
  r.requests < UInt32.size ∧ r.windowSeconds < UInt32.size

theorem RateLimit.ofJson?_toJson {r : RateLimit} (h : r.InRange) : ofJson? r.toJson = some r := by
  rw [toJson, ofJson?, Record.ofJson?_of_sublist ?keys ?names]
  case keys => exact .refl _
  case names => decide
  simp [-BEq.rfl, required, List.lookup_cons, natural?_integer h.1, natural?_integer h.2]

theorem RateLimit.writable_toJson {r : RateLimit} (h : r.InRange) (room : Nat) :
    Writable (room + 1) r.toJson := by
  simp [toJson, Writable, MembersWritable, isWord_of_lt h.1, isWord_of_lt h.2]

theorem Tenant.faithful {t : Tenant} (h : t.defaultRateLimit.InRange) : Faithful t := by
  refine .of_members rfl (fun _ => rfl) (.refl _) (by decide) ?_ ?_
  · simp [MembersWritable, Writable, maxDepth, RateLimit.writable_toJson h]
  · simp [-BEq.rfl, required, List.lookup_cons, RateLimit.ofJson?_toJson h]

/-- A client whose numbers are integers of 32 and of 64 bits. -/
structure Client.InRange (c : Client) : Prop where
  maxRefreshTokenCount : c.maxRefreshTokenCount < UInt32.size
  endUserTokenTtlSeconds : ∀ n ∈ c.endUserTokenTtlSeconds, IsInt64 n
  refreshTokenTtlSeconds : ∀ n ∈ c.refreshTokenTtlSeconds, IsInt64 n

theorem Client.faithful {c : Client} (h : c.InRange) : Faithful c := by
  refine .of_members rfl (fun _ => rfl) (.refl _) (by decide) ?_ ?_
  · simp [MembersWritable, Writable, maxDepth, isWord_of_lt h.maxRefreshTokenCount,
      writable_int64 h.endUserTokenTtlSeconds, writable_int64 h.refreshTokenTtlSeconds]
  · simp [-BEq.rfl, required, Record.optional, List.lookup_cons,
      natural?_integer h.maxRefreshTokenCount, optional?_int64 h.endUserTokenTtlSeconds,
      optional?_int64 h.refreshTokenTtlSeconds]

/-- An update whose numbers are integers of 32 and of 64 bits. -/
structure ClientUpdate.InRange (u : ClientUpdate) : Prop where
  maxRefreshTokenCount : ∀ n ∈ u.maxRefreshTokenCount, n < UInt32.size
  endUserTokenTtlSeconds : ∀ n ∈ u.endUserTokenTtlSeconds, IsInt64 n
  refreshTokenTtlSeconds : ∀ n ∈ u.refreshTokenTtlSeconds, IsInt64 n

theorem ClientUpdate.faithful {u : ClientUpdate} (h : u.InRange) : Faithful u := by
  refine .of_members rfl (fun _ => rfl) (.refl _) (by decide) ?_ ?_
  · have huris : ∀ x ∈ u.redirectUris, Writable (maxDepth - 1) x.toJson :=
      fun x _ => x.writable_toJson (by decide)
    have hcount : ∀ n ∈ u.maxRefreshTokenCount, Writable (maxDepth - 1) (.integer (n : Nat)) :=
      fun n hn => isWord_of_lt (h.maxRefreshTokenCount n hn)
    simp [MembersWritable, writable_ofOption huris, writable_ofOption hcount,
      writable_int64 h.endUserTokenTtlSeconds, writable_int64 h.refreshTokenTtlSeconds]
  · have huris : optional? TextSet.ofJson? (.ofOption TextSet.toJson u.redirectUris)
        = some u.redirectUris :=
      optional?_ofOption fun x _ => optional?_of_ne_null nofun x.ofJson?_toJson
    have hcount : optional? (natural? UInt32.size)
        (.ofOption (fun n => .integer (n : Nat)) u.maxRefreshTokenCount)
          = some u.maxRefreshTokenCount :=
      optional?_ofOption fun n hn =>
        optional?_of_ne_null nofun (natural?_integer (h.maxRefreshTokenCount n hn))
    simp [-BEq.rfl, Record.optional, List.lookup_cons, huris, hcount,
      optional?_int64 h.endUserTokenTtlSeconds, optional?_int64 h.refreshTokenTtlSeconds]

theorem User.faithful (u : User) : Faithful u := by
  refine .of_members rfl (fun _ => rfl) (.refl _) (by decide) ?_ ?_
  · have haddress : ∀ a ∈ u.address, Writable (maxDepth - 1) a.toJson :=
      fun a _ => a.writable_toJson _
    simp [MembersWritable, Writable, writable_ofOption haddress]
  · have haddress : optional? Address.ofJson? (.ofOption Address.toJson u.address)
        = some u.address :=
      optional?_ofOption fun a _ => optional?_of_ne_null nofun a.ofJson?_toJson
    simp [-BEq.rfl, required, Record.optional, List.lookup_cons, haddress]

theorem Scope.faithful (s : Scope) : Faithful s := by
  refine .of_members rfl (fun _ => rfl) (.refl _) (by decide) ?_ ?_
  · simp [MembersWritable, Writable]
  · simp [-BEq.rfl, required, Record.optional, List.lookup_cons]

theorem ScopeGrant.faithful (g : ScopeGrant) : Faithful g := by
  refine .of_members rfl (fun _ => rfl) (.refl _) (by decide) ?_ ?_
  · simp [MembersWritable, Writable]
  · simp [-BEq.rfl, required, List.lookup_cons]

theorem SigningKey.faithful (k : SigningKey) : Faithful k := by
  refine .of_members rfl (fun _ => rfl) (.refl _) (by decide) ?_ ?_
  · simp [MembersWritable, Writable]
  · simp [-BEq.rfl, required, Record.optional, List.lookup_cons]

/-! ## Records that expire -/

theorem PendingLogin.faithful (l : PendingLogin) : Faithful l := by
  refine .of_members rfl (fun _ => rfl) (.refl _) (by decide) ?_ ?_
  · simp [MembersWritable, Writable]
  · simp [-BEq.rfl, required, Record.optional, List.lookup_cons]

theorem AuthorizationCode.faithful (c : AuthorizationCode) : Faithful c := by
  refine .of_members rfl (fun _ => rfl) (.refl _) (by decide) ?_ ?_
  · simp [MembersWritable, Writable]
  · simp [-BEq.rfl, required, Record.optional, List.lookup_cons]

theorem RefreshGrant.faithful {g : RefreshGrant} (h : g.refreshCount < UInt32.size) :
    Faithful g := by
  refine .of_members rfl (fun _ => rfl) (.refl _) (by decide) ?_ ?_
  · simp [MembersWritable, Writable, isWord_of_lt h]
  · simp [-BEq.rfl, required, List.lookup_cons, natural?_integer h]

theorem AssertionUse.faithful {u : AssertionUse} (h : IsInt64 u.expiresAtSeconds) : Faithful u := by
  refine .of_members rfl (fun _ => rfl) (.refl _) (by decide) ?_ ?_
  · simp [MembersWritable, Writable, h.isWord]
  · simp [-BEq.rfl, required, List.lookup_cons, int64?_integer h]

/-! ## What is signed and published -/

theorem TokenClaims.faithful {c : TokenClaims} (hexp : IsInt64 c.expiresAt)
    (hiat : IsInt64 c.issuedAt) :
    Faithful c :=
  ⟨writable_toJson 125 hexp hiat, ofJson?_toJson hexp hiat⟩

namespace WebKey

/-- The members of a key, of which the certificates may be missing. -/
theorem sublist_members (w : WebKey) :
    (([("kty", Json.string "RSA"), ("use", .string w.use), ("alg", .string w.algorithm),
      ("kid", .string w.keyId), ("n", .string w.modulus), ("e", .string w.exponent)]
      ++ memberIf "x5c" ofTexts w.certificates).map Prod.fst).Sublist
        ["kty", "use", "alg", "kid", "n", "e", "x5c"] := by
  rw [List.map_append]
  exact (List.Sublist.refl ["kty", "use", "alg", "kid", "n", "e"]).append (map_fst_memberIf _ _ _)

theorem ofJson?_toJson (w : WebKey) : ofJson? w.toJson = some w := by
  have hcertificates : ∀ r : Record, r.positional = false →
      r.fields.lookup "x5c" = w.certificates.map ofTexts →
        r.optional "x5c" (list? text?) = some w.certificates :=
    fun r hr h => optional_of_lookup hr h fun ss => optional?_of_ne_null nofun (list?_ofTexts ss)
  rw [toJson, ofJson?, Record.ofJson?_of_sublist w.sublist_members (by decide)]
  simp [-BEq.rfl, required, List.lookup_cons, hcertificates, lookup_memberIf]

theorem writable_toJson (room : Nat) (w : WebKey) : Writable (room + 2) w.toJson := by
  refine writable_object fun m hm => ?_
  simp only [List.mem_append, List.mem_cons, List.not_mem_nil, or_false] at hm
  rcases hm with (rfl | rfl | rfl | rfl | rfl | rfl) | hm
  case inr =>
    obtain ⟨ss, hss⟩ := mem_memberIf hm
    rw [hss]
    exact writable_ofTexts room ss
  all_goals trivial

end WebKey

theorem KeySet.faithful (s : KeySet) : Faithful s := by
  refine .of_members rfl (fun _ => rfl) (.refl _) (by decide) ?_ ?_
  · have hkeys : ∀ j ∈ s.keys.map WebKey.toJson, Writable 125 j := by
      intro j hj
      obtain ⟨w, -, rfl⟩ := List.mem_map.mp hj
      exact w.writable_toJson 123
    simpa [MembersWritable, Writable, maxDepth, itemsWritable_iff] using hkeys
  · simp [required, list?_map fun w _ => WebKey.ofJson?_toJson w]

/-! ## All of them -/

open JsonForm (read? toJson)

/-- Every value of a kind that is stored, sent or signed as JSON is read back from the text of
its JSON form, whatever texts it holds, whichever of its parts are missing, and with its
instants to the nanosecond; its integers are those of the machine types that hold them. -/
theorem records_read_back :
    (∀ t : Tenant, t.defaultRateLimit.InRange → read? Tenant (toJson t).render = some t) ∧
    (∀ c : Client, c.InRange → read? Client (toJson c).render = some c) ∧
    (∀ u : ClientUpdate, u.InRange → read? ClientUpdate (toJson u).render = some u) ∧
    (∀ u : User, read? User (toJson u).render = some u) ∧
    (∀ s : Scope, read? Scope (toJson s).render = some s) ∧
    (∀ g : ScopeGrant, read? ScopeGrant (toJson g).render = some g) ∧
    (∀ k : SigningKey, read? SigningKey (toJson k).render = some k) ∧
    (∀ l : PendingLogin, read? PendingLogin (toJson l).render = some l) ∧
    (∀ c : AuthorizationCode, read? AuthorizationCode (toJson c).render = some c) ∧
    (∀ g : RefreshGrant, g.refreshCount < UInt32.size →
      read? RefreshGrant (toJson g).render = some g) ∧
    (∀ u : AssertionUse, IsInt64 u.expiresAtSeconds →
      read? AssertionUse (toJson u).render = some u) ∧
    (∀ c : TokenClaims, IsInt64 c.expiresAt → IsInt64 c.issuedAt →
      read? TokenClaims (toJson c).render = some c) ∧
    (∀ s : KeySet, read? KeySet (toJson s).render = some s) := by
  refine ⟨?tenant, ?client, ?update, ?user, ?scope, ?scopeGrant, ?signingKey, ?login, ?code,
    ?refreshGrant, ?use, ?claims, ?keys⟩
  case tenant => exact fun t h => (Tenant.faithful h).read?_render
  case client => exact fun c h => (Client.faithful h).read?_render
  case update => exact fun u h => (ClientUpdate.faithful h).read?_render
  case user => exact fun u => u.faithful.read?_render
  case scope => exact fun s => s.faithful.read?_render
  case scopeGrant => exact fun g => g.faithful.read?_render
  case signingKey => exact fun k => k.faithful.read?_render
  case login => exact fun l => l.faithful.read?_render
  case code => exact fun c => c.faithful.read?_render
  case refreshGrant => exact fun g h => (RefreshGrant.faithful h).read?_render
  case use => exact fun u h => (AssertionUse.faithful h).read?_render
  case claims => exact fun c hexp hiat => (TokenClaims.faithful hexp hiat).read?_render
  case keys => exact fun s => s.faithful.read?_render

/-- A tenant with a quote in its name, made in the last leap second there was, a client with the
largest numbers, and what was issued to it are read back. -/
theorem record_sample_read_back :
    let leap : Instant := ⟨1483228799, 1500000000, by decide, by decide, by decide⟩
    let tenant : Tenant := { Tenant.create "T1" leap with name := "the \"first\" tenant" }
    let client : Client := { Client.create "C1" "secret-C1" "T1" .device leap with
      maxRefreshTokenCount := 4294967295
      endUserTokenTtlSeconds := some 9223372036854775807
      refreshTokenTtlSeconds := none }
    let update : ClientUpdate := { ClientUpdate.nothing with maxRefreshTokenCount := some 0 }
    let grant : RefreshGrant := ⟨"R1", "U1", "C1", "T1", "openid", 3, leap⟩
    let use : AssertionUse := ⟨"j1", "C1", "T1", -1⟩
    let claims := TokenClaims.create "http://localhost" "U1" "T1" "C1" "j2" .endUser leap leap
    read? Tenant (toJson tenant).render = some tenant ∧
      read? Client (toJson client).render = some client ∧
      read? ClientUpdate (toJson update).render = some update ∧
      read? RefreshGrant (toJson grant).render = some grant ∧
      read? AssertionUse (toJson use).render = some use ∧
      read? TokenClaims (toJson claims).render = some claims := by
  intro leap tenant client update grant use claims
  obtain ⟨htenant, hclient, hupdate, -, -, -, -, -, -, hgrant, huse, hclaims, -⟩ :=
    records_read_back
  refine ⟨htenant _ ?_, hclient _ ?_, hupdate _ ?_, hgrant _ ?_, huse _ ?_, hclaims _ ?_ ?_⟩
  · exact ⟨by decide, by decide⟩
  · refine ⟨by decide, fun n hn => ?_, nofun⟩
    obtain rfl := Option.some.inj hn
    exact ⟨by decide, by decide⟩
  · refine ⟨fun n hn => ?_, nofun, nofun⟩
    obtain rfl := Option.some.inj hn
    decide
  · decide
  · exact ⟨by decide, by decide⟩
  · exact Instant.isInt64_second leap
  · exact Instant.isInt64_second leap

end OpenIdProvider
