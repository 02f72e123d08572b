import OpenIdProvider.Proofs.Records

/-!
# Live records

A table of records, seen as a map that holds no expired record (`LiveMap`). A record
vanishes from the map at its expiry, however long it stays in its table. The answers to
calls are those of the map (`runLive_live` for one call, `answers_live` for a sequence), so
they show neither when records are purged nor how they are taken
(`answers_of_live_map`).
-/

namespace OpenIdProvider

variable {α : Type} [Expiring α]

/-! ## Maps of live records -/

/-- The records that have not expired at an instant, by key. -/
@[ext]
structure LiveMap (α : Type) [Expiring α] where
  now : Instant
  get? : String → Option α
  live : ∀ {key r}, get? key = some r → Expiring.key r = key ∧ now < Expiring.expiry r

namespace LiveMap

/-- The map at another instant: what has expired by then vanishes. -/
def advance (m : LiveMap α) (now : Instant) : LiveMap α where
  now
  get? key := (m.get? key).filter fun r => decide (now < Expiring.expiry r)
  live h := by
    obtain ⟨h, hlater⟩ := Option.filter_eq_some_iff.mp h
    exact ⟨(m.live h).1, of_decide_eq_true hlater⟩

/-- The map with one more record, unless that has expired. -/
def put (m : LiveMap α) (r : α) : LiveMap α where
  now := m.now
  get? key := if key = Expiring.key r ∧ m.now < Expiring.expiry r then some r else m.get? key
  live h := by
    split at h
    · rename_i hr
      obtain rfl := Option.some.inj h
      exact ⟨hr.1.symm, hr.2⟩
    · exact m.live h

/-- The map without the record of a key. -/
def erase (m : LiveMap α) (key : String) : LiveMap α where
  now := m.now
  get? k := if k = key then none else m.get? k
  live h := by
    split at h
    · cases h
    · exact m.live h

/-- The records of the map that satisfy a condition. -/
def keep (m : LiveMap α) (p : α → Bool) : LiveMap α where
  now := m.now
  get? key := (m.get? key).filter p
  live h := m.live (Option.filter_eq_some_iff.mp h).1

end LiveMap

/-- The records of a table that have not expired at an instant. -/
def Records.live (t : Records α) (now : Instant) : LiveMap α where
  now
  get? := t.find? now
  live h := by
    obtain ⟨h, hlater⟩ := Records.find?_eq_some.mp h
    exact ⟨Table.key_of_get? h, hlater⟩

namespace Records

variable {t : Records α} {now later : Instant}

theorem advance_live (h : now ≤ later) (t : Records α) :
    (t.live now).advance later = t.live later := by
  refine LiveMap.ext rfl (funext fun key => Option.ext fun r => ?_)
  show ((t.find? now key).filter _) = some r ↔ t.find? later key = some r
  rw [Option.filter_eq_some_iff, find?_eq_some, find?_eq_some, decide_eq_true_iff]
  constructor
  · rintro ⟨⟨hget, -⟩, hlater⟩
    exact ⟨hget, hlater⟩
  · rintro ⟨hget, hlater⟩
    exact ⟨⟨hget, Instant.lt_of_le_of_lt h hlater⟩, hlater⟩

theorem live_put {r : α} (h : t.find? now (Expiring.key r) = none) :
    Records.live (t.put r) now = (t.live now).put r := by
  refine LiveMap.ext rfl (funext fun key => ?_)
  show Records.find? now (t.put r) key
    = if key = Expiring.key r ∧ now < Expiring.expiry r then some r else t.find? now key
  rw [find?, Table.get?_put]
  by_cases hkey : key = Expiring.key r
  · by_cases hlater : now < Expiring.expiry r
    · rw [if_pos hkey, if_pos ⟨hkey, hlater⟩, Option.filter_some, expired_eq_false.mpr hlater]
      rfl
    · have hexpired : Expiring.expired now r = true :=
        Bool.of_not_eq_false fun he => hlater (expired_eq_false.mp he)
      rw [if_pos hkey, if_neg (fun hr => hlater hr.2), Option.filter_some, hexpired, hkey, h]
      rfl
  · rw [if_neg hkey, if_neg fun hr => hkey hr.1, find?]

theorem live_erase (t : Records α) (now : Instant) (key : String) :
    Records.live (t.erase key) now = (t.live now).erase key := by
  refine LiveMap.ext rfl (funext fun k => ?_)
  show Records.find? now (t.erase key) k = if k = key then none else t.find? now k
  rw [find?, Table.get?_erase, find?]
  split <;> rfl

theorem live_keep (t : Records α) (now : Instant) (p : α → Bool) :
    Records.live (t.keep p) now = (t.live now).keep p := by
  refine LiveMap.ext rfl (funext fun key => ?_)
  show Records.find? now (t.keep p) key = (t.find? now key).filter p
  rw [find?, Table.get?_keep, find?, Option.filter_filter, Option.filter_filter]
  simp only [Bool.and_comm]

/-- A purge removes what is not in the map anyway. -/
theorem live_purge (t : Records α) (now : Instant) :
    Records.live (t.purge now).2 now = t.live now := by
  refine LiveMap.ext rfl (funext fun key => Option.ext fun r => ?_)
  show Records.find? now (t.purge now).2 key = some r ↔ t.find? now key = some r
  rw [find?_eq_some, find?_eq_some, get?_purge_eq_some, and_assoc, and_self]

/-- A record that is found first and deleted later is one that can be taken later. -/
theorem takeByFind_eq (h : now ≤ later) (t : Records α) (key : String) :
    (t.takeByFind now later key).1 = t.find? later key ∧
      Records.live (t.takeByFind now later key).2 later = (t.live later).erase key := by
  rw [takeByFind]
  cases hfound : t.find? now key with
  | none =>
    have hnone : t.find? later key = none := by
      refine Option.eq_none_iff_forall_ne_some.mpr fun r hr => ?_
      obtain ⟨hget, hlater⟩ := find?_eq_some.mp hr
      rw [find?_eq_some.mpr ⟨hget, Instant.lt_of_le_of_lt h hlater⟩] at hfound
      cases hfound
    refine ⟨hnone.symm, LiveMap.ext rfl (funext fun k => ?_)⟩
    show t.find? later k = if k = key then none else t.find? later k
    split
    · rename_i hk
      rw [hk, hnone]
    · rfl
  | some r =>
    refine ⟨?_, live_erase t later key⟩
    have hget := (find?_eq_some.mp hfound).1
    show (if (t.find? later key).isSome then some r else none) = t.find? later key
    cases hlater : t.find? later key with
    | none => rfl
    | some r' =>
      have hget' := (find?_eq_some.mp hlater).1
      rw [hget] at hget'
      exact hget'

end Records

/-! ## Calls -/

/-- A call of a table of records. -/
inductive RecordCall (α : Type) where
  | create (r : α)
  | find (key : String)
  | delete (key : String)
  | take (key : String)
  /-- Takes a record that was found at an instant before. -/
  | takeByFind (found : Instant) (key : String)
  | purge
  | deleteWhere (p : α → Bool)

/-- The answer to a call. -/
inductive RecordAnswer (α : Type) where
  | created (result : Except StoreError Unit)
  | found (r : Option α)
  | deleted (live : Bool)
  | taken (r : Option α)

namespace RecordCall

/-- Deletes what was granted to a user and a client. -/
def deleteForGrant (userId tenantId clientId : String) : RecordCall RefreshGrant :=
  deleteWhere fun g => g.userId == userId && g.tenantId == tenantId && g.clientId == clientId

/-- The answer to a call at an instant, and what it does to a table. That records were
purged, or deleted by a condition, is no answer: their number counts expired ones, too. -/
def run (now : Instant) (t : Records α) : RecordCall α → Option (RecordAnswer α) × Records α
  | create r =>
    match t.create now r with
    | .ok t' => (some (.created (.ok ())), t')
    | .error e => (some (.created (.error e)), t)
  | find key => (some (.found (t.find? now key)), t)
  | delete key => (some (.deleted (t.delete now key).1), (t.delete now key).2)
  | take key => (some (.taken (t.take now key).1), (t.take now key).2)
  | takeByFind found key =>
    (some (.taken (t.takeByFind found now key).1), (t.takeByFind found now key).2)
  | purge => (none, (t.purge now).2)
  | deleteWhere p => (none, (t.deleteWhere p).2)

/-- The answer to a call, and what it does to a map of live records. -/
def runLive (m : LiveMap α) : RecordCall α → Option (RecordAnswer α) × LiveMap α
  | create r =>
    match m.get? (Expiring.key r) with
    | some _ => (some (.created (.error (.duplicate (Expiring.kind α) (Expiring.key r)))), m)
    | none => (some (.created (.ok ())), m.put r)
  | find key => (some (.found (m.get? key)), m)
  | delete key => (some (.deleted (m.get? key).isSome), m.erase key)
  | take key | takeByFind _ key => (some (.taken (m.get? key)), m.erase key)
  | purge => (none, m)
  | deleteWhere p => (none, m.keep fun r => !p r)

/-- The instant at which a call begins, if it ends at `now`. -/
def begins (now : Instant) : RecordCall α → Instant
  | takeByFind found _ => found
  | _ => now

/-- A call as far as answers can show it: a purge is none, and it makes no difference how a
record is taken. -/
def visible? : RecordCall α → Option (RecordCall α)
  | purge => none
  | takeByFind _ key => some (take key)
  | c => some c

/-- A call answers as the map of live records does, and leaves the table as it leaves the
map. -/
theorem runLive_live {c : RecordCall α} {now : Instant} (h : c.begins now ≤ now)
    (t : Records α) : c.runLive (t.live now) = ((c.run now t).1, (c.run now t).2.live now) := by
  cases c with
  | create r =>
    rw [runLive, run]
    show (match t.find? now (Expiring.key r) with | some _ => _ | none => _) = _
    cases hfind : t.find? now (Expiring.key r) with
    | none => rw [Records.create_eq_ok.mpr ⟨hfind, rfl⟩, Records.live_put hfind]
    | some old => rw [Records.create_eq_error.mpr ⟨by rw [hfind]; nofun, rfl⟩]
  | find key => rfl
  | delete key => rw [runLive, run, Records.delete, Records.live_erase]; rfl
  | take key => rw [runLive, run, Records.take, Records.live_erase]; rfl
  | takeByFind found key =>
    obtain ⟨hanswer, hlive⟩ := Records.takeByFind_eq (show found ≤ now from h) t key
    rw [runLive, run, hanswer, hlive]
    rfl
  | purge => rw [runLive, run, Records.live_purge]
  | deleteWhere p => rw [runLive, run, Records.deleteWhere, Records.live_keep]

end RecordCall

/-! ## Sequences of calls -/

/-- A call and the instant at which it ends. -/
structure TimedCall (α : Type) where
  now : Instant
  call : RecordCall α

namespace TimedCall

/-- Whether calls follow each other: each begins when the one before it has ended. -/
def InOrder (now : Instant) : List (TimedCall α) → Prop
  | [] => True
  | c :: cs => now ≤ c.call.begins c.now ∧ c.call.begins c.now ≤ c.now ∧ InOrder c.now cs

instance decidableInOrder : ∀ (now : Instant) (cs : List (TimedCall α)), Decidable (InOrder now cs)
  | _, [] => inferInstanceAs (Decidable True)
  | _, c :: cs =>
    have := decidableInOrder c.now cs
    inferInstanceAs (Decidable (_ ∧ _ ∧ _))

/-- The calls as far as answers can show them. -/
def visible (cs : List (TimedCall α)) : List (TimedCall α) :=
  cs.filterMap fun c => c.call.visible?.map (TimedCall.mk c.now)

end TimedCall

open TimedCall

/-- The answers of a map of live records to calls, in order. -/
def LiveMap.answers (m : LiveMap α) : List (TimedCall α) → List (RecordAnswer α)
  | [] => []
  | c :: cs =>
    (c.call.runLive (m.advance c.now)).1.toList
      ++ answers (c.call.runLive (m.advance c.now)).2 cs

namespace Records

/-- The answers of a table to calls, in order. -/
def answers (t : Records α) : List (TimedCall α) → List (RecordAnswer α)
  | [] => []
  | c :: cs => (c.call.run c.now t).1.toList ++ answers (c.call.run c.now t).2 cs

/-- The table after calls. -/
def after (t : Records α) (cs : List (TimedCall α)) : Records α :=
  cs.foldl (fun t c => (c.call.run c.now t).2) t

theorem after_concat (t : Records α) (cs : List (TimedCall α)) (c : TimedCall α) :
    t.after (cs ++ [c]) = (c.call.run c.now (t.after cs)).2 := by
  rw [after, List.foldl_append]
  rfl

variable {now : Instant} {cs : List (TimedCall α)}

/-- A table answers as the map of its live records does. -/
theorem answers_live (h : InOrder now cs) (t : Records α) :
    (t.live now).answers cs = t.answers cs := by
  induction cs generalizing now t with
  | nil => rfl
  | cons c cs ih =>
    obtain ⟨hbegins, hends, hrest⟩ := h
    rw [LiveMap.answers, answers, advance_live (Instant.le_trans hbegins hends),
      RecordCall.runLive_live hends, ih hrest]

end Records

namespace LiveMap

variable {now later : Instant} {cs : List (TimedCall α)}

theorem advance_advance (h : now ≤ later) (m : LiveMap α) :
    (m.advance now).advance later = m.advance later := by
  refine LiveMap.ext rfl (funext fun key => Option.ext fun r => ?_)
  show ((m.get? key).filter _).filter _ = some r ↔ (m.get? key).filter _ = some r
  simp only [Option.filter_eq_some_iff, decide_eq_true_iff, and_assoc]
  exact ⟨fun ⟨hget, _, hlater⟩ => ⟨hget, hlater⟩,
    fun ⟨hget, hlater⟩ => ⟨hget, Instant.lt_of_le_of_lt h hlater, hlater⟩⟩

/-- What has expired when the first call begins makes no difference to the answers. -/
theorem answers_advance (h : InOrder now cs) (m : LiveMap α) :
    (m.advance now).answers cs = m.answers cs := by
  cases cs with
  | nil => rfl
  | cons c cs => rw [answers, answers, advance_advance (Instant.le_trans h.1 h.2.1)]

/-- What is not visible of calls makes no difference to the answers. -/
theorem answers_visible (h : InOrder now cs) (m : LiveMap α) :
    m.answers (visible cs) = m.answers cs := by
  induction cs generalizing now m with
  | nil => rfl
  | cons c cs ih =>
    have hrest := h.2.2
    obtain ⟨later, call⟩ := c
    cases call with
    | purge =>
      -- Only the clock goes on at a purge, and the next call takes it further.
      refine (ih hrest m).trans ?_
      rw [answers, RecordCall.runLive, Option.toList_none, List.nil_append]
      exact (answers_advance hrest m).symm
    | _ => exact congrArg (_ ++ ·) (ih hrest _)

end LiveMap

/-- A table of records is a map of live records, for calls in any order under a clock that
is not set back:

* its answers are those of the map that holds what has not expired;
* they stay the same if purges are added or removed, and if records are taken by finding and
  deleting them;
* no key ever has two records, and a record that is refused leaves the table as it was. -/
theorem answers_of_live_map {t : Records α} {now : Instant} {cs : List (TimedCall α)}
    (h : InOrder now cs) :
    t.answers cs = (t.live now).answers cs ∧
      (∀ cs', InOrder now cs' → visible cs' = visible cs → t.answers cs' = t.answers cs) ∧
      ((t.after cs).rows.map Expiring.key).Nodup ∧
      ∀ before c rest r e, cs = before ++ c :: rest → c.call = .create r →
        (c.call.run c.now (t.after before)).1 = some (.created (.error e)) →
          t.after (before ++ [c]) = t.after before := by
  refine ⟨(Records.answers_live h t).symm, fun cs' h' hvisible => ?_, (t.after cs).distinct, ?_⟩
  · calc t.answers cs' = (t.live now).answers (visible cs') := by
          rw [LiveMap.answers_visible h', Records.answers_live h']
      _ = (t.live now).answers (visible cs) := by rw [hvisible]
      _ = t.answers cs := by rw [LiveMap.answers_visible h, Records.answers_live h]
  · rintro before c rest r e - hcall hanswer
    rw [Records.after_concat]
    rw [hcall, RecordCall.run] at hanswer ⊢
    cases hcreate : (t.after before).create c.now r with
    | ok t' =>
      rw [hcreate] at hanswer
      cases hanswer
    | error e' => rfl

namespace RecordSample

/-- The instant of a second. -/
def instant (n : Fin 1000) : Instant :=
  ⟨n.val, 0, by omega, by omega, .inl (by decide)⟩

/-- A refresh grant that expires at a second. -/
def grant (expiresAt : Fin 1000) : RefreshGrant where
  refreshToken := "r1"
  userId := "U1"
  clientId := "C1"
  tenantId := "T1"
  scope := "openid"
  refreshCount := 0
  expiresAt := instant expiresAt

/-- A grant is refused before the one under its token expires, and not from then on. -/
def calls : List (TimedCall RefreshGrant) :=
  [⟨instant 0, .create (grant 60)⟩, ⟨instant 59, .create (grant 90)⟩, ⟨instant 60, .find "r1"⟩,
    ⟨instant 60, .create (grant 90)⟩, ⟨instant 70, .take "r1"⟩, ⟨instant 70, .delete "r1"⟩]

/-- The same with purges, and with the grant taken by finding and deleting it. -/
def otherCalls : List (TimedCall RefreshGrant) :=
  [⟨instant 0, .create (grant 60)⟩, ⟨instant 59, .purge⟩, ⟨instant 59, .create (grant 90)⟩,
    ⟨instant 60, .purge⟩, ⟨instant 60, .find "r1"⟩, ⟨instant 60, .create (grant 90)⟩,
    ⟨instant 70, .takeByFind (instant 65) "r1"⟩, ⟨instant 70, .delete "r1"⟩]

end RecordSample

open RecordSample in
theorem answers_without_purges :
    InOrder (instant 0) calls ∧ InOrder (instant 0) otherCalls ∧
      visible otherCalls = visible calls ∧
      Records.answers .empty otherCalls = Records.answers .empty calls ∧
      Records.answers .empty calls =
        [.created (.ok ()), .created (.error (.duplicate "RefreshData" "r1")), .found none,
          .created (.ok ()), .taken (some (grant 90)), .deleted false] := by
  have hcalls : InOrder (instant 0) calls := by decide
  have hother : InOrder (instant 0) otherCalls := by decide
  have hvisible : visible otherCalls = visible calls := rfl
  exact ⟨hcalls, hother, hvisible, (answers_of_live_map hcalls).2.1 _ hother hvisible, rfl⟩

end OpenIdProvider
