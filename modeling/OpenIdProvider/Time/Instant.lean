/-!
# Instants and spans

An instant is a second counted from 1970-01-01T00:00:00Z and nanoseconds within
it. A leap second is the last second of a minute gone on for a second longer: its
nanoseconds run from one to two billion. Instants lie in the years -262143 to
262142 and spans of time below `2^63` milliseconds; arithmetic that leaves these
ranges has no result.
-/

namespace OpenIdProvider

/-- Nanoseconds in a second. -/
def nanosPerSecond : Nat := 1000000000

/-- A span of time in nanoseconds. -/
structure Span where
  nanos : Int
  deriving DecidableEq, Repr

namespace Span

/-- The milliseconds of the longest span. -/
def maxMillis : Nat := UInt64.size / 2 - 1

/-- The longest span. -/
def longest : Span := ⟨maxMillis * 1000000⟩

/-- A span of whole seconds. -/
def ofSeconds? (s : Int) : Option Span :=
  if s.natAbs ≤ maxMillis / 1000 then some ⟨s * nanosPerSecond⟩ else none

/-- A span of whole days. -/
def ofDays? (d : Int) : Option Span :=
  ofSeconds? (d * 86400)

/-- A span of whole milliseconds. -/
def ofMillis? (m : Int) : Option Span :=
  if m.natAbs ≤ maxMillis then some ⟨m * 1000000⟩ else none

end Span

/-- An instant. -/
structure Instant where
  /-- Whole seconds from 1970-01-01T00:00:00Z, leap seconds not counted. -/
  second : Int
  /-- Nanoseconds within the second. -/
  nano : Nat
  first_le : -8334601228800 ≤ second
  le_last : second ≤ 8210266876799
  nano_lt : nano < 1000000000 ∨ (second % 60 = 59 ∧ nano < 2000000000)
  deriving DecidableEq

namespace Instant

/-- The instant of a second and nanoseconds, if it is in range. -/
def ofParts? (second : Int) (nano : Nat) : Option Instant :=
  if h : -8334601228800 ≤ second ∧ second ≤ 8210266876799
      ∧ (nano < 1000000000 ∨ (second % 60 = 59 ∧ nano < 2000000000)) then
    some ⟨second, nano, h.1, h.2.1, h.2.2⟩
  else none

theorem ofParts?_parts (t : Instant) : ofParts? t.second t.nano = some t := by
  simp [ofParts?, t.first_le, t.le_last, t.nano_lt]

/-- The instant of a whole second, if it is in range. -/
def ofSeconds? (second : Int) : Option Instant :=
  ofParts? second 0

/-- 1970-01-01T00:00:00Z. -/
def epoch : Instant := ⟨0, 0, by decide, by decide, by decide⟩

/-- The last instant. -/
def last : Instant := ⟨8210266876799, 999999999, by decide, by decide, by decide⟩

instance : Inhabited Instant := ⟨epoch⟩

/-- Whether `a` is before `b`. -/
def before (a b : Instant) : Bool :=
  a.second < b.second || (a.second == b.second && a.nano < b.nano)

instance : LT Instant := ⟨fun a b => a.before b = true⟩
instance : LE Instant := ⟨fun a b => b.before a = false⟩
instance (a b : Instant) : Decidable (a < b) := inferInstanceAs (Decidable (_ = true))
instance (a b : Instant) : Decidable (a ≤ b) := inferInstanceAs (Decidable (_ = false))

/-- The second after which a time within a leap second counts, and its
nanoseconds there, before `seconds` and `nanos` of the same sign are added. -/
def leaveLeap (t : Instant) (seconds nanos : Int) : Int × Int :=
  if t.nano < 1000000000 then (t.second, t.nano)
  else if 0 < seconds || (0 < nanos && 2000000000 - nanos ≤ t.nano) then
    (t.second, t.nano - 1000000000)
  else (t.second + 1, t.nano - 1000000000)

/-- The instant a span later. Within a leap second, and back into the second
before it, the nanoseconds alone move. -/
def add? (t : Instant) (d : Span) : Option Instant :=
  let seconds := d.nanos.tdiv 1000000000
  let nanos := d.nanos.tmod 1000000000
  let stays := 1000000000 ≤ t.nano && seconds == 0
    && !(0 < nanos && 2000000000 - nanos ≤ (t.nano : Int))
  if stays then ofParts? t.second ((t.nano : Int) + nanos).toNat
  else
    let (second, nano) := t.leaveLeap seconds nanos
    let total := nano + nanos
    ofParts? (second + seconds + total / 1000000000) (total % 1000000000).toNat

/-- The span from `u` to `t`. A leap second counts for a second when `t` and `u`
lie on either side of its end in the day. -/
def since (t u : Instant) : Span :=
  let day := 86400
  let seconds := t.second - u.second
  let leap : Int :=
    if u.second % day < t.second % day && 1000000000 ≤ u.nano then 1
    else if t.second % day < u.second % day && 1000000000 ≤ t.nano then -1
    else 0
  ⟨(seconds + leap) * 1000000000 + ((t.nano : Int) - u.nano)⟩

end Instant

end OpenIdProvider
