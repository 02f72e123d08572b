import Mathlib.Data.List.Basic
import OpenIdProvider.Authorization.Redirect

/-!
# Which addresses match the registered ones

An address is allowed if it is registered as it stands, or if it leads to the machine itself
and a registered address is the same in scheme, host, path and query (`sameLoopback_iff`).
The port is meant to be left out of this comparison (`Redirect.Matches`). User name, password
and fragment are left out as well, so an address that differs in these from what is
registered is allowed too (`Redirect.Strays`). No others are
(`isAllowed_iff_matches_or_strays`).
-/

namespace OpenIdProvider

/-! ## The machine itself -/

namespace Host

/-- A host that is the machine itself: the name `localhost` in letters of either case, an
address from 127.0.0.0 to 127.255.255.255, or `::1`. -/
inductive Loopback : Host → Prop
  | name {name : String} (h : name.toLower = "localhost") : Loopback (.domain name)
  | ipv4 {address : Nat} (low : 0x7f000000 ≤ address) (high : address < 0x80000000) :
      Loopback (.ipv4 address)
  | ipv6 : Loopback (.ipv6 [0, 0, 0, 0, 0, 0, 0, 1])

theorem isLoopback_iff {h : Host} : h.isLoopback = true ↔ h.Loopback := by
  cases h with
  | domain name =>
    rw [isLoopback, beq_iff_eq]
    exact ⟨.name, fun | .name h => h⟩
  | ipv4 a =>
    have hrange : a >>> 24 = 127 ↔ 0x7f000000 ≤ a ∧ a < 0x80000000 := by
      rw [Nat.shiftRight_eq_div_pow]
      omega
    rw [isLoopback, beq_iff_eq, hrange]
    exact ⟨fun h => .ipv4 h.1 h.2, fun | .ipv4 low high => ⟨low, high⟩⟩
  | ipv6 ps =>
    rw [isLoopback, beq_iff_eq]
    exact ⟨fun h => h ▸ .ipv6, fun | .ipv6 => rfl⟩

/-- The empty domain, which stands for no host, is not the machine itself. -/
theorem Loopback.ne_empty {h : Host} (hloopback : h.Loopback) : h ≠ .domain "" := by
  rintro rfl
  cases hloopback with
  | name h => exact absurd h (by decide +kernel)

end Host

namespace Url

variable {u v : Url}

/-- A URL whose host is the machine itself. -/
def Loopback (u : Url) : Prop :=
  ∃ a, u.authority = some a ∧ a.host.Loopback

theorem host?_eq_some {h : Host} :
    u.host? = some h ↔ h ≠ .domain "" ∧ ∃ a, u.authority = some a ∧ a.host = h := by
  rw [host?]
  cases u.authority with
  | none => simp
  | some a =>
    by_cases ha : a.host = .domain ""
    · simp only [ha, beq_self_eq_true, if_true]
      grind
    · simp only [ha, beq_iff_eq, if_false, Option.some.injEq]
      grind

theorem isLoopback_iff : u.isLoopback = true ↔ u.Loopback := by
  have hhost : u.isLoopback = true ↔ ∃ h, u.host? = some h ∧ h.Loopback := by
    rw [isLoopback]
    cases u.host? <;> simp [Host.isLoopback_iff]
  rw [hhost]
  constructor
  · rintro ⟨h, hh, hloopback⟩
    obtain ⟨-, a, ha, rfl⟩ := host?_eq_some.mp hh
    exact ⟨a, ha, hloopback⟩
  · rintro ⟨a, ha, hloopback⟩
    exact ⟨a.host, host?_eq_some.mpr ⟨hloopback.ne_empty, a, ha, rfl⟩, hloopback⟩

/-! ## URLs but for some of their parts -/

/-- A URL without its port. -/
def withoutPort (u : Url) : Url :=
  { u with authority := u.authority.map fun a => { a with port := none } }

/-- The user name and the password of a URL with an authority. -/
def user? (u : Url) : Option (String × Option String) :=
  u.authority.map fun a => (a.username, a.password)

/-- A URL without user name, password, port and fragment. -/
def bare (u : Url) : Url :=
  { u with authority := u.authority.map fun a => ⟨"", none, a.host, none⟩, fragment := none }

theorem bare_eq_iff : u.bare = v.bare ↔ u.scheme = v.scheme ∧
    u.authority.map Authority.host = v.authority.map Authority.host ∧ u.path = v.path ∧
    u.query = v.query := by
  obtain ⟨_, a, _, _, _⟩ := u
  obtain ⟨_, b, _, _, _⟩ := v
  cases a <;> cases b <;> simp [bare]

theorem withoutPort_eq_iff : u.withoutPort = v.withoutPort ↔
    u.bare = v.bare ∧ u.user? = v.user? ∧ u.fragment = v.fragment := by
  obtain ⟨_, a, _, _, _⟩ := u
  obtain ⟨_, b, _, _, _⟩ := v
  cases a <;> cases b <;> simp [withoutPort, bare, user?] <;> grind

end Url

namespace Redirect

variable {registered : List String} {redirectUri : String} {u v : Url}

/-- What is compared of an address that leads to the machine itself and a registered one. -/
theorem sameLoopback_iff (hu : u.Loopback) : sameLoopback v u = true ↔ u.bare = v.bare := by
  obtain ⟨a, ha, hloopback⟩ := hu
  have hhost : u.host? = some a.host := Url.host?_eq_some.mpr ⟨hloopback.ne_empty, a, ha, rfl⟩
  have hsame : v.host? = some a.host ↔ u.authority.map Authority.host
      = v.authority.map Authority.host := by
    rw [Url.host?_eq_some, ha, Option.map_some, eq_comm (a := some a.host), Option.map_eq_some_iff]
    exact and_iff_right hloopback.ne_empty
  have hv : v.host? = some a.host → v.Loopback := fun h => by
    obtain ⟨-, b, hb, hba⟩ := Url.host?_eq_some.mp h
    exact ⟨b, hb, hba ▸ hloopback⟩
  rw [Url.bare_eq_iff, ← hsame]
  simp only [sameLoopback, Bool.and_eq_true, beq_iff_eq, Url.isLoopback_iff, hhost]
  grind

/-- The URLs `u` of an address, which leads to the machine itself, and `v` of a registered
one. -/
structure Compares (registered : List String) (redirectUri : String) (u v : Url) : Prop where
  requested : Url.parse redirectUri = .ok u
  loopback : u.Loopback
  registered : ∃ r ∈ registered, Url.parse r = .ok v

theorem isAllowed_iff : isAllowed registered redirectUri = true ↔ redirectUri ∈ registered ∨
    ∃ u v, Compares registered redirectUri u v ∧ u.bare = v.bare := by
  rw [isAllowed, Bool.or_eq_true, List.contains_iff_mem]
  refine or_congr_right ?_
  cases hu : Url.parse redirectUri with
  | error e =>
    refine iff_of_false nofun ?_
    rintro ⟨u, v, h, -⟩
    exact nomatch hu.symm.trans h.requested
  | ok u =>
    rw [Bool.and_eq_true, Url.isLoopback_iff, List.any_eq_true]
    constructor
    · rintro ⟨hloopback, r, hr, hsame⟩
      split at hsame
      · cases hsame
      · rename_i v hv
        exact ⟨u, v, ⟨hu, hloopback, r, hr, hv⟩, (sameLoopback_iff hloopback).mp hsame⟩
    · rintro ⟨u', v, ⟨hu', hloopback, r, hr, hv⟩, hbare⟩
      obtain rfl := Except.ok.inj (hu.symm.trans hu')
      refine ⟨hloopback, r, hr, ?_⟩
      rw [hv]
      exact (sameLoopback_iff hloopback).mpr hbare

/-! ## Addresses that match, and those that are allowed all the same -/

/-- An address is registered as it stands, or is, but for the port, a registered one on the
machine itself. -/
def Matches (registered : List String) (redirectUri : String) : Prop :=
  redirectUri ∈ registered ∨
    ∃ u v, Compares registered redirectUri u v ∧ u.withoutPort = v.withoutPort

/-- An address on the machine itself has another user name, another password or another
fragment than a registered one, and is the same in scheme, host, path and query. -/
def Strays (registered : List String) (redirectUri : String) : Prop :=
  ∃ u v, Compares registered redirectUri u v ∧ u.bare = v.bare ∧
    (u.user? ≠ v.user? ∨ u.fragment ≠ v.fragment)

/-- Every address that matches is allowed. Any other one is allowed exactly if it differs from
a registered address on the machine itself, beside the port, in nothing but user name,
password and fragment. -/
theorem isAllowed_iff_matches_or_strays (registered : List String) (redirectUri : String) :
    isAllowed registered redirectUri = true ↔
      Matches registered redirectUri ∨ Strays registered redirectUri := by
  rw [isAllowed_iff, Matches, or_assoc]
  refine or_congr_right ⟨?_, ?_⟩
  · rintro ⟨u, v, h, hbare⟩
    by_cases hsame : u.user? = v.user? ∧ u.fragment = v.fragment
    · exact .inl ⟨u, v, h, Url.withoutPort_eq_iff.mpr ⟨hbare, hsame⟩⟩
    · exact .inr ⟨u, v, h, hbare, Classical.not_and_iff_not_or_not.mp hsame⟩
  · rintro (⟨u, v, h, hsame⟩ | ⟨u, v, h, hbare, -⟩)
    · exact ⟨u, v, h, (Url.withoutPort_eq_iff.mp hsame).1⟩
    · exact ⟨u, v, h, hbare⟩

/-- With `http://[::1]:8000/cb` registered, an address with a user name, a password and a
fragment is allowed, though it does not match. -/
theorem stray_allowed :
    isAllowed ["http://[::1]:8000/cb"] "http://user:pw@[::1]:9/cb#frag" = true ∧
      ¬ Matches ["http://[::1]:8000/cb"] "http://user:pw@[::1]:9/cb#frag" := by
  have hrequested : Url.parse "http://user:pw@[::1]:9/cb#frag" = .ok ⟨"http",
      some ⟨"user", some "pw", .ipv6 [0, 0, 0, 0, 0, 0, 0, 1], some 9⟩, "/cb", none,
      some "frag"⟩ := by decide +kernel
  have hregistered : Url.parse "http://[::1]:8000/cb" = .ok ⟨"http",
      some ⟨"", none, .ipv6 [0, 0, 0, 0, 0, 0, 0, 1], some 8000⟩, "/cb", none, none⟩ := by decide +kernel
  refine ⟨isAllowed_iff.mpr (.inr ⟨_, _, ⟨hrequested, ⟨_, rfl, .ipv6⟩, _, List.mem_singleton_self _,
    hregistered⟩, rfl⟩), ?_⟩
  rintro (h | ⟨u, v, ⟨hu, -, r, hr, hv⟩, hsame⟩)
  · exact absurd h (by decide)
  · obtain rfl := List.mem_singleton.mp hr
    obtain rfl := Except.ok.inj (hrequested.symm.trans hu)
    obtain rfl := Except.ok.inj (hregistered.symm.trans hv)
    exact absurd (Url.withoutPort_eq_iff.mp hsame).2.2 (Option.some_ne_none _)

end Redirect

end OpenIdProvider
