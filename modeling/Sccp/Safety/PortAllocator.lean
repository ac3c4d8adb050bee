/-
  Sccp.Safety.PortAllocator

  Every pair of the range is tried, from any position of the counter, and no operation
  overflows.  The first pair found is the one returned: also port 0, where the range begins
  there.
-/

import Sccp.Gateway.PortAllocator
import Sccp.Lib.Rotation

namespace Sccp.Gateway.PortAllocator

open Rotation

variable {a : PortAllocator} {os : Sockets} {p : UInt16}

/-- What `new` accepts, and where the counter stands after any number of allocations. -/
structure Valid (a : PortAllocator) : Prop where
  start : a.start.toNat % 2 = 0
  wide : a.start.toNat + 7 ≤ a.stop.toNat
  next : a.next.toNat % 2 = 0

variable (a)

/-- The pairs of the range. -/
def pairs : Nat := (a.stop.toNat - a.start.toNat + 1) / 2

def port (i : Nat) : UInt16 := UInt16.ofNat (a.start.toNat + 2 * i)

/-- The pair that is tried next. -/
def place : Nat :=
  if a.start ≤ a.next ∧ a.next.toNat + 1 ≤ a.stop.toNat
  then (a.next.toNat - a.start.toNat) / 2 else 0

def free (os : Sockets) (p : UInt16) : Bool :=
  os.bind ⟨a.bindAddress, p⟩ && os.bind ⟨a.bindAddress, p + 1⟩

def configurable (os : Sockets) (p : UInt16) : Bool :=
  os.setReadTimeout ⟨a.bindAddress, p⟩ && os.setReadTimeout ⟨a.bindAddress, p + 1⟩

def pair (p : UInt16) : SocketPair :=
  ⟨⟨a.bindAddress, p⟩, ⟨a.bindAddress, p + 1⟩, ⟨a.advertisedAddress, p⟩,
    ⟨a.advertisedAddress, p + 1⟩⟩

variable {a}

/-- An even port of the range that can be bound together with the next one. -/
structure Bindable (a : PortAllocator) (os : Sockets) (p : UInt16) : Prop where
  even : p.toNat % 2 = 0
  least : a.start ≤ p
  greatest : p.toNat + 1 ≤ a.stop.toNat
  free : a.free os p = true

theorem valid_new {bindAddress advertisedAddress : Ipv4Addr} {start stop : UInt16}
    (h : new bindAddress advertisedAddress start stop = .ok a) : Valid a := by
  unfold new at h
  split at h
  · cases h
  next haccepted =>
  cases h
  rw [not_or, not_not] at haccepted
  obtain ⟨heven, hwide⟩ := haccepted
  have heven := congrArg UInt16.toNat heven
  rw [UInt16.toNat_mod] at heven
  unfold saturatingSub at hwide
  split at hwide
  next hle =>
    rw [UInt16.lt_iff_toNat_lt, UInt16.toNat_sub_of_le _ _ hle] at hwide
    rw [UInt16.le_iff_toNat_le] at hle
    exact ⟨heven, by simp at hwide; simp; omega, heven⟩
  · exact absurd (by decide) hwide

theorem toNat_port {i : Nat} (hi : i < a.pairs) :
    (a.port i).toNat = a.start.toNat + 2 * i ∧ (a.port i).toNat + 1 ≤ a.stop.toNat := by
  have hstop := a.stop.toNat_lt
  unfold pairs at hi
  have hport : (a.port i).toNat = a.start.toNat + 2 * i := by
    rw [port, UInt16.toNat_ofNat_of_lt']
    rw [show UInt16.size = 65536 from rfl]
    omega
  exact ⟨hport, by omega⟩

theorem Valid.place_lt (h : Valid a) : a.place < a.pairs := by
  have hwide := h.wide
  have hstart := h.start
  have hnext := h.next
  unfold place pairs
  split
  next hin =>
    obtain ⟨hle, hlt⟩ := hin
    rw [UInt16.le_iff_toNat_le] at hle
    omega
  · omega

/-- A port that can be bound is that of a place of the range. -/
theorem Bindable.exists_place (hp : Bindable a os p) (h : Valid a) :
    ∃ i < a.pairs, a.port i = p := by
  have hstart := h.start
  obtain ⟨heven, hleast, hgreatest, _⟩ := hp
  rw [UInt16.le_iff_toNat_le] at hleast
  have hi : (p.toNat - a.start.toNat) / 2 < a.pairs := by unfold pairs; omega
  refine ⟨_, hi, UInt16.toNat_inj.mp ?_⟩
  rw [(toNat_port hi).1]
  omega

theorem Valid.bindable_port (h : Valid a) {i : Nat} (hi : i < a.pairs)
    (hfree : a.free os (a.port i) = true) : Bindable a os (a.port i) := by
  have hstart := h.start
  obtain ⟨hport, hlast⟩ := toNat_port hi
  refine ⟨by omega, ?_, hlast, hfree⟩
  rw [UInt16.le_iff_toNat_le]
  omega

/-- The place of a counter within the range. -/
theorem place_of_mem {next : UInt16} (hle : a.start.toNat ≤ next.toNat)
    (hlt : next.toNat + 1 ≤ a.stop.toNat) :
    { a with next }.place = (next.toNat - a.start.toNat) / 2 :=
  if_pos ⟨UInt16.le_iff_toNat_le.mpr hle, hlt⟩

theorem place_of_not_mem {next : UInt16}
    (hout : next.toNat < a.start.toNat ∨ a.stop.toNat < next.toNat + 1) :
    { a with next }.place = 0 := by
  refine if_neg ?_
  rintro ⟨hle, hlt⟩
  rw [UInt16.le_iff_toNat_le] at hle
  simp only at hle hlt
  omega

/-- One step of the counter: the pair at its place, and on to the next place, round. -/
theorem Valid.takePort (h : Valid a) :
    ∃ next, a.takePort = ({ a with next }, a.port a.place) ∧ Valid { a with next }
      ∧ { a with next }.place = (a.place + 1) % a.pairs := by
  obtain ⟨hstart, hwide, hnext⟩ := h
  have hstop := a.stop.toNat_lt
  have hlt := a.next.toNat_lt
  -- the counter is even, so that it has a successor
  have hsucc : (nextPort a.next).toNat = a.next.toNat + 1 := by
    rw [nextPort, if_neg fun heq => by simp [heq] at hnext, UInt16.toNat_add]
    simp
    omega
  unfold PortAllocator.takePort
  simp only [UInt16.lt_iff_toNat_lt, gt_iff_lt, hsucc]
  split
  next hout =>
    have hadd : (saturatingAdd a.start 2).toNat = a.start.toNat + 2 := by
      rw [saturatingAdd, if_pos (by simp; omega), UInt16.toNat_add]
      simp
      omega
    have hzero : a.place = 0 := place_of_not_mem (a := a) hout
    rw [hzero]
    refine ⟨_, Prod.ext rfl ?_, ⟨hstart, hwide, by simp only [hadd]; omega⟩, ?_⟩
    · exact UInt16.toNat_inj.mp (by simp [port])
    · rw [place_of_mem (by omega) (by omega), hadd, Nat.mod_eq_of_lt (by unfold pairs; omega)]
      omega
  next hin =>
    have hplace : a.place = (a.next.toNat - a.start.toNat) / 2 :=
      place_of_mem (a := a) (by omega) (by omega)
    have hadd : (a.next + 2).toNat = (a.next.toNat + 2) % 65536 := by simp [UInt16.toNat_add]
    refine ⟨_, Prod.ext rfl ?_, ⟨hstart, hwide, by simp only [hadd]; omega⟩, ?_⟩
    · refine UInt16.toNat_inj.mp ?_
      rw [(toNat_port ?_).1, hplace]
      · simp only
        omega
      · rw [hplace]
        unfold pairs
        omega
    by_cases hround : a.next.toNat + 3 ≤ a.stop.toNat
    · have hmod : (a.place + 1) % a.pairs = a.place + 1 :=
        Nat.mod_eq_of_lt (by unfold pairs; omega)
      rw [place_of_mem (by omega) (by omega), hmod, hadd]
      omega
    · -- the last pair: the counter is past the end of the range, or has wrapped before it
      have hlast : a.place + 1 = a.pairs := by
        unfold pairs
        omega
      rw [hlast, Nat.mod_self]
      by_cases hwrap : a.next.toNat + 2 < 65536
      · exact place_of_not_mem (.inr (by omega))
      · rcases Nat.eq_zero_or_pos a.start.toNat with h0 | hpos
        · rw [place_of_mem (by omega) (by omega), hadd]
          omega
        · exact place_of_not_mem (.inl (by omega))

/-- What an attempt at a free pair gives. -/
def outcome (a : PortAllocator) (os : Sockets) (p : UInt16) : Except RelayError SocketPair :=
  if a.configurable os p then .ok (a.pair p) else .error .io

/-- One attempt: the RTCP port exists, and the pair is taken if it is free. -/
theorem tryPort_eq (next : UInt16) (hp : p.toNat + 1 < 65536) :
    { a with next }.tryPort os p
      = some (if a.free os p then some (a.outcome os p) else none) := by
  have hadd : checkedAdd p 1 = some (p + 1) := if_pos hp
  unfold tryPort outcome free configurable pair
  simp only [hadd]
  cases hrtp : os.bind ⟨a.bindAddress, p⟩ <;> cases hrtcp : os.bind ⟨a.bindAddress, p + 1⟩ <;>
    cases ht : os.setReadTimeout ⟨a.bindAddress, p⟩ <;>
    cases htc : os.setReadTimeout ⟨a.bindAddress, p + 1⟩ <;> simp [hrtcp, htc]

/-- What a search over the places gives. -/
def found (a : PortAllocator) (os : Sockets) : Option Nat → Except RelayError SocketPair
  | some i => a.outcome os (a.port i)
  | none => .error .portsExhausted

/-- The loop is the search round the places of the range. -/
theorem Valid.attempt (os : Sockets) (n : Nat) (h : Valid a) :
    ∃ next, Valid { a with next } ∧ attempt os n a = some ({ a with next },
      a.found os (search a.pairs (fun i => a.free os (a.port i)) n a.place)) := by
  induction n generalizing a with
  | zero => exact ⟨a.next, h, rfl⟩
  | succ n ih =>
    obtain ⟨next, htake, hvalid, hplace⟩ := h.takePort
    have hport := toNat_port h.place_lt
    have hstop := a.stop.toNat_lt
    have htry : { a with next }.tryPort os (a.port a.place) = _ := tryPort_eq next (by omega)
    rw [PortAllocator.attempt, htake, search]
    simp only [htry, Option.bind_eq_bind, Option.bind_some]
    cases hfree : a.free os (a.port a.place) with
    | true => exact ⟨next, hvalid, rfl⟩
    | false =>
      obtain ⟨last, hlast, heq⟩ := ih hvalid
      rw [hplace] at heq
      exact ⟨last, hlast, heq⟩

/-- `allocate_pair` never overflows and asks every place. -/
theorem Valid.allocatePair (os : Sockets) (h : Valid a) :
    ∃ next n, a.pairs ≤ n ∧ Valid { a with next } ∧ a.allocatePair os = some ({ a with next },
      a.found os (search a.pairs (fun i => a.free os (a.port i)) n a.place)) := by
  have hwide := h.wide
  have hle : a.start ≤ a.stop := UInt16.le_iff_toNat_le.mpr (by omega)
  have hsub : checkedSub a.stop a.start = some (a.stop - a.start) := if_pos hle
  obtain ⟨next, hvalid, heq⟩ := h.attempt os (((a.stop - a.start) / 2).toNat + 1)
  have hn : a.pairs ≤ ((a.stop - a.start) / 2).toNat + 1 := by
    rw [UInt16.toNat_div, UInt16.toNat_sub_of_le _ _ hle]
    unfold pairs
    simp
    omega
  refine ⟨next, _, hn, hvalid, ?_⟩
  rw [PortAllocator.allocatePair, hsub]
  exact heq

/-! ## Reached counters -/

theorem Valid.exists_allocatePair (os : Sockets) (h : Valid a) :
    ∃ a' r, a.allocatePair os = some (a', r) ∧ Valid a' := by
  obtain ⟨next, n, _, hvalid, heq⟩ := h.allocatePair os
  exact ⟨_, _, heq, hvalid⟩

/-- Two pairs are allocated without an overflow as well. -/
theorem Valid.exists_allocate (forPhone forSip : Sockets) (h : Valid a) :
    ∃ a' r, a.allocate forPhone forSip = some (a', r) ∧ Valid a' := by
  obtain ⟨a₁, r₁, hphone, h₁⟩ := h.exists_allocatePair forPhone
  obtain ⟨a₂, r₂, hsip, h₂⟩ := h₁.exists_allocatePair forSip
  rw [allocate, hphone]
  cases r₁ with
  | error e => exact ⟨a₁, _, rfl, h₁⟩
  | ok phone =>
    simp only [Option.bind_eq_bind, Option.bind_some, hsip]
    cases r₂ with
    | error e => exact ⟨a₂, _, rfl, h₂⟩
    | ok sip => exact ⟨a₂, _, rfl, h₂⟩

/-- Earlier allocations leave a valid counter. -/
theorem Valid.after (h : Valid a) (earlier : List Allocation) :
    ∃ a', a.after earlier = some a' ∧ Valid a' := by
  induction earlier generalizing a with
  | nil => exact ⟨a, rfl, h⟩
  | cons use rest ih =>
    cases use with
    | pair os =>
      obtain ⟨a', r, heq, hvalid⟩ := h.exists_allocatePair os
      rw [PortAllocator.after, heq]
      exact ih hvalid
    | relay forPhone forSip =>
      obtain ⟨a', r, heq, hvalid⟩ := h.exists_allocate forPhone forSip
      rw [PortAllocator.after, heq]
      exact ih hvalid

/-! ## What is allocated -/

variable (a)

/-- The pair given is an even, non-zero port of the range and the next one, both bound; without
    one no such pair can be bound, unless a bound socket could not be configured. -/
def Right (os : Sockets) : Except RelayError SocketPair → Prop
  | .ok given => ∃ p, p ≠ 0 ∧ Bindable a os p ∧ given = a.pair p
  | .error .portsExhausted => ∀ p, p ≠ 0 → ¬ Bindable a os p
  | .error .io => ∃ p, Bindable a os p ∧ a.configurable os p = false
  | .error _ => False

/-- `allocate_pair` comes to an end without an overflow, and gives what it should. -/
def Serves (os : Sockets) : Prop :=
  ∃ a' r, a.allocatePair os = some (a', r) ∧ Right a os r

/-- Port 0 is a pair of the range that can be bound, and none is tried before it that can. -/
def ZeroFirst (os : Sockets) : Prop :=
  Bindable a os 0 ∧ a.configurable os 0 = true ∧ ∀ p, Bindable a os p → 0 < a.next → ¬ a.next ≤ p

variable {a}

theorem port_eq_zero_iff {i : Nat} (hi : i < a.pairs) : a.port i = 0 ↔ a.start = 0 ∧ i = 0 := by
  rw [← UInt16.toNat_inj, ← UInt16.toNat_inj, (toNat_port hi).1]
  simp

/-- In a range from 0 on, the counter is in front of the same pairs as its place. -/
theorem Valid.place_le_iff (h : Valid a) (h0 : a.start = 0) {i : Nat} (hi : i < a.pairs) :
    0 < a.place ∧ a.place ≤ i ↔ 0 < a.next ∧ a.next ≤ a.port i := by
  have hnext := h.next
  have hstart : a.start.toNat = 0 := by rw [h0]; rfl
  obtain ⟨hport, hlast⟩ := toNat_port hi
  rw [UInt16.lt_iff_toNat_lt, UInt16.le_iff_toNat_le, hport, UInt16.toNat_zero]
  by_cases hin : a.next.toNat + 1 ≤ a.stop.toNat
  · have hplace : a.place = (a.next.toNat - a.start.toNat) / 2 :=
      place_of_mem (a := a) (by omega) hin
    rw [hplace]
    omega
  · have hplace : a.place = 0 := place_of_not_mem (a := a) (.inr (by omega))
    rw [hplace]
    omega

/-- Port 0 comes first just if the search stops at the first place of a range from 0 on. -/
theorem Valid.zeroFirst_iff (h : Valid a) {n : Nat} (hn : a.pairs ≤ n) :
    ZeroFirst a os ↔ a.start = 0 ∧ a.configurable os 0 = true
      ∧ search a.pairs (fun i => a.free os (a.port i)) n a.place = some 0 := by
  have hpos : 0 < a.pairs := Nat.zero_lt_of_lt h.place_lt
  rw [search_eq_zero_iff h.place_lt hn]
  constructor
  · rintro ⟨hzero, hconf, hlater⟩
    have hleast := hzero.least
    rw [UInt16.le_iff_toNat_le] at hleast
    have h0 : a.start = 0 := UInt16.toNat_inj.mp (Nat.le_zero.mp hleast)
    have hfirst : a.port 0 = 0 := (port_eq_zero_iff hpos).mpr ⟨h0, rfl⟩
    refine ⟨h0, hconf, by simpa only [hfirst] using hzero.free, ?_⟩
    intro i hp hle hi
    obtain ⟨hnext, hnexti⟩ := (h.place_le_iff h0 hi).mp ⟨hp, hle⟩
    rw [Bool.eq_false_iff]
    intro hfree
    exact hlater _ (h.bindable_port hi hfree) hnext hnexti
  · rintro ⟨h0, hconf, hfree, hlater⟩
    have hfirst : a.port 0 = 0 := (port_eq_zero_iff hpos).mpr ⟨h0, rfl⟩
    refine ⟨hfirst ▸ h.bindable_port hpos hfree, hconf, ?_⟩
    intro p hp hnext hle
    obtain ⟨i, hi, rfl⟩ := hp.exists_place h
    obtain ⟨hplace, hplacei⟩ := (h.place_le_iff h0 hi).mpr ⟨hnext, hle⟩
    have htaken := hlater i hplace hplacei hi
    rw [hp.free] at htaken
    cases htaken

theorem Valid.serves_iff (h : Valid a) : Serves a os ↔ ¬ ZeroFirst a os := by
  obtain ⟨next, n, hn, hvalid, heq⟩ := h.allocatePair os
  have hserves : Serves a os ↔ Right a os
      (a.found os (search a.pairs (fun i => a.free os (a.port i)) n a.place)) := by
    constructor
    · rintro ⟨a', r, hsome, hright⟩
      rw [heq] at hsome
      cases hsome
      exact hright
    · exact fun hright => ⟨_, _, heq, hright⟩
  rw [hserves, h.zeroFirst_iff hn]
  cases hfound : search a.pairs (fun i => a.free os (a.port i)) n a.place with
  | none =>
    refine iff_of_true ?_ fun hcon => nomatch hcon.2.2
    rintro p _ hp
    obtain ⟨i, hi, rfl⟩ := hp.exists_place h
    have htaken := search_covers h.place_lt hn hfound hi
    rw [hp.free] at htaken
    cases htaken
  | some i =>
    obtain ⟨k, hk, hfree, _⟩ := search_some h.place_lt hfound
    have hi : i < a.pairs := hk ▸ Nat.mod_lt _ (Nat.zero_lt_of_lt h.place_lt)
    have hbind := h.bindable_port hi hfree
    have hzero := port_eq_zero_iff (a := a) hi
    rw [found, outcome]
    cases hconf : a.configurable os (a.port i) with
    | false =>
      refine iff_of_true ⟨_, hbind, hconf⟩ ?_
      rintro ⟨h0, hconf0, hsome⟩
      rw [hzero.mpr ⟨h0, Option.some.inj hsome⟩, hconf0] at hconf
      cases hconf
    | true =>
      constructor
      · rintro ⟨p, hp, _, hpair⟩ ⟨h0, _, hsome⟩
        refine hp ?_
        rw [← hzero.mpr ⟨h0, Option.some.inj hsome⟩]
        exact (congrArg (·.rtp.port) hpair).symm
      intro hnot
      refine ⟨_, ?_, hbind, rfl⟩
      intro hp
      obtain ⟨h0, rfl⟩ := hzero.mp hp
      exact hnot ⟨h0, hp ▸ hconf, rfl⟩

/-- For every accepted range, after any earlier allocations and whatever the operating system
    answers, a pair is allocated as it should be unless port 0 comes first. -/
theorem allocatePair_serves_iff {bindAddress advertisedAddress : Ipv4Addr} {start stop : UInt16}
    {a₀ : PortAllocator} (h : new bindAddress advertisedAddress start stop = .ok a₀)
    (earlier : List Allocation) (os : Sockets) :
    ∃ a, a₀.after earlier = some a ∧ (Serves a os ↔ ¬ ZeroFirst a os) := by
  obtain ⟨a, hafter, hvalid⟩ := (valid_new h).after earlier
  exact ⟨a, hafter, hvalid.serves_iff⟩

/-- An operating system that refuses nothing. -/
def willing : Sockets := ⟨fun _ => true, fun _ => true⟩

/-- A range from 0 to 7. -/
def lowest : PortAllocator := ⟨0, 0, 0, 7, 0⟩

/-- After one relay, a pair of ports 0 to 7 is as it should be: ports 4 and 5. -/
theorem allocatePair_serves_iff_relay : ∃ a, lowest.after [.relay willing willing] = some a
    ∧ (Serves a willing ↔ ¬ ZeroFirst a willing) :=
  have hnew : new 0 0 0 7 = .ok lowest := rfl
  allocatePair_serves_iff hnew [.relay willing willing] willing

/-- The range from 0 to 7 is accepted, and its first pair is port 0. -/
theorem allocatePair_zero : new 0 0 0 7 = .ok lowest ∧ ¬ Serves lowest willing := by
  refine ⟨rfl, ?_⟩
  have heq : lowest.allocatePair willing =
      some ({ lowest with next := 2 }, .ok (lowest.pair 0)) := by
    rfl
  rintro ⟨a', r, hsome, hright⟩
  rw [heq] at hsome
  cases hsome
  obtain ⟨p, hp, _, hpair⟩ := hright
  exact hp (congrArg (·.rtp.port) hpair).symm

end Sccp.Gateway.PortAllocator
