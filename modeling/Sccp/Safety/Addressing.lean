/-
  Sccp.Safety.Addressing

  When media address selection is complete and the same for IPv4-mapped addresses.

  Peer, local and reported addresses are made canonical before anything is decided.  The
  external and the advertised address are not: their family is that of the variant they are
  stored in, until the last check of the selection.
-/

import Sccp.Media.Addressing

namespace Sccp.Media

open Gateway (Ipv6Addr IpAddr toIpv4Mapped)

/-! ## The promise -/

/-- `Ipv4Addr::to_ipv6_mapped`. -/
def toIpv6Mapped (address : Gateway.Ipv4Addr) : Ipv6Addr :=
  BitVec.ofNat 128 (0xffff * 2 ^ 32 + address.toNat)

/-- The address as it is, or the IPv4-mapped form of an IPv4 address. -/
inductive Replaced : IpAddr → IpAddr → Prop where
  | same (address : IpAddr) : Replaced address address
  | mapped (address : Gateway.Ipv4Addr) : Replaced (.v4 address) (.v6 (toIpv6Mapped address))

/-- The policy as it is, or with the mapped form of its configured external address. -/
inductive Reconfigured : AddressSelectionPolicy → AddressSelectionPolicy → Prop where
  | same (policy : AddressSelectionPolicy) : Reconfigured policy policy
  | mapped (policy : AddressSelectionPolicy) (address : Gateway.Ipv4Addr)
      (h : policy.external = .fromAddress (.v4 address)) :
      Reconfigured policy
        { policy with external := .fromAddress (.v6 (toIpv6Mapped address)) }

namespace AddressSelectionPolicy

variable (policy : AddressSelectionPolicy) (localAddress peer : IpAddr)
  (reported : Option IpAddr)

/-- Both addresses of a pair of slots, the one in the slot of the family first. -/
def bothFamilies (slot : AddressFamily → Option IpAddr) : AddressFamily → List IpAddr
  | .ipv4 => (slot .ipv4).toList ++ (slot .ipv6).toList
  | .ipv6 => (slot .ipv6).toList ++ (slot .ipv4).toList

/-- The configured and local addresses in the order of preference, whichever slot they are
    stored in: a mapped address in the IPv6 slot is an IPv4 address. -/
def candidates : List IpAddr :=
  (if (policy.natDecision peer reported).active then
      bothFamilies policy.external.forFamily (AddressFamily.of peer) else [])
    ++ (bothFamilies (advertisedForFamily policy.advertised) (AddressFamily.of peer)
    ++ [canonicalIpAddress localAddress])

/-- The candidates that the source looks up: those in the slots of the peer's family. -/
def slotted : List IpAddr :=
  (if (policy.natDecision peer reported).active then
      policy.external.forFamily (AddressFamily.of peer) else none).toList
    ++ ((advertisedForFamily policy.advertised (AddressFamily.of peer)).toList
    ++ [canonicalIpAddress localAddress])

/-- The address is a usable endpoint of the peer's family. -/
def usable (candidate : IpAddr) : Bool :=
  usableForPeer (canonicalIpAddress candidate) (canonicalIpAddress peer)

/-- The test of the source: the address is compared as it is stored. -/
def passes (candidate : IpAddr) : Bool := usableForPeer candidate (canonicalIpAddress peer)

/-- The promise for one policy, one call of `advertised_media` and one of `phone_peer`. -/
structure SelectsMedia (phoneReported : IpAddr) : Prop where
  first : ∀ candidate,
    (policy.candidates localAddress peer reported).find? (usable peer) = some candidate →
    policy.advertisedMedia localAddress peer reported
      = .ok (canonicalIpAddress candidate, policy.natDecision peer reported)
  fails : (policy.candidates localAddress peer reported).find? (usable peer) = none →
    ∃ error, policy.advertisedMedia localAddress peer reported = .error error
  phone : ∀ selected decision,
    policy.phonePeer peer phoneReported reported = .ok (selected, decision) →
    isEndpoint selected ∧ AddressFamily.of selected = AddressFamily.of peer
  mapped : ∀ policy' localAddress' peer' reported' phoneReported',
    Reconfigured policy policy' → Replaced localAddress localAddress' → Replaced peer peer' →
    Option.Rel Replaced reported reported' → Replaced phoneReported phoneReported' →
    policy'.advertisedMedia localAddress' peer' reported'
        = policy.advertisedMedia localAddress peer reported
      ∧ policy'.phonePeer peer' phoneReported' reported'
        = policy.phonePeer peer phoneReported reported

/-- What is selected without the external address, before the last checks. -/
def fallback : IpAddr :=
  ((advertisedForFamily policy.advertised (AddressFamily.of peer)).filter (passes peer)).getD
    (canonicalIpAddress localAddress)

/-- The first usable candidate is in a slot of the peer's family and the first there to pass
    the test of the source, and mapping the external address makes no difference: an IPv4 peer
    gets the same address without it, and for an IPv6 peer the selection fails for a family
    mismatch anyway. -/
structure StoredFormSuffices : Prop where
  first : ∀ candidate,
    (policy.candidates localAddress peer reported).find? (usable peer) = some candidate →
    (policy.slotted localAddress peer reported).find? (passes peer)
      = some (canonicalIpAddress candidate)
  external : ∀ address, policy.external = .fromAddress (.v4 address) →
    (policy.natDecision peer reported).active → match AddressFamily.of peer with
    | .ipv4 => passes peer (.v4 address) → policy.fallback localAddress peer = .v4 address
    | .ipv6 => isEndpoint (policy.fallback localAddress peer)
        ∧ AddressFamily.of (policy.fallback localAddress peer) = .ipv4

end AddressSelectionPolicy

/-! ## Canonical addresses -/

theorem toNat_toIpv6Mapped (address : Gateway.Ipv4Addr) :
    (toIpv6Mapped address).toNat = 0xffff * 2 ^ 32 + address.toNat := by
  have hlt := address.isLt
  rw [toIpv6Mapped, BitVec.toNat_ofNat]
  omega

theorem toIpv4Mapped_toIpv6Mapped (address : Gateway.Ipv4Addr) :
    toIpv4Mapped (toIpv6Mapped address) = some address := by
  have hlt := address.isLt
  have hnat := toNat_toIpv6Mapped address
  have hshift : toIpv6Mapped address >>> 32 = 0xffff := by
    apply BitVec.eq_of_toNat_eq
    rw [BitVec.toNat_ushiftRight, hnat, Nat.shiftRight_eq_div_pow]
    show _ = 0xffff
    omega
  rw [toIpv4Mapped, if_pos hshift]
  congr 1
  apply BitVec.eq_of_toNat_eq
  rw [BitVec.toNat_setWidth, hnat]
  omega

theorem canonical_mapped (address : Gateway.Ipv4Addr) :
    canonicalIpAddress (.v6 (toIpv6Mapped address)) = .v4 address := by
  rw [canonicalIpAddress, toIpv4Mapped_toIpv6Mapped, Option.elim_some]

@[simp] theorem canonical_canonical (address : IpAddr) :
    canonicalIpAddress (canonicalIpAddress address) = canonicalIpAddress address := by
  cases address with
  | v4 address => rfl
  | v6 address =>
    cases h : toIpv4Mapped address with
    | none => simp only [canonicalIpAddress, h, Option.elim_none]
    | some mapped => simp only [canonicalIpAddress, h, Option.elim_some]

@[simp] theorem familyOf_canonical (address : IpAddr) :
    AddressFamily.of (canonicalIpAddress address) = AddressFamily.of address := by
  rw [AddressFamily.of, canonical_canonical, AddressFamily.of]

theorem Replaced.canonical {address address' : IpAddr} (h : Replaced address address') :
    canonicalIpAddress address' = canonicalIpAddress address := by
  cases h with
  | same => rfl
  | mapped address => exact canonical_mapped address

theorem canonical_of_rel {reported reported' : Option IpAddr}
    (h : Option.Rel Replaced reported reported') :
    reported'.map canonicalIpAddress = reported.map canonicalIpAddress := by
  cases h with
  | none => rfl
  | some h => exact congrArg some h.canonical

/-- An address passes the test and has the peer's family just when it is usable and stored
    in its canonical form. -/
theorem passes_family_iff (candidate peer : IpAddr) :
    (AddressSelectionPolicy.passes peer candidate = true
        ∧ AddressFamily.of candidate = AddressFamily.of peer)
      ↔ (AddressSelectionPolicy.usable peer candidate = true
        ∧ canonicalIpAddress candidate = candidate) := by
  unfold AddressSelectionPolicy.passes AddressSelectionPolicy.usable
  rw [← familyOf_canonical peer]
  have hpeer := canonical_canonical peer
  generalize canonicalIpAddress peer = p at hpeer ⊢
  cases candidate with
  | v4 address =>
    refine ⟨fun h => ⟨h.1, rfl⟩, fun h => ⟨h.1, ?_⟩⟩
    cases p with
    | v4 p => rfl
    | v6 p => simp [usableForPeer, canonicalIpAddress] at h
  | v6 address =>
    cases hmapped : toIpv4Mapped address with
    | some mapped =>
      have hcanonical : canonicalIpAddress (.v6 address) = .v4 mapped := by
        rw [canonicalIpAddress, hmapped, Option.elim_some]
      rw [AddressFamily.of, hcanonical, AddressFamily.of, hpeer]
      constructor
      · cases p with
        | v4 p => exact fun h => absurd h.1 (by simp [usableForPeer])
        | v6 p => exact fun h => nomatch h.2
      · exact fun h => nomatch h.2
    | none =>
      have hcanonical : canonicalIpAddress (.v6 address) = .v6 address := by
        rw [canonicalIpAddress, hmapped, Option.elim_none]
      rw [AddressFamily.of, hcanonical, AddressFamily.of, hpeer]
      refine ⟨fun h => ⟨h.1, rfl⟩, fun h => ⟨h.1, ?_⟩⟩
      cases p with
      | v4 p => simp [usableForPeer] at h
      | v6 p => rfl

namespace AddressSelectionPolicy

variable {policy : AddressSelectionPolicy} {localAddress peer : IpAddr}
  {reported : Option IpAddr}

@[simp] theorem natDecision_canonical :
    policy.natDecision (canonicalIpAddress peer) reported = policy.natDecision peer reported := by
  rw [natDecision, canonical_canonical, natDecision]

theorem natDecision_congr {peer' : IpAddr} {reported' : Option IpAddr}
    (hpeer : canonicalIpAddress peer' = canonicalIpAddress peer)
    (hreported : reported'.map canonicalIpAddress = reported.map canonicalIpAddress) :
    policy.natDecision peer' reported' = policy.natDecision peer reported := by
  rw [natDecision, hpeer, hreported, natDecision]

/-! ## The selection -/

/-- What the selection hands to the last checks. -/
theorem advertisedMedia_eq : policy.advertisedMedia localAddress peer reported
      = finish (canonicalIpAddress peer)
        (((policy.slotted localAddress peer reported).find? (passes peer)).getD
          (canonicalIpAddress localAddress)) (policy.natDecision peer reported) := by
  unfold advertisedMedia slotted
  simp only [natDecision_canonical, familyOf_canonical]
  generalize (if (policy.natDecision peer reported).active then
    policy.external.forFamily (AddressFamily.of peer) else none) = external
  generalize advertisedForFamily policy.advertised (AddressFamily.of peer) = advertised
  congr 1
  rw [List.find?_append, List.find?_append]
  have hpick : ∀ o : Option IpAddr, o.toList.find? (passes peer)
      = o.filter (usableForPeer · (canonicalIpAddress peer)) := by
    intro o
    cases o with
    | none => rfl
    | some a =>
      show [a].find? (passes peer) = _
      cases h : passes peer a <;> simp_all [passes, Option.filter]
  rw [hpick, hpick]
  cases hlocal : passes peer (canonicalIpAddress localAddress) <;>
    cases external.filter (usableForPeer · (canonicalIpAddress peer)) <;>
    cases advertised.filter (usableForPeer · (canonicalIpAddress peer)) <;> simp [hlocal]

theorem mem_bothFamilies {slot : AddressFamily → Option IpAddr} {family : AddressFamily}
    {address : IpAddr} (h : address ∈ (slot family).toList) :
    address ∈ bothFamilies slot family := by
  cases family with
  | ipv4 => exact List.mem_append_left _ h
  | ipv6 => exact List.mem_append_left _ h

/-- What the source looks up is among the candidates. -/
theorem mem_candidates_of_slotted {address : IpAddr}
    (h : address ∈ policy.slotted localAddress peer reported) :
    address ∈ policy.candidates localAddress peer reported := by
  unfold slotted at h
  unfold candidates
  rcases List.mem_append.mp h with h | h
  · split at h
    · next hactive =>
      rw [if_pos hactive]
      exact List.mem_append_left _ (mem_bothFamilies h)
    · cases h
  refine List.mem_append_right _ ?_
  rcases List.mem_append.mp h with h | h
  · exact List.mem_append_left _ (mem_bothFamilies h)
  · exact List.mem_append_right _ h

theorem isEndpoint_of_ok {address : IpAddr} (h : validateEndpoint address = .ok ()) :
    isEndpoint address := by
  rw [validateEndpoint] at h
  split at h
  next hendpoint => exact hendpoint
  · cases h

theorem validateEndpoint_of_passes {candidate : IpAddr} (h : passes peer candidate) :
    validateEndpoint candidate = .ok () := by
  have hok := ((Bool.and_eq_true _ _).mp h).1
  cases hvalid : validateEndpoint candidate with
  | ok => rfl
  | error e => rw [hvalid] at hok; cases hok

theorem finish_of_usable {candidate : IpAddr} (decision : NatDecision)
    (h : usable peer candidate) (hstored : canonicalIpAddress candidate = candidate) :
    finish (canonicalIpAddress peer) candidate decision = .ok (candidate, decision) := by
  obtain ⟨hpasses, hfamily⟩ := (passes_family_iff candidate peer).mpr ⟨h, hstored⟩
  unfold finish
  rw [validateEndpoint_of_passes hpasses, familyOf_canonical]
  show (if AddressFamily.of candidate ≠ AddressFamily.of peer then _ else _) = _
  have huse : usableForPeer candidate (canonicalIpAddress peer) = true := hpasses
  rw [if_neg (not_not.mpr hfamily), huse]
  rfl

theorem finish_ok {candidate : IpAddr} {decision : NatDecision} {result : IpAddr × NatDecision}
    (h : finish (canonicalIpAddress peer) candidate decision = .ok result) :
    result = (candidate, decision) ∧ usable peer candidate
      ∧ canonicalIpAddress candidate = candidate := by
  unfold finish at h
  cases hvalid : validateEndpoint candidate with
  | error e => rw [hvalid] at h; cases h
  | ok =>
    rw [hvalid, familyOf_canonical] at h
    change (if AddressFamily.of candidate ≠ AddressFamily.of peer then _ else _) = _ at h
    split at h
    · cases h
    next hfamily =>
      split at h
      · cases h
      next hpasses =>
        cases h
        exact ⟨rfl, (passes_family_iff candidate peer).mp
          ⟨by simpa [passes] using hpasses, not_not.mp hfamily⟩⟩

theorem phonePeer_ok {selected : IpAddr} {phoneReported : IpAddr} {decision : NatDecision}
    (h : policy.phonePeer peer phoneReported reported = .ok (selected, decision)) :
    isEndpoint selected ∧ AddressFamily.of selected = AddressFamily.of peer := by
  unfold phonePeer at h
  simp only [natDecision_canonical, familyOf_canonical] at h
  generalize (if (policy.natDecision peer reported).active then canonicalIpAddress peer
    else canonicalIpAddress phoneReported) = chosen at h
  cases hvalid : validateEndpoint chosen with
  | error e => rw [hvalid] at h; cases h
  | ok =>
    rw [hvalid] at h
    change (if AddressFamily.of chosen ≠ AddressFamily.of peer then _ else _) = _ at h
    split at h
    · cases h
    next hfamily =>
      cases h
      exact ⟨isEndpoint_of_ok hvalid, not_not.mp hfamily⟩

/-- The selection, with the external address apart. -/
theorem advertisedMedia_fallback : policy.advertisedMedia localAddress peer reported
      = finish (canonicalIpAddress peer) (((if (policy.natDecision peer reported).active then
            policy.external.forFamily (AddressFamily.of peer) else none).filter
          (passes peer)).getD (policy.fallback localAddress peer))
        (policy.natDecision peer reported) := by
  unfold advertisedMedia fallback
  simp only [natDecision_canonical, familyOf_canonical, Option.getD_or]
  rfl

theorem passes_mapped (h : AddressFamily.of peer = .ipv6) (address : Gateway.Ipv4Addr) :
    passes peer (.v6 (toIpv6Mapped address)) := by
  have hlt := address.isLt
  have hnat := toNat_toIpv6Mapped address
  have hne : ∀ n : Nat, n < 2 ^ 32 → toIpv6Mapped address ≠ BitVec.ofNat 128 n := by
    intro n hn heq
    have := congrArg BitVec.toNat heq
    rw [hnat, BitVec.toNat_ofNat] at this
    omega
  have hshift : ∀ k, 48 ≤ k → ∀ n : Nat, 0 < n → n < 2 ^ 32 →
      toIpv6Mapped address >>> k ≠ BitVec.ofNat 128 n := by
    intro k hk n hpos hn heq
    have := congrArg BitVec.toNat heq
    rw [BitVec.toNat_ushiftRight, hnat, BitVec.toNat_ofNat, Nat.shiftRight_eq_div_pow,
      Nat.div_eq_of_lt (Nat.lt_of_lt_of_le (by omega) (Nat.pow_le_pow_right (by omega) hk))] at this
    omega
  have hendpoint : isEndpoint (.v6 (toIpv6Mapped address)) = true := by
    have h0 := hne 0 (by omega)
    have h1 := hshift 120 (by omega) 0xff (by omega) (by omega)
    have h2 := hshift 118 (by omega) 0x3fa (by omega) (by omega)
    simp only [isEndpoint, Bool.and_eq_true, decide_eq_true_eq]
    exact ⟨⟨h0, h1⟩, h2⟩
  rw [AddressFamily.of] at h
  unfold passes usableForPeer
  rw [validateEndpoint, if_pos hendpoint]
  cases hpeer : canonicalIpAddress peer with
  | v4 p => rw [hpeer] at h; cases h
  | v6 p =>
    have h1 : toIpv6Mapped address ≠ 1 := hne 1 (by omega)
    show (true && (decide _ || _)) = true
    rw [decide_eq_true h1]
    rfl

theorem finish_mapped (h : AddressFamily.of peer = .ipv6) (address : Gateway.Ipv4Addr)
    (decision : NatDecision) :
    finish (canonicalIpAddress peer) (.v6 (toIpv6Mapped address)) decision
      = .error (.addressFamilyMismatch .ipv6 .ipv4) := by
  have hfamily : AddressFamily.of (.v6 (toIpv6Mapped address)) = .ipv4 := by
    rw [AddressFamily.of, canonical_mapped]
  unfold finish
  rw [validateEndpoint_of_passes (passes_mapped h address), familyOf_canonical, h, hfamily]
  rfl

/-- Without the configured external address, or with it where it does not pass, the selection
    falls back. -/
theorem reconfigured_advertisedMedia (h : policy.StoredFormSuffices localAddress peer reported)
    {address : Gateway.Ipv4Addr} (hexternal : policy.external = .fromAddress (.v4 address)) :
    { policy with external := .fromAddress (.v6 (toIpv6Mapped address)) }.advertisedMedia
        localAddress peer reported
      = policy.advertisedMedia localAddress peer reported := by
  have hsame : { policy with
      external := .fromAddress (.v6 (toIpv6Mapped address)) }.natDecision peer reported
        = policy.natDecision peer reported := rfl
  have hback : { policy with
      external := .fromAddress (.v6 (toIpv6Mapped address)) }.fallback localAddress peer
        = policy.fallback localAddress peer := rfl
  rw [advertisedMedia_fallback, advertisedMedia_fallback, hsame, hback, hexternal]
  cases hactive : (policy.natDecision peer reported).active with
  | false => rfl
  | true =>
    have hneeds := h.external address hexternal hactive
    cases hfamily : AddressFamily.of peer with
    | ipv4 =>
      rw [hfamily] at hneeds
      show finish _ (policy.fallback localAddress peer) _
        = finish _ (((some (IpAddr.v4 address)).filter (passes peer)).getD _) _
      cases hpasses : passes peer (.v4 address) with
      | false => rw [Option.filter_some_neg (by simp [hpasses])]; rfl
      | true =>
        rw [Option.filter_some_pos hpasses, hneeds hpasses]
        rfl
    | ipv6 =>
      rw [hfamily] at hneeds
      have hfails : finish (canonicalIpAddress peer) (policy.fallback localAddress peer)
          (policy.natDecision peer reported) = .error (.addressFamilyMismatch .ipv6 .ipv4) := by
        unfold finish
        rw [validateEndpoint, if_pos hneeds.1, familyOf_canonical, hfamily, hneeds.2]
        rfl
      show finish _ (((some (IpAddr.v6 _)).filter (passes peer)).getD _) _
        = finish _ (policy.fallback localAddress peer) _
      rw [Option.filter_some_pos (passes_mapped hfamily address), hfails]
      exact finish_mapped hfamily address _

/-- Mapping the external address may only be without effect for the stated reason. -/
theorem external_of_reconfigured {address : Gateway.Ipv4Addr}
    (hexternal : policy.external = .fromAddress (.v4 address))
    (hactive : (policy.natDecision peer reported).active)
    (h : { policy with external := .fromAddress (.v6 (toIpv6Mapped address)) }.advertisedMedia
        localAddress peer reported
      = policy.advertisedMedia localAddress peer reported) :
    match AddressFamily.of peer with
    | .ipv4 => passes peer (.v4 address) → policy.fallback localAddress peer = .v4 address
    | .ipv6 => isEndpoint (policy.fallback localAddress peer)
        ∧ AddressFamily.of (policy.fallback localAddress peer) = .ipv4 := by
  have hsame : { policy with
      external := .fromAddress (.v6 (toIpv6Mapped address)) }.natDecision peer reported
        = policy.natDecision peer reported := rfl
  have hback : { policy with
      external := .fromAddress (.v6 (toIpv6Mapped address)) }.fallback localAddress peer
        = policy.fallback localAddress peer := rfl
  rw [advertisedMedia_fallback, advertisedMedia_fallback, hsame, hback, hexternal, hactive] at h
  cases hfamily : AddressFamily.of peer with
  | ipv4 =>
    rw [hfamily] at h
    intro hpasses
    change finish _ (policy.fallback localAddress peer) _
      = finish _ (((some (IpAddr.v4 address)).filter (passes peer)).getD _) _ at h
    have huse : usable peer (.v4 address) := hpasses
    rw [Option.filter_some_pos hpasses, Option.getD_some, finish_of_usable _ huse rfl] at h
    exact (congrArg Prod.fst (finish_ok h).1).symm
  | ipv6 =>
    rw [hfamily] at h
    change finish _ (((some (IpAddr.v6 _)).filter (passes peer)).getD _) _
      = finish _ (policy.fallback localAddress peer) _ at h
    rw [Option.filter_some_pos (passes_mapped hfamily address), Option.getD_some,
      finish_mapped hfamily] at h
    unfold finish at h
    rw [familyOf_canonical, hfamily] at h
    cases hvalid : validateEndpoint (policy.fallback localAddress peer) with
    | error e =>
      rw [hvalid] at h
      rw [validateEndpoint] at hvalid
      split at hvalid
      · cases hvalid
      · cases hvalid
        cases h
    | ok =>
      rw [hvalid] at h
      refine ⟨isEndpoint_of_ok hvalid, ?_⟩
      change _ = (if AddressFamily.of (policy.fallback localAddress peer) ≠ .ipv6 then _
        else _) at h
      cases hfound : AddressFamily.of (policy.fallback localAddress peer) with
      | ipv4 => rfl
      | ipv6 =>
        rw [hfound, if_neg (not_not.mpr rfl)] at h
        split at h <;> cases h

end AddressSelectionPolicy

namespace Sample

/-- Mapped `203.0.113.5`, `198.51.100.20`, `2001:db8::20` and `2001:db8::1`. -/
def external : Gateway.Ipv4Addr := 0xcb007105

def phone4 : IpAddr := .v4 0xc6336414

def phone6 : IpAddr := .v6 0x20010db8000000000000000000000020

def local6 : IpAddr := .v6 0x20010db8000000000000000000000001

def mappedExternal : AddressSelectionPolicy :=
  { nat := .on, localNetworks := [], advertised := ⟨none, none⟩
    external := .fromAddress (.v6 (toIpv6Mapped external)) }

end Sample

end Sccp.Media
