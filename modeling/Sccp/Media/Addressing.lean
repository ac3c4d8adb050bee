/-
  Sccp.Media.Addressing

  Media address selection (`media/addressing.rs`).

  Whether a phone sits behind NAT is decided from its signaling peer and the address it
  reported.  The media address placed on the wire is the external one if NAT is active,
  else the advertised one, else that of the local socket.
-/

import Sccp.Gateway.Types

namespace Sccp.Media

open Gateway (Ipv6Addr IpAddr toIpv4Mapped)

inductive AddressFamily where
  | ipv4
  | ipv6
  deriving DecidableEq

inductive NatMode where
  | auto
  | off
  | autoOff
  | on
  | autoOn

inductive NatReason where
  | forced
  | signalingPeerOutsideLocalNetworks
  | reportedAddressMismatch
  | notDetected
  deriving DecidableEq

structure NatDecision where
  active : Bool
  reason : NatReason
  deriving DecidableEq

inductive AddressSelectionError where
  | unusableAddress (address : IpAddr)
  | addressFamilyMismatch (expected found : AddressFamily)
  deriving DecidableEq

structure IpNetwork where
  address : IpAddr
  prefixLength : Nat

structure AdvertisedAddresses where
  ipv4 : Option Gateway.Ipv4Addr
  ipv6 : Option Ipv6Addr

structure ResolvedExternalAddresses where
  ipv4 : Option IpAddr := none
  ipv6 : Option IpAddr := none

structure AddressSelectionPolicy where
  nat : NatMode
  localNetworks : List IpNetwork
  advertised : AdvertisedAddresses
  external : ResolvedExternalAddresses

/-- Normalize IPv4-mapped IPv6 addresses so dual-stack listeners make the same family
    decisions as native IPv4 listeners. -/
def canonicalIpAddress : IpAddr → IpAddr
  | .v4 address => .v4 address
  | .v6 address => (toIpv4Mapped address).elim (.v6 address) .v4

def AddressFamily.of (address : IpAddr) : AddressFamily :=
  match canonicalIpAddress address with
  | .v4 _ => .ipv4
  | .v6 _ => .ipv6

def ResolvedExternalAddresses.fromAddress (address : IpAddr) : ResolvedExternalAddresses :=
  match address with
  | .v4 _ => { ipv4 := some address }
  | .v6 _ => { ipv6 := some address }

def ResolvedExternalAddresses.forFamily (external : ResolvedExternalAddresses) :
    AddressFamily → Option IpAddr
  | .ipv4 => external.ipv4
  | .ipv6 => external.ipv6

def advertisedForFamily (addresses : AdvertisedAddresses) : AddressFamily → Option IpAddr
  | .ipv4 => addresses.ipv4.map .v4
  | .ipv6 => addresses.ipv6.map .v6

/-- An IPv4 address that is not unspecified, broadcast or multicast; an IPv6 address that is
    not unspecified, multicast or link-local. -/
def isEndpoint : IpAddr → Bool
  | .v4 address => address ≠ 0 && address ≠ BitVec.allOnes 32 && address >>> 28 ≠ 0xe
  | .v6 address => address ≠ 0 && address >>> 120 ≠ 0xff && address >>> 118 ≠ 0x3fa

def validateEndpoint (address : IpAddr) : Except AddressSelectionError Unit :=
  if isEndpoint address then .ok () else .error (.unusableAddress address)

def usableForPeer (candidate peer : IpAddr) : Bool :=
  (validateEndpoint candidate).isOk && match candidate, peer with
    | .v4 candidate, .v4 peer => candidate >>> 24 ≠ 127 || peer >>> 24 = 127
    | .v6 candidate, .v6 peer => candidate ≠ 1 || peer = 1
    | _, _ => false

def networkContains (network : IpNetwork) (address : IpAddr) : Bool :=
  match network.address, address with
  | .v4 networkAddress, .v4 address =>
    let mask := if network.prefixLength = 0 then 0
      else BitVec.allOnes 32 <<< (32 - network.prefixLength)
    network.prefixLength ≤ 32 && networkAddress &&& mask = address &&& mask
  | .v6 networkAddress, .v6 address =>
    let mask := if network.prefixLength = 0 then 0
      else BitVec.allOnes 128 <<< (128 - network.prefixLength)
    network.prefixLength ≤ 128 && networkAddress &&& mask = address &&& mask
  | _, _ => false

namespace AddressSelectionPolicy

variable (policy : AddressSelectionPolicy)

def natDecision (signalingPeer : IpAddr) (reported : Option IpAddr) : NatDecision :=
  let signalingPeer := canonicalIpAddress signalingPeer
  let reported := reported.map canonicalIpAddress
  match policy.nat with
  | .on => ⟨true, .forced⟩
  | .off => ⟨false, .forced⟩
  | .auto | .autoOff | .autoOn =>
    if !policy.localNetworks.isEmpty
        && !policy.localNetworks.any (networkContains · signalingPeer) then
      ⟨true, .signalingPeerOutsideLocalNetworks⟩
    else if reported.any (· ≠ signalingPeer) then ⟨true, .reportedAddressMismatch⟩
    else ⟨false, .notDetected⟩

/-- Select the endpoint at which the phone can actually receive media. -/
def phonePeer (signalingPeer reported : IpAddr) (registrationReported : Option IpAddr) :
    Except AddressSelectionError (IpAddr × NatDecision) := do
  let signalingPeer := canonicalIpAddress signalingPeer
  let reported := canonicalIpAddress reported
  let decision := policy.natDecision signalingPeer registrationReported
  let selected := if decision.active then signalingPeer else reported
  validateEndpoint selected
  if AddressFamily.of selected ≠ AddressFamily.of signalingPeer then
    .error (.addressFamilyMismatch (AddressFamily.of signalingPeer) (AddressFamily.of selected))
  else .ok (selected, decision)

/-- The checks `advertised_media` makes on the address it has chosen. -/
def finish (peer candidate : IpAddr) (decision : NatDecision) :
    Except AddressSelectionError (IpAddr × NatDecision) := do
  validateEndpoint candidate
  if AddressFamily.of candidate ≠ AddressFamily.of peer then
    .error (.addressFamilyMismatch (AddressFamily.of peer) (AddressFamily.of candidate))
  else if !usableForPeer candidate peer then .error (.unusableAddress candidate)
  else .ok (candidate, decision)

/-- Select the local RTP address that should be placed on the wire to the phone. -/
def advertisedMedia (localAddress signalingPeer : IpAddr) (reported : Option IpAddr) :
    Except AddressSelectionError (IpAddr × NatDecision) :=
  let localAddress := canonicalIpAddress localAddress
  let signalingPeer := canonicalIpAddress signalingPeer
  let decision := policy.natDecision signalingPeer reported
  let family := AddressFamily.of signalingPeer
  let candidate :=
    (((if decision.active then policy.external.forFamily family else none).filter
        (usableForPeer · signalingPeer)).or ((advertisedForFamily policy.advertised family).filter
        (usableForPeer · signalingPeer))).getD localAddress
  finish signalingPeer candidate decision

end AddressSelectionPolicy

end Sccp.Media
