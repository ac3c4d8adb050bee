/-
  Sccp.Gateway.PortAllocator

  Media ports of the SIP bridge (`PortAllocator` of `bridge/src/media.rs`).

  Ports are 16-bit numbers.  `fetch_add` wraps, the `saturating_*` operations stop at the ends,
  and an operation written `+` or `-` in the source gives `none` where it overflows.
-/

import Sccp.Gateway.Types

namespace Sccp.Gateway

inductive RelayError where
  | invalidPortRange | portsExhausted | io | ipv4Required
  deriving DecidableEq

/-- `u16::saturating_add`. -/
def saturatingAdd (a b : UInt16) : UInt16 := if a.toNat + b.toNat < 65536 then a + b else 65535

/-- `u16::saturating_sub`. -/
def saturatingSub (a b : UInt16) : UInt16 := if b ≤ a then a - b else 0

def checkedAdd (a b : UInt16) : Option UInt16 :=
  if a.toNat + b.toNat < 65536 then some (a + b) else none

def checkedSub (a b : UInt16) : Option UInt16 := if b ≤ a then some (a - b) else none

/-- What the operating system answers while a pair is sought. -/
structure Sockets where
  bind : SocketAddrV4 → Bool
  setReadTimeout : SocketAddrV4 → Bool

/-- Two bound sockets, named by the addresses they were bound to, and the addresses that are
    advertised for them. -/
structure SocketPair where
  (rtp rtcp rtpAddress rtcpAddress : SocketAddrV4)
  deriving DecidableEq

/-- The `range` runs from `start` to `stop` inclusive. -/
structure PortAllocator where
  (bindAddress advertisedAddress : Ipv4Addr)
  (start stop next : UInt16)
  deriving DecidableEq

namespace PortAllocator

def new (bindAddress advertisedAddress : Ipv4Addr) (start stop : UInt16) :
    Except RelayError PortAllocator :=
  if start % 2 ≠ 0 ∨ saturatingSub stop start < 7 then .error .invalidPortRange
  else .ok { bindAddress, advertisedAddress, start, stop, next := start }

/-- The port to try, and the counter after it. -/
def takePort (a : PortAllocator) : PortAllocator × UInt16 :=
  let port := a.next
  if port < a.start ∨ nextPort port > a.stop then
    ({ a with next := saturatingAdd a.start 2 }, a.start)
  else ({ a with next := port + 2 }, port)

/-- One attempt at a port; `some none` goes on to the next. -/
def tryPort (a : PortAllocator) (os : Sockets) (port : UInt16) :
    Option (Option (Except RelayError SocketPair)) :=
  let rtp : SocketAddrV4 := ⟨a.bindAddress, port⟩
  if !os.bind rtp then some none
  else do
    let rtcpPort ← checkedAdd port 1
    let rtcp : SocketAddrV4 := ⟨a.bindAddress, rtcpPort⟩
    if !os.bind rtcp then some none
    else if !os.setReadTimeout rtp then some (some (.error .io))
    else if !os.setReadTimeout rtcp then some (some (.error .io))
    else
      let rtcpPort ← checkedAdd port 1
      some (some (.ok ⟨rtp, rtcp, ⟨a.advertisedAddress, port⟩, ⟨a.advertisedAddress, rtcpPort⟩⟩))

/-- The loop of `allocate_pair`. -/
def attempt (os : Sockets) : Nat → PortAllocator →
    Option (PortAllocator × Except RelayError SocketPair)
  | 0, a => some (a, .error .portsExhausted)
  | attempts + 1, a => do
    let (a, port) := a.takePort
    match ← a.tryPort os port with
    | none => attempt os attempts a
    | some result => some (a, result)

def allocatePair (a : PortAllocator) (os : Sockets) :
    Option (PortAllocator × Except RelayError SocketPair) := do
  let width ← checkedSub a.stop a.start
  attempt os ((width / 2).toNat + 1) a

/-- The phone's pair and then SIP's, each with the answers given while it is sought. -/
def allocate (a : PortAllocator) (forPhone forSip : Sockets) :
    Option (PortAllocator × Except RelayError AllocatedRelay) := do
  match ← a.allocatePair forPhone with
  | (a, .error e) => some (a, .error e)
  | (a, .ok phone) =>
    match ← a.allocatePair forSip with
    | (a, .error e) => some (a, .error e)
    | (a, .ok sip) =>
      some (a, .ok ⟨⟨phone.rtpAddress, phone.rtcpAddress, sip.rtpAddress, sip.rtcpAddress⟩⟩)

/-- An earlier use of the allocator. -/
inductive Allocation where
  | pair (os : Sockets)
  | relay (forPhone forSip : Sockets)

/-- The allocator after a sequence of uses, whatever each of them gave. -/
def after (a : PortAllocator) : List Allocation → Option PortAllocator
  | [] => some a
  | .pair os :: rest => do (← a.allocatePair os).1.after rest
  | .relay forPhone forSip :: rest => do (← a.allocate forPhone forSip).1.after rest

end PortAllocator

end Sccp.Gateway
