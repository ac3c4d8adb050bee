/-
  Sccp.Call.Forwarding

  Forwarding destinations and routes (`call/forwarding.rs`), as far as inbound
  admission and the forwarding effects read them.
-/

import Sccp.Types

namespace Sccp

structure ForwardingDestination where
  text : String

structure ForwardingContext where
  text : String

inductive ForwardingRouteReason where
  | unconditional
  | busy
  | noAnswer

structure ForwardingOperation where
  callId : PbxCallId
  context : ForwardingContext
  destination : ForwardingDestination
  reason : ForwardingRouteReason

structure ForwardingState where
  all : Option ForwardingDestination := none
  busy : Option ForwardingDestination := none
  noAnswer : Option ForwardingDestination := none

end Sccp
