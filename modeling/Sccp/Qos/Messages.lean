/-
  Sccp.Qos.Messages

  The reservation messages exchanged with a service node, and the values they carry
  (`message/values.rs`, `message/mod.rs`).

  A numeric field that newer firmware may extend has an `unknown` case that keeps
  the value.
-/

import Sccp.Types

namespace Sccp

structure Ipv4Addr where
  a : UInt8
  b : UInt8
  c : UInt8
  d : UInt8
  deriving DecidableEq

namespace Ipv4Addr

def isUnspecified (address : Ipv4Addr) : Bool :=
  address.a = 0 && address.b = 0 && address.c = 0 && address.d = 0

def isMulticast (address : Ipv4Addr) : Bool := 224 ≤ address.a && address.a ≤ 239

end Ipv4Addr

structure CallReference where
  val : Nat
  deriving DecidableEq

inductive QosDirection where
  | send | receive | sendReceive
  | unknown (value : UInt32)
  deriving DecidableEq

def QosDirection.isKnown : QosDirection → Bool
  | .unknown _ => false
  | _ => true

inductive QosReservationStyle where
  | fixedFilter | sharedExplicit | wildcardFilter
  | unknown (value : UInt32)
  deriving DecidableEq

def QosReservationStyle.isKnown : QosReservationStyle → Bool
  | .unknown _ => false
  | _ => true

inductive QosErrorCode where
  | reservationTimeout | pathFailed | reservationFailed | listenFailed | resourceUnavailable
  | listenTimeout | reservationRetriesFailed | pathRetriesFailed | reservationPreempted
  | pathPreempted | reservationModifyFailed | pathModifyFailed | reservationTornDown
  | unknown (value : UInt32)
  deriving DecidableEq

inductive RsvpErrorCode where
  | confirm | admission | administrative | noPathInformation | noSenderInformation
  | conflictingStyle | unknownStyle | conflictingDestinationPorts | conflictingSourcePorts
  | servicePreempted | unknownObjectClass | unknownClassType | api | traffic | trafficSystem
  | system | routingProblem
  | unknown (value : UInt32)
  deriving DecidableEq

/-- One media flow as the service node knows it. -/
structure QosFlow where
  conferenceId : ConferenceId
  callReference : CallReference
  passthroughPartyId : PassthroughPartyId
  address : Ipv4Addr
  port : UInt16
  deriving DecidableEq

structure QosTrafficSpecification where
  codec : Codec
  averageBitRate : UInt32
  burstSize : UInt32
  peakRate : UInt32
  deriving DecidableEq

structure QosApplicationIdentifier where
  vendorId : String
  version : String
  applicationName : String
  subApplicationId : String
  deriving DecidableEq

/-- Exact service-node failure fields. -/
structure QosReservationFailure where
  errorCode : QosErrorCode
  failureNode : Ipv4Addr
  rsvpErrorCode : RsvpErrorCode
  rsvpErrorSubcode : UInt32
  rsvpErrorFlags : UInt32
  deriving DecidableEq

/-- The messages of the reservation protocol; `other` is any other control message. -/
inductive ControlMessage where
  | qosReservationNotify (flow : QosFlow) (direction : QosDirection)
  | qosErrorNotify (flow : QosFlow) (direction : QosDirection) (failure : QosReservationFailure)
  | qosListen (flow : QosFlow) (reservationStyle : QosReservationStyle) (maximumRetries : UInt32)
      (retryTimer : UInt32) (confirmationRequired : Bool) (preemptionPriority : UInt32)
      (defendingPriority : UInt32) (traffic : QosTrafficSpecification)
      (application : QosApplicationIdentifier)
  | qosPath (flow : QosFlow) (reservationStyle : QosReservationStyle) (maximumRetries : UInt32)
      (retryTimer : UInt32) (preemptionPriority : UInt32) (defendingPriority : UInt32)
      (traffic : QosTrafficSpecification) (application : QosApplicationIdentifier)
  | qosTeardown (flow : QosFlow) (direction : QosDirection)
  | qosModify (flow : QosFlow) (direction : QosDirection) (traffic : QosTrafficSpecification)
      (application : QosApplicationIdentifier)
  | updateDscp (flow : QosFlow) (dscp : UInt8)
  | other (messageId : UInt32) (payload : List UInt8)
  deriving DecidableEq

end Sccp
