/-
  Sccp.Gateway.SipStack

  The bridge beside the SIP stack.

  The stack numbers its calls with a small set of ids.  It may use an id again once it has emitted
  that the call which had it is disconnected, although the event is still in the queue.  Requests
  are answered at once, past the queue.
-/

import Sccp.Gateway.Coordinator

namespace Sccp.Gateway

open Sccp

/-- A SIP call of the stack, in the order in which the stack has made them. -/
structure SipDialog where
  id : SipCallId
  /-- It was made by the bridge, or the bridge has been told of it. -/
  announced : Bool
  /-- The stack has emitted its end. -/
  finished : Bool
  deriving DecidableEq

namespace SipEvent

/-- The SIP call that an event is about. -/
def call? : SipEvent → Option SipCallId
  | .incomingCall _ call _ _ => some call
  | .callState call _ => some call
  | .mediaState call _ _ => some call
  | .mediaReofferCompleted call _ => some call
  | .mediaAdvertisementRequired _ call => some call
  | .registration _ _ => none
  | .messageWaiting _ _ => none

def isIncoming : SipEvent → Bool
  | .incomingCall .. => true
  | _ => false

/-- The last event of a SIP call. -/
def isEnd : SipEvent → Bool
  | .callState _ .disconnected => true
  | _ => false

/-- How a SIP call that the bridge knows goes on. -/
def isProgress : SipEvent → Bool
  | .callState .. | .mediaState .. | .mediaReofferCompleted .. => true
  | _ => false

end SipEvent

/-- A SIP call after it has emitted an event. -/
def SipDialog.after (event : SipEvent) (dialog : SipDialog) : SipDialog :=
  { dialog with
    announced := dialog.announced || event.isIncoming
    finished := dialog.finished || event.isEnd }

/-- The SIP call that the stack makes on a request of the bridge. -/
def Effect.placedCall : Effect → Option SipCallId
  | .makeCall _ _ _ _ answer => answer
  | _ => none

/-- An event in the queue, with the SIP call that has emitted it. -/
structure Emitted where
  source : Option Nat
  event : SipEvent

/-- The bridge, the SIP calls of the stack and the queue between them.  `owner` remembers the SIP
    call that each handset call was attached to, `reservedBy` the one for which a relay was
    reserved. -/
structure Exchange where
  bridge : Coordinator
  dialogs : List SipDialog
  queue : List Emitted
  owner : Table CallId Nat
  reservedBy : Table SipCallId Nat

namespace Exchange

def start (config : AppConfig) (mediaPolicy : MediaPolicy) : Exchange where
  bridge := .new config mediaPolicy
  dialogs := []
  queue := []
  owner := ∅
  reservedBy := ∅

/-- What the stack makes of something that the bridge does. -/
def note (source : Option Nat) (x : Exchange) : Effect → Exchange
  | .makeCall callId _ _ _ (some sipCall) =>
    { x with
      dialogs := x.dialogs ++ [{ id := sipCall, announced := true, finished := false }]
      owner := x.owner.insert callId x.dialogs.length }
  | .offerIncomingCall _ _ _ _ (some callId) =>
    { x with owner := source.elim x.owner (x.owner.insert callId) }
  | _ => x

/-- What the bridge does while it handles an event. -/
def effects (x : Exchange) (w : World) (event : Coordinator.Event) : List Effect :=
  (x.bridge.handle w event).trace.drop x.bridge.trace.length

/-- The bridge handles an event. -/
def turn (x : Exchange) (w : World) (source : Option Nat) (event : Coordinator.Event) : Exchange :=
  (x.effects w event).foldl (note source) { x with bridge := x.bridge.handle w event }

/-- What happens to the bridge and to the stack. -/
inductive Input where
  /-- An event of a handset, or of the signaling server. -/
  | sccp (w : World) (event : SccpEvent)
  | deadlines (w : World)
  /-- A SIP call comes in. -/
  | invite (id : SipCallId)
  /-- A SIP call, counted from the first, emits an event. -/
  | emit (dialog : Nat) (event : SipEvent)
  /-- The stack emits an event that is about no call. -/
  | notice (event : SipEvent)
  /-- The bridge takes the next event from the queue. -/
  | deliver (w : World)

/-- The reservations that are made while the stack asks for an address to advertise. -/
def reserve (x : Exchange) : Emitted → Table SipCallId Nat
  | ⟨some k, .mediaAdvertisementRequired _ sipCall⟩ =>
    if x.bridge.pendingIncoming.contains sipCall then x.reservedBy
    else x.reservedBy.insert sipCall k
  | _ => x.reservedBy

def step (x : Exchange) : Input → Exchange
  | .sccp w event => x.turn w none (.sccp event)
  | .deadlines w => x.turn w none .deadlines
  | .invite id => { x with dialogs := x.dialogs ++ [{ id, announced := false, finished := false }] }
  | .emit k event =>
    { x with
      dialogs := x.dialogs.modify k (SipDialog.after event)
      queue := x.queue ++ [⟨some k, event⟩] }
  | .notice event => { x with queue := x.queue ++ [⟨none, event⟩] }
  | .deliver w =>
    match x.queue with
    | [] => x
    | emitted :: rest =>
      { x with queue := rest, reservedBy := x.reserve emitted }.turn w emitted.source
        (.sip emitted.event)

/-- The SIP calls that the stack makes on request while the bridge handles an event. -/
def placed (x : Exchange) (w : World) (event : Coordinator.Event) : List SipCallId :=
  (x.effects w event).filterMap Effect.placedCall

/-- The stack has emitted the end of every call with this id. -/
def Free (x : Exchange) (id : SipCallId) : Prop :=
  ∀ dialog ∈ x.dialogs, dialog.id = id → dialog.finished = true

instance (x : Exchange) (id : SipCallId) : Decidable (x.Free id) :=
  inferInstanceAs (Decidable (∀ dialog ∈ x.dialogs, _))

/-- A handset call that is offered gets an id that no live call has, and a SIP call that is made
    on request an id that is free. -/
structure Serves (x : Exchange) (w : World) (event : Coordinator.Event) : Prop where
  offers : ∀ b device lineInstance info callId,
    w.offerIncomingCall b device lineInstance info = some callId → b.calls.get? callId = none
  places : ∀ sipCall ∈ x.placed w event, x.Free sipCall

/-- What the stack may do: it reuses ids of calls that are over alone, and a call emits events
    about itself, until its end, and one at most that announces it. -/
def Legal (x : Exchange) : Input → Prop
  | .sccp w event => x.Serves w (.sccp event)
  | .deadlines w => x.Serves w .deadlines
  | .invite id => x.Free id
  | .emit k event => ∃ dialog, x.dialogs[k]? = some dialog ∧ dialog.finished = false
      ∧ event.call? = some dialog.id ∧ (event.isIncoming = true → dialog.announced = false)
  | .notice event => event.call? = none
  | .deliver w => ∀ emitted ∈ x.queue.head?, x.Serves w (.sip emitted.event)

end Exchange

end Sccp.Gateway
