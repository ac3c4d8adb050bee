/-
  Sccp.Controller.CodecMutation

  Native codec changes (`controller/codec_mutation.rs`, `records.rs`).

  A codec change is prepared, performed on the native channel and then committed or
  aborted; the token of the preparation stays reserved in the record of its PBX call
  meanwhile.  Whatever the controller does between the two is a step of its own.
-/

import Sccp.Controller.Routing

namespace Sccp

inductive PbxAudioFormat where
  | g711Ulaw
  | g711Alaw
  | g722
  | g723
  | g729
  | g726Aal2
  | gsm
  | slin16
  | ilbc
  | siren7
  | opus
  deriving DecidableEq

inductive CodecPreferenceRejection where
  | unavailable
  | notPreDial
  | ambiguous
  deriving DecidableEq

inductive CodecMutationMode where
  | preDial
  | held
  deriving DecidableEq

/-- The token of a prepared codec change. -/
structure CodecMutation where
  pbxId : PbxCallId
  callId : CallId
  generation : Nat
  previous : Codec
  selected : Codec
  mode : CodecMutationMode
  state : CallState
  sessionGeneration : SessionGeneration
  deriving DecidableEq

/-- A reserved change with the preferences it stores; `some none` clears them. -/
structure PendingCodecMutation where
  token : CodecMutation
  preferences : Option (Option (List PbxAudioFormat))

/-- The record of a call, as far as codec changes read it. -/
structure CodecRecord extends CallRuntimeRecord where
  audioPreferences : Option (List PbxAudioFormat) := none
  codecMutation : Option PendingCodecMutation := none
  codecGeneration : Nat := 0

def MediaStreamState.isClosed : MediaStreamState → Bool
  | closed => true
  | _ => false

/-! ## Codecs of calls -/

namespace Controller

variable (s : Controller)

def call (callId : CallId) : Option CallSnapshot :=
  match s.bySccp.get? callId with
  | none => none
  | some appearanceId => s.callSnapshot appearanceId

def sessionIsCurrent (device : DeviceId) (sessionGeneration : SessionGeneration) : Bool :=
  match s.devices.get? device with
  | none => false
  | some state => state.sessionGeneration = sessionGeneration

def validatePreDialCodec (pbxId : PbxCallId) :
    Except CodecPreferenceRejection (CallAppearanceId × Codec) :=
  match s.pbx.get? pbxId with
  | none => .error .unavailable
  | some call =>
    if call.direction ≠ .outbound ∨ ¬ (call.state = .collecting ∨ call.state = .calling) then
      .error .notPreDial
    else
      match call.appearanceIds with
      | [appearanceId] =>
        match s.appearances.get? appearanceId with
        | none => .error .unavailable
        | some appearance =>
          if !appearance.audio.isClosed || !appearance.audioTransmit.isClosed
              || !appearance.video.isIdle then
            .error .notPreDial
          else .ok (appearanceId, appearance.codec)
      | _ => .error .ambiguous

def setPreDialCodec (pbxId : PbxCallId) (codec : Codec) :
    Controller × Except CodecPreferenceRejection Codec :=
  match s.validatePreDialCodec pbxId with
  | .error rejection => (s, .error rejection)
  | .ok (appearanceId, previous) =>
    (s.modifyAppearance appearanceId fun appearance => { appearance with codec }, .ok previous)

def validateHeldCodec (pbxId : PbxCallId) (callId : CallId) : Option (CallAppearanceId × Codec) :=
  match s.pbx.get? pbxId with
  | none => none
  | some call =>
    if call.state ≠ .held then none
    else
      match s.bySccp.get? callId with
      | none => none
      | some appearanceId =>
        if call.activeAppearance ≠ some appearanceId then none
        else
          match s.appearances.get? appearanceId with
          | none => none
          | some appearance =>
            if appearance.pbxId ≠ pbxId || appearance.state ≠ .held
                || !appearance.audio.isClosed || !appearance.audioTransmit.isClosed then
              none
            else some (appearanceId, appearance.codec)

def setHeldCodec (pbxId : PbxCallId) (callId : CallId) (codec : Codec) :
    Controller × Option Codec :=
  match s.validateHeldCodec pbxId callId with
  | none => (s, none)
  | some (appearanceId, previous) =>
    (s.modifyAppearance appearanceId fun appearance => { appearance with codec }, some previous)

end Controller

/-! ## Preparation, commit and abort -/

/-- The controller with the records of its calls. -/
structure CodecController where
  controller : Controller
  callRuntime : Table PbxCallId CodecRecord := ∅

namespace CodecController

variable (s : CodecController)

variable (pbxId : PbxCallId)

/-- `call_runtime_mut`: the record of a live call is made on demand. -/
def callRuntimeMut : CodecController × Option CodecRecord :=
  match s.callRuntime.get? pbxId with
  | some record => (s, some record)
  | none =>
    if s.controller.pbx.contains pbxId then
      let record : CodecRecord := { controllerOwned := true }
      ({ s with callRuntime := s.callRuntime.insert pbxId record }, some record)
    else (s, none)

def modifyRecord (f : CodecRecord → CodecRecord) : CodecController :=
  { s with callRuntime := s.callRuntime.modify pbxId f }

def prepareCodecMutation (callId : CallId) (selected : Codec)
    (mode : CodecMutationMode) (preferences : Option (Option (List PbxAudioFormat))) :
    CodecController × Except CodecPreferenceRejection CodecMutation :=
  match s.controller.call callId with
  | none => (s, .error .unavailable)
  | some call =>
    match s.controller.devices.get? call.deviceId with
    | none => (s, .error .unavailable)
    | some device =>
      match s.callRuntimeMut pbxId with
      | (s, none) => (s, .error .unavailable)
      | (s, some record) =>
        if record.codecMutation.isSome then (s, .error .unavailable)
        else if 2 ^ 64 ≤ record.codecGeneration + 1 then (s, .error .unavailable)
        else
          let token : CodecMutation :=
            { pbxId, callId, generation := record.codecGeneration + 1
              previous := call.codec, selected, mode, state := call.state
              sessionGeneration := device.sessionGeneration }
          (s.modifyRecord pbxId fun record =>
              { record with
                codecGeneration := token.generation
                codecMutation := some { token, preferences } }, .ok token)

def preparePreDialCodec (selected : Codec) (preferences : Option (List PbxAudioFormat)) :
    CodecController × Except CodecPreferenceRejection CodecMutation :=
  match s.controller.validatePreDialCodec pbxId with
  | .error rejection => (s, .error rejection)
  | .ok (appearance, _) =>
    match s.controller.appearances.get? appearance with
    | none => (s, .error .unavailable)
    | some appearance =>
      s.prepareCodecMutation pbxId appearance.sccpId selected .preDial (some preferences)

def prepareHeldCodec (callId : CallId) (selected : Codec) :
    CodecController × Except CodecPreferenceRejection CodecMutation :=
  match s.controller.validateHeldCodec pbxId callId with
  | none => (s, .error .unavailable)
  | some _ => s.prepareCodecMutation pbxId callId selected .held none

/-- The reserved change of a PBX call. -/
def pendingMutation : Option PendingCodecMutation :=
  (s.callRuntime.get? pbxId).bind (·.codecMutation)

/-- The codec change itself, and whether it was possible. -/
def applyCodec (token : CodecMutation) : Controller × Bool :=
  match token.mode with
  | .preDial =>
    match s.controller.setPreDialCodec token.pbxId token.selected with
    | (controller, .ok _) => (controller, true)
    | (controller, .error _) => (controller, false)
  | .held =>
    match s.controller.setHeldCodec token.pbxId token.callId token.selected with
    | (controller, some _) => (controller, true)
    | (controller, none) => (controller, false)

def commitCodecMutation (token : CodecMutation) : CodecController × Bool :=
  match (s.pendingMutation token.pbxId).filter fun pending => pending.token = token with
  | none => (s, false)
  | some pending =>
    match s.controller.call token.callId with
    | none => (s, false)
    | some call =>
      if call.pbxId ≠ token.pbxId || call.codec ≠ token.previous || call.state ≠ token.state
          || !s.controller.sessionIsCurrent call.deviceId token.sessionGeneration then
        (s, false)
      else
        match s.applyCodec token with
        | (controller, false) => ({ s with controller }, false)
        | (controller, true) =>
          ({ s with controller }.modifyRecord token.pbxId fun record =>
              { record with
                audioPreferences := pending.preferences.getD record.audioPreferences
                codecMutation := none }, true)

def abortCodecMutation (token : CodecMutation) : CodecController :=
  if (s.pendingMutation token.pbxId).any fun pending => pending.token = token then
    s.modifyRecord token.pbxId fun record => { record with codecMutation := none }
  else s

def registerForwardedCall : CodecController :=
  if s.callRuntime.contains pbxId then s
  else { s with callRuntime := s.callRuntime.insert pbxId {} }

def retireCallRuntime : CodecController :=
  { s with callRuntime := s.callRuntime.erase pbxId }

def retireEndedCallRecords : CodecController :=
  { s with callRuntime := s.callRuntime.filter fun pbxId record =>
      !(record.controllerOwned && !s.controller.pbx.contains pbxId) }

end CodecController

/-- One step of the system.  `elsewhere` is any other operation on the calls, such as a
    hold, a resume, a hangup, a reconnect, a media report or another codec change: it
    leaves the records alone and the controller as it likes. -/
inductive CodecOperation where
  | elsewhere (controller : Controller)
  | preparePreDial (pbxId : PbxCallId) (selected : Codec)
      (preferences : Option (List PbxAudioFormat))
  | prepareHeld (pbxId : PbxCallId) (callId : CallId) (selected : Codec)
  | commit (token : CodecMutation)
  | abort (token : CodecMutation)
  | touch (pbxId : PbxCallId)
  | registerForwardedCall (pbxId : PbxCallId)
  | retireCall (pbxId : PbxCallId)
  | retireEnded

namespace CodecController

variable (s : CodecController)

def step : CodecOperation → CodecController
  | .elsewhere controller => { s with controller }
  | .preparePreDial pbxId selected preferences =>
    (s.preparePreDialCodec pbxId selected preferences).1
  | .prepareHeld pbxId callId selected => (s.prepareHeldCodec pbxId callId selected).1
  | .commit token => (s.commitCodecMutation token).1
  | .abort token => s.abortCodecMutation token
  | .touch pbxId => (s.callRuntimeMut pbxId).1
  | .registerForwardedCall pbxId => s.registerForwardedCall pbxId
  | .retireCall pbxId => s.retireCallRuntime pbxId
  | .retireEnded => s.retireEndedCallRecords

/-- The token an operation hands out. -/
def issued : CodecOperation → Option CodecMutation
  | .preparePreDial pbxId selected preferences =>
    (s.preparePreDialCodec pbxId selected preferences).2.toOption
  | .prepareHeld pbxId callId selected => (s.prepareHeldCodec pbxId callId selected).2.toOption
  | _ => none

end CodecController

end Sccp
