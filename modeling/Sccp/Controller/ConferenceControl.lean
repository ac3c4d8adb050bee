/-
  Sccp.Controller.ConferenceControl

  Two-step changes of one conference participant: a begin reserves the change in
  the session, and the backend's answer commits or aborts it
  (`domains/conference.rs`).
-/

import Sccp.Controller.Conference

namespace Sccp

namespace Controller

variable (s : Controller)

/-- Reserve a participant mutation in a session. -/
def reserveMutation (key : CallId) (session : ConferenceSession)
    (mutation : ConferenceParticipantMutation) : Controller :=
  s.putSession key { session with pendingParticipantMutation := some mutation }

variable (conferenceId : ConferenceId)

/-- Release the reserved mutation of a participant if it is of this kind. -/
def releaseMutation (participantId : ParticipantId)
    (kind : ConferenceParticipantMutationKind) : Controller × Bool :=
  match s.sessionEntryById conferenceId with
  | none => (s, false)
  | some (key, session) =>
    if session.pendingParticipantMutation.any fun pending =>
      pending.participantId = participantId ∧ pending.kind = kind then
      (s.putSession key { session with pendingParticipantMutation := none }, true)
    else (s, false)

/-! ## Moderator hold -/

/-- Ask for a moderator's leg to be held or resumed. -/
def beginConferenceModeratorLegTransition (callId : CallId) (held : Bool) :
    Controller × Except ConferenceParticipantRejection (List DriverEffect) :=
  match s.conferenceSession callId with
  | none => (s, .error .unavailable)
  | some session =>
    if session.phase ≠ .active then (s, .error .unavailable)
    else if session.pendingParticipantMutation.isSome ∨ session.pendingInvite.isSome then
      (s, .error .conflict)
    else
      match (session.participants.participants.find? (·.handsetCallId = callId)).filter
        (·.moderator) with
      | none => (s, .error .notModerator)
      | some participant =>
        if participant.held = held then (s, .error .conflict)
        else
          match s.appearanceForCall callId with
          | none => (s, .error .unavailable)
          | some appearance =>
            let expected : CallState := if held then .connected else .held
            if appearance.state ≠ expected
                ∨ (s.pbx.get? participant.pbxCallId).all (·.state ≠ .connected) then
              (s, .error .conflict)
            else
              let changeMusic :=
                session.participants.activeModeratorCount = (if held then 1 else 0)
              let music := if changeMusic then conferenceMusicEffects session held else []
              let effects : List DriverEffect :=
                (if held then [appearanceStateEffect appearance .hold true] else []) ++ music
                  ++ (if held then [] else
                    [.handset (.beginMedia participant.deviceId participant.handsetCallId
                      appearance.codec)])
              match s.sessionEntryById session.id with
              | none => (s, .error .unavailable)
              | some (key, stored) =>
                let s := s.reserveMutation key stored
                  { participantId := participant.id, callId := participant.pbxCallId
                    kind := .hold held }
                let s :=
                  if held then s
                  else s.modifyAppearance appearance.id fun a => { a with audio := .opening }
                (s, .ok effects)

/-- The appearance of a moderator leg after a confirmed hold or resume. -/
def moderatorLeg (held : Bool) (appearance : CallAppearance) : CallAppearance :=
  if held then
    { appearance with
      state := .held, audio := .closed, audioTransmit := .closed
      video := appearance.video.closeStreams }
  else { appearance with state := .connected, audio := .opening }

/-- The leg is held or resumed. -/
def conferenceModeratorLegTransitioned
    (participantId : ParticipantId) (held : Bool) : Controller × Bool :=
  match s.sessionEntryById conferenceId with
  | none => (s, false)
  | some (key, session) =>
    match session.pendingParticipantMutation, session.participants.get participantId with
    | some pending, some participant =>
      if pending.participantId ≠ participantId ∨ pending.callId ≠ participant.pbxCallId
          ∨ pending.kind ≠ .hold held ∨ participant.held = held then
        (s, false)
      else
        match s.bySccp.get? participant.handsetCallId with
        | none => (s, false)
        | some appearanceId =>
          match s.appearances.get? appearanceId with
          | none => (s, false)
          | some appearance =>
            let s := s.putSession key { session with
              participants := session.participants.setHeld participantId held
              pendingParticipantMutation := none }
            let s := s.modifyAppearance appearanceId (moderatorLeg held)
            let s := s.selectLine appearance.deviceId appearance.lineInstance
            (s.setCallSelected appearance.deviceId appearance.sccpId !held, true)
    | _, _ => (s, false)

/-- Undo what was done of a hold or resume. -/
def abortConferenceModeratorLegTransition
    (participantId : ParticipantId) (held : Bool) (completedMusic : List ParticipantId)
    (handsetAttempted : Bool) : Controller × List DriverEffect :=
  match s.sessionEntryById conferenceId with
  | none => (s, [])
  | some (key, session) =>
    if !session.pendingParticipantMutation.any (fun pending =>
      pending.participantId = participantId ∧ pending.kind = .hold held) then
      (s, [])
    else
      match session.participants.get participantId with
      | none => (s, [])
      | some participant =>
        let s := s.putSession key { session with pendingParticipantMutation := none }
        let s :=
          if !held then
            s.modifyAppearanceOf participant.handsetCallId fun a => { a with audio := .closed }
          else if handsetAttempted then
            s.modifyAppearanceOf participant.handsetCallId fun a => { a with audio := .opening }
          else s
        let music : List DriverEffect := match session.mediaPolicy.musicOnHoldClass with
          | none => []
          | some musicClass => completedMusic.filterMap fun completed =>
            (session.participants.get completed).map fun target =>
              .backend (.bridge (.setParticipantMusicOnHold session.bridgeId target.id
                target.pbxCallId musicClass !held))
        let codec :=
          ((s.appearanceForCall participant.handsetCallId).map (·.codec)).getD Codec.pcmu
        (s, (if !held ∧ handsetAttempted then
            [.handset (.setCallState participant.deviceId participant.handsetCallId .hold true)]
          else [])
          ++ music
          ++ (if held ∧ handsetAttempted then
            [.handset (.beginMedia participant.deviceId participant.handsetCallId codec)]
          else []))

/-! ## Mute -/

/-- Whether the requester's device moderates the session's first role. -/
def isFirstModerator (session : ConferenceSession) (requester : DeviceId) : Bool :=
  session.deviceId = requester
    && (session.participants.moderator).any (fun moderator => moderator.deviceId = requester)

/-- The checks that the begin operations on one participant share. -/
def participantGuard (session : ConferenceSession) (authorized : Bool)
    (participantId : ParticipantId) : Except ConferenceParticipantRejection ConferenceParticipant :=
  if session.phase ≠ .active then .error .unavailable
  else if !authorized then .error .notModerator
  else if session.pendingParticipantMutation.isSome ∨ session.pendingInvite.isSome then
    .error .conflict
  else
    match session.participants.get participantId with
    | none => .error .invalidParticipant
    | some participant => .ok participant

/-- Reserve a mute of one participant. -/
def beginConferenceParticipantMute (requester : DeviceId) (conferenceId : ConferenceId)
    (participantId : ParticipantId) (muted : Bool) :
    Controller × Except ConferenceParticipantRejection (List DriverEffect) :=
  match s.sessionEntryById conferenceId with
  | none => (s, .error .unavailable)
  | some (key, session) =>
    match participantGuard session (isFirstModerator session requester) participantId with
    | .error rejection => (s, .error rejection)
    | .ok participant =>
      if participant.moderator then (s, .error .moderator)
      else if participant.muted = muted then (s, .error .conflict)
      else
        (s.reserveMutation key session
          { participantId, callId := participant.pbxCallId, kind := .mute muted },
          .ok [.backend (.bridge (.setParticipantMuted session.bridgeId participantId
            participant.pbxCallId muted))])

/-- The reserved mute took effect. -/
def conferenceParticipantMuted (participantId : ParticipantId) (muted : Bool) : Controller × Bool :=
  match s.sessionEntryById conferenceId with
  | none => (s, false)
  | some (key, session) =>
    match session.pendingParticipantMutation, session.participants.get participantId with
    | some pending, some participant =>
      if pending.participantId ≠ participantId ∨ pending.kind ≠ .mute muted
          ∨ participant.pbxCallId ≠ pending.callId ∨ participant.moderator
          ∨ participant.muted = muted then
        (s, false)
      else
        (s.putSession key { session with
          participants := session.participants.setMuted participantId muted
          pendingParticipantMutation := none }, true)
    | _, _ => (s, false)

/-- The reserved mute is off. -/
def abortConferenceParticipantMute (participantId : ParticipantId)
    (muted : Bool) : Controller × Bool :=
  s.releaseMutation conferenceId participantId (.mute muted)

/-! ## Removal -/

/-- Reserve the removal of one participant. -/
def beginConferenceParticipantRemoval (requester : DeviceId) (conferenceId : ConferenceId)
    (participantId : ParticipantId) :
    Controller × Except ConferenceParticipantRejection (List DriverEffect) :=
  match s.sessionEntryById conferenceId with
  | none => (s, .error .unavailable)
  | some (key, session) =>
    match participantGuard session (isFirstModerator session requester) participantId with
    | .error rejection => (s, .error rejection)
    | .ok participant =>
      if participant.moderator then (s, .error .moderator)
      else if session.participants.participants.length ≤ 2 then (s, .error .conflict)
      else
        (s.reserveMutation key session
          { participantId, callId := participant.pbxCallId, kind := .remove },
          .ok [.backend (.bridge (.removeConferenceParticipant session.bridgeId participantId
            participant.pbxCallId))])

/-- The reserved removal took effect. -/
def conferenceParticipantRemoved (participantId : ParticipantId) :
    Controller × Option (List DriverEffect) :=
  match s.sessionEntryById conferenceId with
  | none => (s, none)
  | some (key, session) =>
    match session.pendingParticipantMutation, session.participants.get participantId with
    | some pending, some removed =>
      if pending.participantId ≠ participantId ∨ pending.kind ≠ .remove
          ∨ session.participants.participants.length ≤ 2 ∨ removed.moderator
          ∨ removed.pbxCallId ≠ pending.callId then
        (s, none)
      else
        let s := s.dropSession key
        let s := s.unindexCalls [removed]
        let next := replaceConsultation
          { session with
            participants := session.participants.remove participantId
            pendingParticipantMutation := none }
          (session.consultationCallId = removed.pbxCallId)
        let s := s.indexCalls next.consultationHandsetCallId next.participants.participants
        let appearance := s.appearanceForCall removed.handsetCallId
        let s := (s.removePbxCall removed.pbxCallId).1
        let s := s.putSession next.consultationHandsetCallId next
        (s, some (appearance.map fun a => appearanceStateEffect a .onHook true).toList)
    | _, _ => (s, none)

/-- The reserved removal is off. -/
def abortConferenceParticipantRemoval (participantId : ParticipantId) : Controller × Bool :=
  s.releaseMutation conferenceId participantId .remove

/-! ## Roles -/

/-- Music changes owed when a role change crosses the boundary between a
    listening moderator and none. -/
def roleChangeMusic (session : ConferenceSession) (participantId : ParticipantId)
    (moderator : Bool) : List DriverEffect :=
  if moderator ∧ session.participants.activeModeratorCount = 0 then
    conferenceMusicEffects session false
  else if !moderator ∧ session.participants.activeModeratorCount = 1 then
    match session.mediaPolicy.musicOnHoldClass with
    | none => []
    | some musicClass =>
      (session.participants.participants.filter fun p =>
        !p.moderator || p.id = participantId).map fun p =>
        .backend (.bridge (.setParticipantMusicOnHold session.bridgeId p.id p.pbxCallId
          musicClass true))
  else []

/-- Reserve a change of role. -/
def beginConferenceParticipantRoleChange (requester : DeviceId) (conferenceId : ConferenceId)
    (participantId : ParticipantId) (moderator : Bool) :
    Controller × Except ConferenceParticipantRejection (List DriverEffect) :=
  match s.sessionEntryById conferenceId with
  | none => (s, .error .unavailable)
  | some (key, session) =>
    let authorized := session.deviceId = requester
      && session.participants.participants.any fun p => p.moderator && p.deviceId = requester
    match participantGuard session authorized participantId with
    | .error rejection => (s, .error rejection)
    | .ok participant =>
      if participant.moderator = moderator then (s, .error .conflict)
      else if participant.held ∨ (moderator ∧ participant.muted) then (s, .error .conflict)
      else if !moderator ∧ session.participants.moderatorCount = 1 then
        (s, .error .lastModerator)
      else
        (s.reserveMutation key session
          { participantId, callId := participant.pbxCallId, kind := .moderator moderator },
          .ok (roleChangeMusic session participantId moderator))

/-- The reserved change of role took effect. -/
def conferenceParticipantRoleChanged
    (participantId : ParticipantId) (moderator : Bool) : Controller × Bool :=
  match s.sessionEntryById conferenceId with
  | none => (s, false)
  | some (key, session) =>
    match session.pendingParticipantMutation, session.participants.get participantId with
    | some pending, some participant =>
      if pending.participantId ≠ participantId ∨ pending.kind ≠ .moderator moderator
          ∨ participant.pbxCallId ≠ pending.callId ∨ participant.moderator = moderator
          ∨ participant.held ∨ (moderator ∧ participant.muted) then
        (s, false)
      else
        match session.participants.setModerator participantId moderator with
        | .error _ =>
          (s.putSession key { session with pendingParticipantMutation := none }, false)
        | .ok participants =>
          (s.putSession key { session with
            participants, pendingParticipantMutation := none }, true)
    | _, _ => (s, false)

/-- The reserved change of role is off. -/
def abortConferenceParticipantRoleChange
    (participantId : ParticipantId) (moderator : Bool) : Controller × Bool :=
  s.releaseMutation conferenceId participantId (.moderator moderator)

/-! ## Destination conferences -/

/-- Drop an entry for the PBX call that the entry before it names
    (`dedup_by_key`). -/
def dedupByCall (last : Option PbxCallId) : List (PbxCallId × CallId) → List (PbxCallId × CallId)
  | [] => []
  | entry :: rest =>
    if last = some entry.1 then dedupByCall last rest
    else entry :: dedupByCall (some entry.1) rest

/-- The ordinary connected calls of a device beside one appearance. -/
def ordinaryConnected (target : CallAppearance) : List (PbxCallId × CallId) :=
  let legs := (s.appearancesForDevice target.deviceId).filter fun a =>
    a.id ≠ target.id && a.state = .connected && !s.conferencesByPbx.contains a.pbxId
      && (s.pbx.get? a.pbxId).any (fun call => call.activeAppearance = some a.id)
  dedupByCall none ((legs.map fun a => (a.pbxId, a.sccpId)).insertionSort fun a b =>
    a.1.val < b.1.val ∨ (a.1.val = b.1.val ∧ a.2.val ≤ b.2.val))

/-- Hold a list of handset calls in turn. -/
def holdAll (s : Controller) : List CallId → Controller × List DriverEffect
  | [] => (s, [])
  | callId :: rest =>
    let (s, effects) := s.hold callId
    let (s, more) := holdAll s rest
    (s, effects ++ more)

def beginConferenceDestination (request : ConferenceDestinationRequest) :
    Controller × Except ConferenceDestinationRejection (List DriverEffect) :=
  if isBlank request.destination then (s, .error .unavailable)
  else
    match s.appearanceForCall request.handsetCallId with
    | none => (s, .error .unavailable)
    | some target =>
      if target.deviceId ≠ request.deviceId then (s, .error .unavailable)
      else
        match s.pbx.get? target.pbxId with
        | none => (s, .error .unavailable)
        | some call =>
          let connected := s.ordinaryConnected target
          if target.state ≠ .collecting ∨ call.state ≠ .collecting ∨ !call.digits.isEmpty
              ∨ call.activeAppearance ≠ some target.id
              ∨ s.conferencesByConsultation.any (fun _ session =>
                session.participants.participants.any fun p => p.deviceId = target.deviceId)
              ∨ connected.any (fun leg => decide (leg.1 ∈ s.redirectClaims)) then
            (s, .error .conflict)
          else
            match s.allocateConferenceMutation (.destination target.pbxId) with
            | (s, none) => (s, .error .conflict)
            | (s, some mutation) =>
              let (s, held) := s.holdAll (connected.map Prod.snd)
              match s.appearances.get? target.id with
              | none => (s, .error .unavailable)
              | some appearance =>
                let info := { appearance.info with
                  calledName := "Conference", calledNumber := request.destination }
                let s := s.modifyAppearance target.id fun a =>
                  { a with state := .calling, info }
                let s := s.modifyCall target.pbxId fun call =>
                  { call with
                    state := .calling, digitDeadline := none, lastDigitAt := none }
                (s, .ok (held ++
                  [.handset (.setCallInfo target.deviceId request.handsetCallId info),
                    .handset (.startTone target.deviceId request.handsetCallId Tone.silence),
                    .handset (.setCallState target.deviceId request.handsetCallId .proceed false),
                    .backend (.startConferenceDestination
                      { callId := target.pbxId, destination := request.destination
                        applicationOptions := request.applicationOptions
                        handsetCallId := request.handsetCallId
                        heldCalls := connected.map Prod.fst, mutation })]))

end Controller

end Sccp
