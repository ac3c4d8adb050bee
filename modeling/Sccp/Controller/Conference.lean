/-
  Sccp.Controller.Conference

  Ad-hoc conferences: consultation, selection, invites and their merges, and
  the endings of a conference (`domains/conference.rs`).
-/

import Sccp.Controller.Transfers
import Mathlib.Data.List.Sort

namespace Sccp

namespace Controller

variable (s : Controller)

/-! ## Identities and tokens -/

/-- The next conference id no session has. -/
def allocateConferenceId : Controller × ConferenceId :=
  let used := s.conferencesByConsultation.values.map (·.id.val)
  let (id, next) := allocate 32 used (used.length + 1) s.nextConferenceId
  ({ s with nextConferenceId := next }, ⟨id⟩)

/-- The next participant id no session has. -/
def allocateParticipantId : Controller × ParticipantId :=
  let used := s.conferencesByConsultation.values.flatMap fun session =>
    session.participants.participants.map (·.id.val)
  let (id, next) := allocate 32 used (used.length + 1) s.nextParticipantId
  ({ s with nextParticipantId := next }, ⟨id⟩)

/-- A participant for an appearance, under the identity the others may see. -/
def conferenceParticipant (appearance : CallAppearance) (moderator : Bool) :
    Controller × ConferenceParticipant :=
  let identity : ConferenceParticipantIdentity := match s.pbx.get? appearance.pbxId with
    | none => {}
    | some call => conferenceParticipantIdentity call appearance
  let (s, id) := s.allocateParticipantId
  (s, { id, pbxCallId := appearance.pbxId, handsetCallId := appearance.sccpId
        deviceId := appearance.deviceId, displayName := identity.displayName
        number := identity.number, moderator, muted := false, held := false })

/-- Participants for a list of appearances; the first one is the moderator. -/
def conferenceParticipants (s : Controller) (moderator : Bool) :
    List CallAppearance → Controller × List ConferenceParticipant
  | [] => (s, [])
  | appearance :: rest =>
    let (s, participant) := s.conferenceParticipant appearance moderator
    let (s, participants) := conferenceParticipants s false rest
    (s, participant :: participants)

/-- A token for an owner that has none, under the next generation. -/
def allocateConferenceMutation (owner : ConferenceMutationOwner) :
    Controller × Option ConferenceMutationToken :=
  if s.conferenceMutations.contains owner then (s, none)
  else
    let generation := s.nextConferenceMutationGeneration
    if generation + 1 ≥ 2 ^ 64 then (s, none)
    else
      ({ s with
        nextConferenceMutationGeneration := generation + 1
        conferenceMutations := s.conferenceMutations.insert owner generation },
        some { owner, generation })

/-- A token for the session that a handset call is in. -/
def claimConferenceMutation (callId : CallId) : Controller × Option ConferenceMutationToken :=
  match s.conferenceSession callId with
  | none => (s, none)
  | some session => s.allocateConferenceMutation (.session session.id)

/-- A token for a session known by its id. -/
def claimConferenceMutationById (conferenceId : ConferenceId) :
    Controller × Option ConferenceMutationToken :=
  match s.conferenceSessionById conferenceId with
  | none => (s, none)
  | some _ => s.allocateConferenceMutation (.session conferenceId)

/-- Give a token back; a stale one changes nothing. -/
def completeConferenceMutation (token : ConferenceMutationToken) : Controller × Bool :=
  if s.conferenceMutations.get? token.owner ≠ some token.generation then (s, false)
  else ({ s with conferenceMutations := s.conferenceMutations.erase token.owner }, true)

variable (session : ConferenceSession)

/-- Drop the token of a session that ends. -/
def dropSessionToken : Controller :=
  { s with conferenceMutations := s.conferenceMutations.erase (.session session.id) }

/-! ## Session edits -/

/-- Store a session under its key. -/
def putSession (key : CallId) (session : ConferenceSession) : Controller :=
  { s with conferencesByConsultation := s.conferencesByConsultation.insert key session }

/-- Drop the session under a key. -/
def dropSession (key : CallId) : Controller :=
  { s with conferencesByConsultation := s.conferencesByConsultation.erase key }

/-- Index PBX calls to a session. -/
def indexCalls (s : Controller) (key : CallId) : List ConferenceParticipant → Controller
  | [] => s
  | participant :: rest =>
    indexCalls { s with conferencesByPbx := s.conferencesByPbx.insert participant.pbxCallId key }
      key rest

/-- Drop PBX calls from the conference index. -/
def unindexCalls (s : Controller) : List ConferenceParticipant → Controller
  | [] => s
  | participant :: rest =>
    unindexCalls { s with conferencesByPbx := s.conferencesByPbx.erase participant.pbxCallId }
      rest

/-- Remove the PBX calls of a list of participants. -/
def removeCalls (s : Controller) : List ConferenceParticipant → Controller
  | [] => s
  | participant :: rest => removeCalls (s.removePbxCall participant.pbxCallId).1 rest

/-- Show the call of each participant as connected. -/
def connectParticipants (s : Controller) : List ConferenceParticipant → Controller
  | [] => s
  | participant :: rest =>
    let s := s.modifyCall participant.pbxCallId fun call => { call with state := .connected }
    let s := s.modifyAppearanceOf participant.handsetCallId fun a => { a with state := .connected }
    connectParticipants s rest

/-- A session and the key it is stored under. -/
def sessionEntryById (conferenceId : ConferenceId) : Option (CallId × ConferenceSession) :=
  s.conferencesByConsultation.find? fun _ session => session.id = conferenceId

/-! ## Effects of a session -/

/-- Start or stop music on hold for everyone but the moderators. -/
def conferenceMusicEffects (enabled : Bool) : List DriverEffect :=
  match session.mediaPolicy.musicOnHoldClass with
  | none => []
  | some musicClass =>
    (session.participants.participants.filter (!·.moderator)).map fun p =>
      .backend (.bridge (.setParticipantMusicOnHold session.bridgeId p.id p.pbxCallId musicClass
        enabled))

/-- Mute newcomers who do not moderate, where the policy asks for it. -/
def conferenceMuteOnEntryEffects (participants : List ConferenceParticipant) : List DriverEffect :=
  if !session.mediaPolicy.muteOnEntry then []
  else
    (participants.filter (!·.moderator)).map fun p =>
      .backend (.bridge (.setParticipantMuted session.bridgeId p.id p.pbxCallId true))

/-- Whether the media policy plays an announcement. -/
def announcementEnabled (policy : ConferenceMediaPolicy) : ConferenceAnnouncement → Bool
  | .participantMuted _ | .participantUnmuted _ => policy.playParticipantAnnouncements
  | _ => policy.playGeneralAnnouncements

/-- The participants an announcement is played to. -/
def announcementTargets :
    ConferenceAnnouncement → List ConferenceParticipant
  | .participantMuted id | .participantUnmuted id => (session.participants.get id).toList
  | .moderatorDeparted id => session.participants.participants.filter (·.id ≠ id)
  | _ => session.participants.participants

/-- An announcement to its targets, played by an active conference only. -/
def conferenceAnnouncementEffectsForSession
    (announcement : ConferenceAnnouncement) : List DriverEffect :=
  let targets := announcementTargets session announcement
  if session.phase ≠ .active ∨ !announcementEnabled session.mediaPolicy announcement
      ∨ targets.isEmpty then
    []
  else
    [.backend (.conferenceAnnouncement
      { conferenceId := session.id
        targets := targets.map fun p => { participantId := p.id, callId := p.pbxCallId }
        announcement })]

/-- An announcement in the conference with this id. -/
def conferenceAnnouncementEffects (conferenceId : ConferenceId)
    (announcement : ConferenceAnnouncement) : List DriverEffect :=
  match s.conferenceSessionById conferenceId with
  | none => []
  | some session => conferenceAnnouncementEffectsForSession session announcement

/-! ## Joining selected calls -/

/-- Whether an appearance can become a conference leg of its device. -/
def joinEligible (device : DeviceId) (appearance : CallAppearance) : Bool :=
  appearance.deviceId = device && (appearance.state = .connected || appearance.state = .held)
    && (s.pbx.get? appearance.pbxId).any (fun call =>
      (call.state = .connected || call.state = .held) && call.activeAppearance = some appearance.id)
    && !s.conferencesByPbx.contains appearance.pbxId

/-- The legs of a join, the initiating call first. -/
def chosenLegs (device : DeviceId) (state : RegisteredDevice) (initiating : CallId) :
    Except ConferenceRejection (List CallAppearance) :=
  let eligible := (s.appearances.values.filter (s.joinEligible device)).insertionSort
    fun a b => a.sccpId.val ≤ b.sccpId.val
  if !eligible.any (·.sccpId = initiating) then .error .notConnected
  else
    let selected := eligible.filter fun a => decide (a.sccpId ∈ state.selectedCalls)
    let chosen := if 2 ≤ selected.length then selected else eligible
    if chosen.length < 2 then .error .notConnected
    else if maxConferenceParticipants < chosen.length then .error .conflict
    else
      match chosen.find? (·.sccpId = initiating) with
      | none => .error .conflict
      | some moderator => .ok (moderator :: chosen.eraseP (·.sccpId = initiating))

/-- Make a conference of the selected calls of a device. -/
def joinCalls (device : DeviceId) (initiating : CallId) (permitted : Bool) :
    Controller × Except ConferenceRejection (List DriverEffect) :=
  if !permitted then (s, .error .disabled)
  else
    match s.devices.get? device with
    | none => (s, .error .unavailable)
    | some state =>
      match s.chosenLegs device state initiating with
      | .error rejection => (s, .error rejection)
      | .ok chosen =>
        match chosen with
        | original :: consultation :: _ =>
          let (s, participants) := s.conferenceParticipants true chosen
          match ConferenceParticipantRegistry.ofList participants with
          | .error _ => (s, .error .conflict)
          | .ok registry =>
            let (s, id) := s.allocateConferenceId
            let (s, bridgeId) := s.allocateBridgeId
            let session : ConferenceSession :=
              { id, bridgeId, deviceId := device
                originalHandsetCallId := original.sccpId
                originalCallId := original.pbxId
                consultationHandsetCallId := consultation.sccpId
                consultationCallId := consultation.pbxId
                phase := .merging, origin := .selection, participants := registry }
            let s := s.indexCalls consultation.sccpId registry.participants
            let s := s.putSession consultation.sccpId session
            let resumed := (chosen.filter (·.state = .held)).map fun a =>
              DriverEffect.backend (.resume a.pbxId)
            (s, .ok (.backend (.bridge (.create bridgeId)) :: resumed
              ++ [.backend (.bridge (.mergeCalls bridgeId
                (registry.participants.map (·.pbxCallId))))]))
        | _ => (s, .error .notConnected)

/-- Set the media policy of a conference that is not active yet. -/
def configureConferenceMedia (callId : CallId) (policy : ConferenceMediaPolicy) :
    Controller × Bool :=
  match s.conferenceSession callId with
  | none => (s, false)
  | some session =>
    match s.conferencesByConsultation.get? session.consultationHandsetCallId with
    | none => (s, false)
    | some stored =>
      if stored.phase = .active then (s, false)
      else
        (s.putSession session.consultationHandsetCallId
          { stored with mediaPolicy := policy }, true)

/-- Undo a join: its session goes, its calls stay. -/
def abortJoinConference (callId : CallId) (bridgeCreated : Bool)
    (resumedCallIds : List PbxCallId) : Controller × List DriverEffect :=
  match (s.conferenceSession callId).filter (·.origin = .selection) with
  | none => (s, [])
  | some found =>
    match s.conferencesByConsultation.get? found.consultationHandsetCallId with
    | none => (s, [])
    | some session =>
      let s := s.dropSession found.consultationHandsetCallId
      let s := s.dropSessionToken session
      let s := s.unindexCalls session.participants.participants
      (s, (if bridgeCreated then [.backend (.bridge (.destroy session.bridgeId))] else [])
        ++ resumedCallIds.map fun callId => .backend (.hold callId))

/-- A join with its media policy; undone if the policy cannot be set. -/
def joinCallsWithMedia (device : DeviceId) (initiating : CallId) (permitted : Bool)
    (policy : ConferenceMediaPolicy) :
    Controller × Except ConferenceRejection (List DriverEffect) :=
  match s.joinCalls device initiating permitted with
  | (s, .error rejection) => (s, .error rejection)
  | (s, .ok effects) =>
    match s.configureConferenceMedia initiating policy with
    | (s, false) => ((s.abortJoinConference initiating false []).1, .error .conflict)
    | (s, true) =>
      let muted := match s.conferenceSession initiating with
        | none => []
        | some session =>
          conferenceMuteOnEntryEffects session session.participants.participants
      (s, .ok (effects ++ muted))

/-! ## Consultation conferences -/

/-- What `begin_conference` checks; `none` if it may proceed. -/
def conferenceGuard (original : CallAppearance) (call : PbxCall) (binding : LineBinding) :
    Option ConferenceRejection :=
  if call.state ≠ .connected ∨ original.state ≠ .connected
      ∨ call.activeAppearance ≠ some original.id then
    some .notConnected
  else if binding.deviceId ≠ original.deviceId ∨ binding.lineInstance ≠ original.lineInstance
      ∨ binding.line.number ≠ call.line ∨ !s.devices.contains original.deviceId then
    some .unavailable
  else if original.pbxId ∈ s.redirectClaims ∨ s.conferencesByPbx.contains original.pbxId then
    some .conflict
  else none

/-- Store the session of a consultation that has just been created. -/
def recordConference (original consultation : CallAppearance)
    (originalCallId consultationCallId : CallId) : Controller × Bool :=
  let (s, moderator) := s.conferenceParticipant original true
  let (s, second) := s.conferenceParticipant consultation false
  match ConferenceParticipantRegistry.ofList [moderator, second] with
  | .error _ => (s, false)
  | .ok participants =>
    let (s, id) := s.allocateConferenceId
    let (s, bridgeId) := s.allocateBridgeId
    let session : ConferenceSession :=
      { id, bridgeId, deviceId := original.deviceId
        originalHandsetCallId := originalCallId, originalCallId := original.pbxId
        consultationHandsetCallId := consultationCallId
        consultationCallId := consultation.pbxId
        phase := .consultation, origin := .consultation, participants }
    let s := s.indexCalls consultationCallId [moderator, second]
    (s.putSession consultationCallId session, true)

/-- Hold a connected call and start a consultation beside it. -/
def beginConference (originalCallId consultationCallId : CallId) (binding : LineBinding)
    (codec : Codec) (now : Instant) (permitted : Bool) :
    Controller × Except ConferenceRejection (List DriverEffect) :=
  if !permitted then (s, .error .disabled)
  else if s.bySccp.contains consultationCallId then (s, .error .conflict)
  else
    match s.appearanceForCall originalCallId with
    | none => (s, .error .unavailable)
    | some original =>
      match s.pbx.get? original.pbxId with
      | none => (s, .error .unavailable)
      | some call =>
        match s.conferenceGuard original call binding with
        | some rejection => (s, .error rejection)
        | none =>
          let (s, held) := s.hold originalCallId
          if held.isEmpty then (s, .error .conflict)
          else
            let (s, created) := s.beginPhoneCall consultationCallId binding codec now
            match s.appearanceForCall consultationCallId with
            | none => ((s.resume originalCallId).1, .error .conflict)
            | some consultation =>
              let (s, _) := s.recordConference original consultation originalCallId
                consultationCallId
              (s, .ok (held ++ .handset (.beginCall binding.deviceId binding.lineInstance
                consultationCallId codec) :: created))

/-- Show the original call of a conference as connected again. -/
def reconnectOriginal (pbxId : PbxCallId) (original : Option CallAppearance)
    (restoreMedia : Bool) : Controller :=
  let s := s.modifyCall pbxId fun call => { call with state := .connected }
  match original with
  | none => s
  | some appearance => s.modifyAppearance appearance.id fun a =>
    { a with state := .connected, audio := if restoreMedia then .opening else appearance.audio }

/-- Undo a consultation and bring the original call back. -/
def abortConference (callId : CallId) (bridgeCreated consultationChannelCreated
    originalNeedsResume restoreOriginalMedia : Bool) : Controller × List DriverEffect :=
  match s.conferenceSession callId with
  | none => (s, [])
  | some found =>
    match s.conferencesByConsultation.get? found.consultationHandsetCallId with
    | none => (s, [])
    | some session =>
      if session.origin ≠ .consultation then (s, [])
      else
        let s := s.dropSession found.consultationHandsetCallId
        let s := s.dropSessionToken session
        let s := s.unindexCalls session.participants.participants
        let s := (s.removePbxCall session.consultationCallId).1
        let original := s.appearanceForCall session.originalHandsetCallId
        let s := s.reconnectOriginal session.originalCallId original restoreOriginalMedia
        let s := s.selectLine session.deviceId ((original.map (·.lineInstance)).getD 0)
        let s := s.setCallSelected session.deviceId session.originalHandsetCallId true
        let media : List DriverEffect := match original with
          | some a =>
            if restoreOriginalMedia then
              [.handset (.beginMedia a.deviceId a.sccpId a.codec)]
            else []
          | none => []
        (s, (if bridgeCreated then [.backend (.bridge (.destroy session.bridgeId))] else [])
          ++ (if consultationChannelCreated then
            [.backend (.hangup session.consultationCallId)] else [])
          ++ (if originalNeedsResume then [.backend (.resume session.originalCallId)] else [])
          ++ .handset (.setCallState session.deviceId session.consultationHandsetCallId .onHook
            true) :: media)

/-- A consultation with its media policy; undone if the policy cannot be set. -/
def beginConferenceWithMedia (request : ConferenceConsultationRequest)
    (policy : ConferenceMediaPolicy) :
    Controller × Except ConferenceRejection (List DriverEffect) :=
  match s.beginConference request.originalCallId request.consultationCallId request.binding
    request.codec request.now request.permitted with
  | (s, .error rejection) => (s, .error rejection)
  | (s, .ok effects) =>
    match s.configureConferenceMedia request.consultationCallId policy with
    | (s, false) =>
      ((s.abortConference request.consultationCallId false false false false).1, .error .conflict)
    | (s, true) => (s, .ok effects)

/-- Ask the backend to merge the consultation. -/
def confirmConference (callId : CallId) :
    Controller × Except ConferenceRejection (List DriverEffect) :=
  match s.conferenceSession callId with
  | none => (s, .error .unavailable)
  | some found =>
    if found.consultationHandsetCallId ≠ callId then (s, .error .conflict)
    else
      match s.conferencesByConsultation.get? callId with
      | none => (s, .error .unavailable)
      | some session =>
        if session.phase ≠ .consultation then (s, .error .conflict)
        else if (s.pbx.get? session.consultationCallId).all (·.state ≠ .connected)
            || (s.pbx.get? session.originalCallId).all (·.state ≠ .held) then
          (s, .error .notConnected)
        else
          (s.putSession callId { session with phase := .merging },
            .ok ([.backend (.bridge (.create session.bridgeId)),
              .backend (.bridge (.mergeConsultation session.bridgeId session.originalCallId
                session.consultationCallId)), .backend (.resume session.originalCallId)]
              ++ conferenceMuteOnEntryEffects session session.participants.participants))

/-- Mute every participant that is not a moderator. -/
def muteListeners (registry : ConferenceParticipantRegistry) : ConferenceParticipantRegistry :=
  ((registry.participants.filter (!·.moderator)).map (·.id)).foldl
    (fun registry id => registry.setMuted id true) registry

/-- The merge took effect: the conference is active. -/
def conferenceMerged (callId : CallId) : Controller × Bool :=
  match s.conferenceSession callId with
  | none => (s, false)
  | some found =>
    match s.conferencesByConsultation.get? found.consultationHandsetCallId with
    | none => (s, false)
    | some session =>
      if session.phase ≠ .merging then (s, false)
      else
        let participants :=
          if session.mediaPolicy.muteOnEntry then muteListeners session.participants
          else session.participants
        let s := s.putSession found.consultationHandsetCallId
          { session with phase := .active, participants }
        (s.connectParticipants participants.participants, true)

/-! ## Invites -/

/-- What `begin_conference_invite` checks of the moderator's leg. -/
def inviteModerator (moderatorCallId : CallId)
    (binding : LineBinding) : Except ConferenceRejection ConferenceParticipant :=
  if session.phase ≠ .active ∨ session.pendingInvite.isSome
      ∨ session.pendingParticipantMutation.isSome
      ∨ maxConferenceParticipants ≤ session.participants.participants.length then
    .error .conflict
  else
    match session.participants.participants.find? fun p =>
      p.moderator && p.handsetCallId = moderatorCallId with
    | none => .error .disabled
    | some moderator =>
      match s.appearanceForCall moderatorCallId with
      | none => .error .unavailable
      | some appearance =>
        if (s.pbx.get? moderator.pbxCallId).all (·.state ≠ .connected)
            ∨ appearance.state ≠ .connected ∨ binding.deviceId ≠ session.deviceId
            ∨ binding.lineInstance ≠ appearance.lineInstance then
          .error .notConnected
        else .ok moderator

/-- Hold the moderator's leg and call one more participant. -/
def beginConferenceInvite (moderatorCallId inviteCallId : CallId) (binding : LineBinding)
    (codec : Codec) (now : Instant) : Controller × Except ConferenceRejection (List DriverEffect) :=
  if s.bySccp.contains inviteCallId then (s, .error .conflict)
  else
    match s.conferenceSession moderatorCallId with
    | none => (s, .error .unavailable)
    | some session =>
      match s.inviteModerator session moderatorCallId binding with
      | .error rejection => (s, .error rejection)
      | .ok moderator =>
        let musicStarted := session.participants.activeModeratorCount = 1
        let (s, held) := s.hold moderatorCallId
        if held.isEmpty then (s, .error .conflict)
        else
          let music := if musicStarted then conferenceMusicEffects session true else []
          let (s, created) := s.beginPhoneCall inviteCallId binding codec now
          match s.appearanceForCall inviteCallId with
          | none => ((s.resume moderatorCallId).1, .error .conflict)
          | some invite =>
            let (s, participant) := s.conferenceParticipant invite false
            let key := session.consultationHandsetCallId
            match s.conferencesByConsultation.get? key with
            | none =>
              let s := (s.resume moderatorCallId).1
              ((s.removePbxCall invite.pbxId).1, .error .conflict)
            | some stored =>
              let s := s.putSession key { stored with
                pendingInvite := some
                  { moderatorId := moderator.id, moderatorCallId := moderator.pbxCallId
                    musicStarted, participant } }
              let s := s.indexCalls key [participant]
              (s, .ok (held ++ music ++ .handset (.beginCall binding.deviceId
                binding.lineInstance inviteCallId codec) :: created))

/-- The moderator an invite was started by, if it still is one. -/
def inviteOwner (invite : ConferenceInvite) : Option ConferenceParticipant :=
  (session.participants.get invite.moderatorId).filter fun moderator =>
    moderator.moderator && moderator.pbxCallId = invite.moderatorCallId

/-- What the backend is asked for to merge an invite. -/
def confirmConferenceInvite (inviteCallId : CallId) :
    Except ConferenceRejection (List DriverEffect) :=
  match s.conferenceSession inviteCallId with
  | none => .error .unavailable
  | some session =>
    match session.pendingInvite.filter (·.participant.handsetCallId = inviteCallId) with
    | none => .error .conflict
    | some invite =>
      match inviteOwner session invite with
      | none => .error .unavailable
      | some moderator =>
        if (s.pbx.get? invite.participant.pbxCallId).all (·.state ≠ .connected)
            || (s.pbx.get? moderator.pbxCallId).all (·.state ≠ .held) then
          .error .notConnected
        else
          .ok ((if invite.musicStarted then conferenceMusicEffects session false else [])
            ++ [.backend (.resume moderator.pbxCallId),
              .backend (.bridge (.mergeParticipant session.bridgeId invite.participant.pbxCallId))]
            ++ conferenceMuteOnEntryEffects session [invite.participant])

/-- The invite is merged: its participant is in. -/
def conferenceInviteMerged (inviteCallId : CallId) : Controller × Bool :=
  match s.conferenceSession inviteCallId with
  | none => (s, false)
  | some found =>
    match s.conferencesByConsultation.get? found.consultationHandsetCallId with
    | none => (s, false)
    | some session =>
      match session.pendingInvite with
      | none => (s, false)
      | some invite =>
        if invite.participant.handsetCallId ≠ inviteCallId then (s, false)
        else
          match session.participants.insert invite.participant with
          | .error _ => (s, false)
          | .ok participants =>
            let participants :=
              if session.mediaPolicy.muteOnEntry then
                participants.setMuted invite.participant.id true
              else participants
            let s := s.putSession found.consultationHandsetCallId
              { session with pendingInvite := none, participants }
            (s.connectParticipants participants.participants, true)

/-- Default codec of a moderator whose appearance is gone. -/
def Codec.pcmu : Codec := ⟨4⟩

/-- Show the leg of the moderator who started an invite as connected again. -/
def reconnectModerator (moderator : Option ConferenceParticipant) (restoreMedia : Bool) :
    Controller :=
  match moderator with
  | none => s
  | some moderator =>
    let s := s.modifyCall moderator.pbxCallId fun call => { call with state := .connected }
    s.modifyAppearanceOf moderator.handsetCallId fun a =>
      { a with state := .connected, audio := if restoreMedia then .opening else a.audio }

/-- Undo an invite and bring the moderator's leg back. -/
def abortConferenceInvite (inviteCallId : CallId) (inviteChannelCreated moderatorNeedsResume
    restoreModeratorMedia : Bool) : Controller × List DriverEffect :=
  match s.conferenceSession inviteCallId with
  | none => (s, [])
  | some found =>
    match s.conferencesByConsultation.get? found.consultationHandsetCallId with
    | none => (s, [])
    | some session =>
      match session.pendingInvite with
      | none => (s, [])
      | some invite =>
        if invite.participant.handsetCallId ≠ inviteCallId then (s, [])
        else
          let moderator := inviteOwner session invite
          let music :=
            if invite.musicStarted then conferenceMusicEffects session false else []
          let s := s.putSession found.consultationHandsetCallId
            { session with pendingInvite := none }
          let s := s.unindexCalls [invite.participant]
          let s := (s.removePbxCall invite.participant.pbxCallId).1
          let s := s.reconnectModerator moderator restoreModeratorMedia
          let codec := fun (moderator : ConferenceParticipant) =>
            ((s.appearanceForCall moderator.handsetCallId).map (·.codec)).getD Codec.pcmu
          let resume : List DriverEffect := match moderator with
            | some moderator =>
              if moderatorNeedsResume then [.backend (.resume moderator.pbxCallId)] else []
            | none => []
          let media : List DriverEffect := match moderator with
            | some moderator =>
              if restoreModeratorMedia then
                [.handset (.beginMedia moderator.deviceId moderator.handsetCallId
                  (codec moderator))]
              else []
            | none => []
          (s, music ++ (if inviteChannelCreated then
              [.backend (.hangup invite.participant.pbxCallId)] else [])
            ++ resume
            ++ .handset (.setCallState invite.participant.deviceId
              invite.participant.handsetCallId .onHook true) :: media)

/-! ## Endings -/

/-- The calls a session owns: its participants and the invite in progress. -/
def ownedParticipants : List ConferenceParticipant :=
  session.participants.participants ++ (session.pendingInvite.map (·.participant)).toList

/-- End a session with all its calls, one of them perhaps gone already. -/
def endConferenceInternal (bridgeCreated : Bool)
    (alreadyHungUp : Option PbxCallId) : Controller × List DriverEffect :=
  let participants := ownedParticipants session
  let s := s.dropSessionToken session
  let s := s.dropSession session.consultationHandsetCallId
  let s := s.unindexCalls participants
  let appearances := participants.filterMap fun p => s.appearanceForCall p.handsetCallId
  let s := s.removeCalls participants
  (s, (if bridgeCreated then [.backend (.bridge (.destroy session.bridgeId))] else [])
    ++ (participants.filter fun p => decide (alreadyHungUp ≠ some p.pbxCallId)).map (fun p =>
      DriverEffect.backend (.hangup p.pbxCallId))
    ++ appearances.map fun a => appearanceStateEffect a .onHook true)

/-- The announcement that a participant has left. -/
def departureAnnouncement (departing : ConferenceParticipant) : ConferenceAnnouncement :=
  if departing.moderator then .moderatorDeparted departing.id
  else .participantRemoved departing.id

/-- Hand the consultation role to another participant if its leg is gone. -/
def replaceConsultation (needed : Bool) : ConferenceSession :=
  if !needed then session
  else
    match session.participants.participants.find? (·.pbxCallId ≠ session.originalCallId) with
    | none => session
    | some replacement =>
      { session with
        consultationCallId := replacement.pbxCallId
        consultationHandsetCallId := replacement.handsetCallId }

/-- A session after one participant has left it: the original role passes to a
    moderator and the consultation role to another participant. -/
def afterDeparture (removed : PbxCallId) : ConferenceSession :=
  let session :=
    if session.originalCallId ≠ removed then session
    else
      match session.participants.moderator with
      | none => session
      | some moderator =>
        { session with
          originalCallId := moderator.pbxCallId
          originalHandsetCallId := moderator.handsetCallId
          deviceId := moderator.deviceId }
  replaceConsultation session
    (session.consultationCallId = removed || session.consultationCallId = session.originalCallId)

/-- Whether a departure leaves too little for the conference to go on. -/
def mustEnd (departing : ConferenceParticipant) : Bool :=
  session.participants.participants.length - 1 < 2
    || session.participants.moderatorCount - (if departing.moderator then 1 else 0) = 0
    || session.pendingInvite.isSome || session.pendingParticipantMutation.isSome

/-- A leg of an active conference is gone: the rest goes on or ends. -/
def activeConferenceDeparture (pbxId : PbxCallId)
    (alreadyHungUp : Option PbxCallId) (announce : Bool) : Controller × List DriverEffect :=
  match session.participants.participants.find? (·.pbxCallId = pbxId) with
  | none => s.endConferenceInternal session true alreadyHungUp
  | some departing =>
    if mustEnd session departing then
      let announcement :=
        if announce then
          conferenceAnnouncementEffectsForSession session (departureAnnouncement departing)
        else []
      let (s, effects) := s.endConferenceInternal session true alreadyHungUp
      (s, announcement ++ effects)
    else
      match s.conferencesByConsultation.get? session.consultationHandsetCallId with
      | none => (s, [])
      | some stored =>
        let s := s.dropSession session.consultationHandsetCallId
        let s := s.unindexCalls [departing]
        let appearance := s.appearanceForCall departing.handsetCallId
        let s := (s.removePbxCall departing.pbxCallId).1
        let next := afterDeparture
          { stored with participants := stored.participants.remove departing.id }
          departing.pbxCallId
        let s := s.indexCalls next.consultationHandsetCallId next.participants.participants
        let s := s.putSession next.consultationHandsetCallId next
        let announcement :=
          if announce then
            conferenceAnnouncementEffectsForSession next (departureAnnouncement departing)
          else []
        (s, (if alreadyHungUp.isNone then [.backend (.hangup departing.pbxCallId)] else [])
          ++ (appearance.map fun a => appearanceStateEffect a .onHook true).toList ++ announcement)

/-- Give up a consultation that has not been confirmed. -/
def cancelConference (callId : CallId) : Controller × List DriverEffect :=
  match s.conferenceSession callId with
  | none => (s, [])
  | some session =>
    if session.phase ≠ .consultation ∨ session.origin ≠ .consultation then (s, [])
    else s.abortConference callId false true true true

/-- End the active conference a handset call is in. -/
def endConference (callId : CallId) : Controller × List DriverEffect :=
  match s.conferenceSession callId with
  | none => (s, [])
  | some session =>
    if session.phase ≠ .active then (s, []) else s.endConferenceInternal session true none

/-- End an active conference at a moderator's request. -/
def endConferenceByModerator (requester : DeviceId) (conferenceId : ConferenceId) :
    Controller × Except ConferenceEndRejection (List DriverEffect) :=
  match s.conferenceSessionById conferenceId with
  | none => (s, .error .unavailable)
  | some session =>
    if session.phase ≠ .active then (s, .error .unavailable)
    else if session.deviceId ≠ requester ∨ !session.participants.participants.any (fun p =>
          p.moderator && p.deviceId = requester) then
      (s, .error .notModerator)
    else if session.pendingParticipantMutation.isSome ∨ session.pendingInvite.isSome then
      (s, .error .conflict)
    else
      let (s, effects) := s.endConferenceInternal session true none
      (s, .ok effects)

/-- End the sessions of a list in turn. -/
def drainSessions (s : Controller) : List ConferenceSession →
    Controller × List ConferenceCleanupPlan
  | [] => (s, [])
  | session :: rest =>
    let (s, effects) := s.endConferenceInternal session (session.phase ≠ .consultation) none
    let (s, plans) := drainSessions s rest
    (s, { conferenceId := session.id
          callIds := (ownedParticipants session).map (·.pbxCallId), effects } :: plans)

/-- End every conference. -/
def drainConferencesForShutdown : Controller × List ConferenceCleanupPlan :=
  s.drainSessions (s.conferencesByConsultation.values.insertionSort fun a b => a.id.val ≤ b.id.val)

end Controller

end Sccp
