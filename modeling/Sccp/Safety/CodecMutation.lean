/-
  Sccp.Safety.CodecMutation

  Reservations of codec changes, over every run of preparations, commits, aborts and
  whatever happens to the calls in between.

  The record of a call is edited in five ways only; each result below reads them off
  `change_step`.
-/

import Sccp.Controller.CodecMutation

namespace Sccp

namespace CodecController

variable {s : CodecController}
variable {token : CodecMutation} {operation : CodecOperation} {pbxId : PbxCallId}
  {s' : CodecController} {callId : CallId} {selected : Codec} {mode : CodecMutationMode}
  {preferences : Option (Option (List PbxAudioFormat))} {operations : List CodecOperation}

/-- The token that is reserved for a PBX call. -/
def reserved (s : CodecController) (pbxId : PbxCallId) : Option CodecMutation :=
  (s.pendingMutation pbxId).map (·.token)

/-- The token of a record. -/
def tokenOf (record : CodecRecord) : Option CodecMutation := record.codecMutation.map (·.token)

theorem reserved_eq (s : CodecController) (pbxId : PbxCallId) :
    s.reserved pbxId = (s.callRuntime.get? pbxId).bind tokenOf := by
  unfold reserved pendingMutation tokenOf
  cases s.callRuntime.get? pbxId with
  | none => rfl
  | some record => rfl

/-! ## What an operation does to a record -/

/-- The edits of the record of one call. -/
inductive Change (s : CodecController) (operation : CodecOperation) (pbxId : PbxCallId) :
    Option CodecRecord → Option CodecRecord → Prop where
  | same (record : Option CodecRecord) : Change s operation pbxId record record
  | opened {record : CodecRecord} (htoken : record.codecMutation = none) :
      Change s operation pbxId none (some record)
  | retired (record : Option CodecRecord) : Change s operation pbxId record none
  | reserved {record : Option CodecRecord} {record' : CodecRecord} {token : CodecMutation}
      (hissued : s.issued operation = some token) (hkey : token.pbxId = pbxId)
      (hfree : record.bind tokenOf = none) (htoken : tokenOf record' = some token)
      (hnewer : ∀ old, record = some old → old.codecGeneration < token.generation)
      (hgeneration : record'.codecGeneration = token.generation) :
      Change s operation pbxId record (some record')
  | released {record record' : CodecRecord} {token : CodecMutation}
      (hheld : tokenOf record = some token) (hkey : token.pbxId = pbxId)
      (hends : operation = .commit token ∨ operation = .abort token)
      (hfree : record'.codecMutation = none)
      (hgeneration : record'.codecGeneration = record.codecGeneration) :
      Change s operation pbxId (some record) (some record')

/-- `call_runtime_mut` leaves the record of every call or makes an empty one. -/
theorem change_callRuntimeMut (operation : CodecOperation) (pbxId pbxId' : PbxCallId) :
    Change s operation pbxId (s.callRuntime.get? pbxId)
      ((s.callRuntimeMut pbxId').1.callRuntime.get? pbxId) := by
  unfold callRuntimeMut
  cases hrecord : s.callRuntime.get? pbxId' with
  | some record => exact .same _
  | none =>
    dsimp only
    split
    · dsimp only
      rw [Table.get?_insert]
      split
      · next hkey =>
        rw [hkey, hrecord]
        exact .opened rfl
      · exact .same _
    · exact .same _

theorem callRuntimeMut_spec {pbxId : PbxCallId} {s' : CodecController} {record : CodecRecord}
    (h : s.callRuntimeMut pbxId = (s', some record)) :
    s'.callRuntime.get? pbxId = some record ∧ s'.controller = s.controller
      ∧ ((s' = s) ∨ (s.callRuntime.get? pbxId = none ∧ record.codecMutation = none
        ∧ s'.callRuntime = s.callRuntime.insert pbxId record)) := by
  unfold callRuntimeMut at h
  cases hrecord : s.callRuntime.get? pbxId with
  | some old =>
    rw [hrecord] at h
    cases h
    exact ⟨hrecord, rfl, .inl rfl⟩
  | none =>
    rw [hrecord] at h
    dsimp only at h
    split at h
    · cases h
      refine ⟨?_, rfl, .inr ⟨rfl, rfl, rfl⟩⟩
      rw [Table.get?_insert, if_pos rfl]
    · cases h

/-- What a successful preparation records, and what it leaves of the records. -/
structure Prepared (s s' : CodecController) (token : CodecMutation) : Prop where
  call : ∃ call device, s.controller.call token.callId = some call
    ∧ s.controller.devices.get? call.deviceId = some device
    ∧ call.codec = token.previous ∧ call.state = token.state
    ∧ device.sessionGeneration = token.sessionGeneration
  free : s.reserved token.pbxId = none
  record : ∃ record, tokenOf record = some token ∧ record.codecGeneration = token.generation
    ∧ (∀ old, s.callRuntime.get? token.pbxId = some old → old.codecGeneration < token.generation)
    ∧ ∀ pbxId, s'.callRuntime.get? pbxId
      = if pbxId = token.pbxId then some record else s.callRuntime.get? pbxId

theorem prepared_of_ok
    (h : s.prepareCodecMutation pbxId callId selected mode preferences = (s', .ok token)) :
    token.pbxId = pbxId ∧ Prepared s s' token := by
  unfold prepareCodecMutation at h
  split at h
  · cases h
  next call hcall =>
  split at h
  · cases h
  next device hdevice =>
  split at h
  · cases h
  next s₁ record hmut =>
  obtain ⟨hrecord, -, hcases⟩ := callRuntimeMut_spec hmut
  split at h
  · cases h
  next hnone =>
  split at h
  · cases h
  cases h
  have hfree : record.codecMutation = none := Option.not_isSome_iff_eq_none.mp hnone
  refine ⟨rfl, ⟨call, device, hcall, hdevice, rfl, rfl, rfl⟩, ?_, ?_⟩
  · rw [reserved_eq]
    rcases hcases with rfl | ⟨hempty, -, -⟩
    · dsimp only
      rw [hrecord, Option.bind_some, tokenOf, hfree, Option.map_none]
    · dsimp only
      rw [hempty, Option.bind_none]
  refine ⟨{ record with
      codecGeneration := record.codecGeneration + 1
      codecMutation := some ⟨_, preferences⟩ }, rfl, rfl, fun old hold => ?_, fun pbxId' => ?_⟩
  · rcases hcases with rfl | ⟨hempty, -, -⟩
    · dsimp only at hold ⊢
      rw [hrecord] at hold
      cases hold
      exact Nat.lt_succ_self _
    · dsimp only at hold
      rw [hempty] at hold
      cases hold
  unfold modifyRecord
  dsimp only
  rw [Table.get?_modify, hrecord]
  split
  · rfl
  next hne =>
  rcases hcases with rfl | ⟨-, -, hinsert⟩
  · rfl
  · rw [hinsert, Table.get?_insert, if_neg hne]

/-- A preparation that fails leaves the records, up to an empty one. -/
theorem change_of_error {pbxId' : PbxCallId} {rejection : CodecPreferenceRejection}
    (h : s.prepareCodecMutation pbxId' callId selected mode preferences = (s', .error rejection)) :
    Change s operation pbxId (s.callRuntime.get? pbxId) (s'.callRuntime.get? pbxId) := by
  have hmut := change_callRuntimeMut (s := s) operation pbxId pbxId'
  unfold prepareCodecMutation at h
  split at h
  · cases h
    exact .same _
  split at h
  · cases h
    exact .same _
  split at h
  · next heq =>
    rw [heq] at hmut
    cases h
    exact hmut
  next heq =>
  rw [heq] at hmut
  split at h
  · cases h
    exact hmut
  split at h
  · cases h
    exact hmut
  · cases h

/-- A token that is handed out was prepared. -/
theorem prepared_of_issued (h : s.issued operation = some token) :
    Prepared s (s.step operation) token := by
  -- the token is the result of `prepare_codec_mutation` for the call in question
  have hok {pbxId : PbxCallId} {callId : CallId} {selected : Codec} {mode : CodecMutationMode}
      {preferences : Option (Option (List PbxAudioFormat))}
      (h : (s.prepareCodecMutation pbxId callId selected mode preferences).2.toOption
        = some token) :
      Prepared s (s.prepareCodecMutation pbxId callId selected mode preferences).1 token := by
    obtain ⟨s', result, heq⟩ : ∃ s' result,
        s.prepareCodecMutation pbxId callId selected mode preferences = (s', result) :=
      ⟨_, _, rfl⟩
    rw [heq] at h ⊢
    cases result with
    | error rejection => cases h
    | ok token' =>
      cases h
      exact (prepared_of_ok heq).2
  cases operation with
  | preparePreDial pbxId selected preferences =>
    rw [issued] at h
    rw [step]
    unfold preparePreDialCodec at h ⊢
    split at h
    · cases h
    split at h
    · cases h
    · exact hok h
  | prepareHeld pbxId callId selected =>
    rw [issued] at h
    rw [step]
    unfold prepareHeldCodec at h ⊢
    split at h
    · cases h
    · exact hok h
  | _ => cases h

theorem change_of_prepared (h : s.issued operation = some token) (pbxId : PbxCallId) :
    Change s operation pbxId (s.callRuntime.get? pbxId)
      ((s.step operation).callRuntime.get? pbxId) := by
  obtain ⟨-, hfree, record, htoken, hgeneration, hnewer, hget⟩ := prepared_of_issued h
  rw [hget]
  split
  · next hkey =>
    rw [hkey]
    exact .reserved h rfl (by rw [← reserved_eq]; exact hfree) htoken hnewer hgeneration
  · exact .same _

theorem change_of_rejected {pbxId' : PbxCallId}
    (h : (s.prepareCodecMutation pbxId' callId selected mode preferences).2.toOption = none) :
    Change s operation pbxId (s.callRuntime.get? pbxId)
      ((s.prepareCodecMutation pbxId' callId selected mode preferences).1.callRuntime.get?
        pbxId) := by
  obtain ⟨s', result, heq⟩ : ∃ s' result,
      s.prepareCodecMutation pbxId' callId selected mode preferences = (s', result) := ⟨_, _, rfl⟩
  rw [heq] at h ⊢
  cases result with
  | error rejection => exact change_of_error heq
  | ok token => cases h

/-- A commit either fails and changes nothing, or ends the reservation of its token. -/
theorem commit_cases (s : CodecController) (token : CodecMutation) :
    (s.commitCodecMutation token = (s, false))
    ∨ ∃ pending call controller, s.pendingMutation token.pbxId = some pending
      ∧ pending.token = token ∧ s.controller.call token.callId = some call
      ∧ call.pbxId = token.pbxId ∧ call.codec = token.previous ∧ call.state = token.state
      ∧ s.controller.sessionIsCurrent call.deviceId token.sessionGeneration = true
      ∧ s.applyCodec token = (controller, true)
      ∧ s.commitCodecMutation token
        = ({ s with controller }.modifyRecord token.pbxId fun record =>
            { record with
              audioPreferences := pending.preferences.getD record.audioPreferences
              codecMutation := none }, true) := by
  -- a codec that cannot be set is not set
  have hfailed : (s.applyCodec token).2 = false → (s.applyCodec token).1 = s.controller := by
    unfold applyCodec Controller.setPreDialCodec Controller.setHeldCodec
    grind
  unfold commitCodecMutation
  split
  · exact .inl rfl
  next pending hfilter =>
  obtain ⟨hpending, htoken⟩ := Option.filter_eq_some_iff.mp hfilter
  split
  · exact .inl rfl
  next call hcall =>
  split
  · exact .inl rfl
  next hsame =>
  split
  · next controller heq =>
    rw [heq] at hfailed
    have hsame : controller = s.controller := hfailed rfl
    left
    rw [hsame]
  next controller heq =>
  simp only [ne_eq, decide_not, Bool.or_eq_true, Bool.not_eq_eq_eq_not, Bool.not_true,
    decide_eq_false_iff_not, not_or, not_not, Bool.not_eq_false] at hsame
  obtain ⟨⟨⟨hpbx, hcodec⟩, hstate⟩, hsession⟩ := hsame
  exact .inr ⟨pending, call, controller, hpending, of_decide_eq_true htoken, hcall, hpbx,
    hcodec, hstate, hsession, heq, rfl⟩

/-- The end of a reservation, seen from any call. -/
theorem change_of_released (hends : operation = .commit token ∨ operation = .abort token)
    {pending : PendingCodecMutation} (hpending : s.pendingMutation token.pbxId = some pending)
    (htoken : pending.token = token) (f : CodecRecord → CodecRecord)
    (hf : ∀ record, (f record).codecMutation = none
      ∧ (f record).codecGeneration = record.codecGeneration) (pbxId : PbxCallId) :
    Change s operation pbxId (s.callRuntime.get? pbxId)
      ((s.callRuntime.modify token.pbxId f).get? pbxId) := by
  obtain ⟨record, hrecord, hmutation⟩ := Option.bind_eq_some_iff.mp hpending
  rw [Table.get?_modify]
  split
  · next hkey =>
    rw [hkey, hrecord]
    refine .released ?_ rfl hends (hf record).1 (hf record).2
    rw [tokenOf, hmutation, Option.map_some, htoken]
  · exact .same _

/-- Every operation edits the record of a call in one of the five ways. -/
theorem change_step (s : CodecController) (operation : CodecOperation) (pbxId : PbxCallId) :
    Change s operation pbxId (s.callRuntime.get? pbxId)
      ((s.step operation).callRuntime.get? pbxId) := by
  cases hissued : s.issued operation with
  | some token => exact change_of_prepared hissued pbxId
  | none =>
    cases operation with
    | elsewhere controller => exact .same _
    | preparePreDial pbxId' selected preferences =>
      rw [issued] at hissued
      rw [step]
      unfold preparePreDialCodec at hissued ⊢
      split
      · exact .same _
      next heq =>
      rw [heq] at hissued
      split
      · exact .same _
      next heq' =>
      dsimp only at hissued
      rw [heq'] at hissued
      exact change_of_rejected hissued
    | prepareHeld pbxId' callId selected =>
      rw [issued] at hissued
      rw [step]
      unfold prepareHeldCodec at hissued ⊢
      split
      · exact .same _
      next heq =>
      rw [heq] at hissued
      exact change_of_rejected hissued
    | commit token =>
      rw [step]
      rcases s.commit_cases token with heq
        | ⟨pending, call, controller, hpending, htoken, -, -, -, -, -, -, heq⟩
      · rw [heq]
        exact .same _
      rw [heq]
      exact change_of_released (.inl rfl) hpending htoken (fun record =>
        { record with
          audioPreferences := pending.preferences.getD record.audioPreferences
          codecMutation := none }) (fun _ => ⟨rfl, rfl⟩) pbxId
    | abort token =>
      rw [step]
      unfold abortCodecMutation
      split
      · next hany =>
        obtain ⟨pending, hpending, htoken⟩ := (Option.any_eq_true _ _).mp hany
        exact change_of_released (.inr rfl) hpending (of_decide_eq_true htoken)
          (fun record => { record with codecMutation := none }) (fun _ => ⟨rfl, rfl⟩) pbxId
      · exact .same _
    | touch pbxId' => exact change_callRuntimeMut _ pbxId pbxId'
    | registerForwardedCall pbxId' =>
      rw [step]
      unfold registerForwardedCall
      split
      · exact .same _
      next hnew =>
      dsimp only
      rw [Table.get?_insert]
      split
      · next hkey =>
        rw [hkey, Table.not_contains_iff.mp (Bool.eq_false_of_not_eq_true hnew)]
        exact .opened rfl
      · exact .same _
    | retireCall pbxId' =>
      rw [step]
      unfold retireCallRuntime
      dsimp only
      rw [Table.get?_erase]
      split
      · exact .retired _
      · exact .same _
    | retireEnded =>
      rw [step]
      unfold retireEndedCallRecords
      dsimp only
      rw [Table.get?_filter]
      cases hget : s.callRuntime.get? pbxId with
      | none => exact .same _
      | some record =>
        rw [Option.filter_some]
        split
        · exact .same _
        · exact .retired _

/-! ## Reservations over runs -/

/-- The reservation of a call is for that call. -/
def Keyed (s : CodecController) : Prop :=
  ∀ pbxId token, s.reserved pbxId = some token → token.pbxId = pbxId

theorem keyed_step (h : Keyed s) (operation : CodecOperation) : Keyed (s.step operation) := by
  intro pbxId token htoken
  have hold := h pbxId
  have hchange := change_step s operation pbxId
  rw [reserved_eq] at htoken
  rw [reserved_eq] at hold
  generalize s.callRuntime.get? pbxId = record at hold hchange
  generalize (s.step operation).callRuntime.get? pbxId = record' at hchange htoken
  cases hchange with
  | same => exact hold token htoken
  | opened hnone =>
    rw [Option.bind_some, tokenOf, hnone] at htoken
    cases htoken
  | retired => cases htoken
  | reserved _ hkey _ htoken' _ _ =>
    rw [Option.bind_some, htoken'] at htoken
    cases htoken
    exact hkey
  | released _ _ _ hfree _ =>
    rw [Option.bind_some, tokenOf, hfree] at htoken
    cases htoken

/-- A reservation that is there after an operation and was not before is the token
    the operation handed out. -/
theorem issued_of_reserved (hbefore : s.reserved pbxId ≠ some token)
    (hafter : (s.step operation).reserved pbxId = some token) :
    s.issued operation = some token := by
  have hchange := change_step s operation pbxId
  rw [reserved_eq] at hbefore hafter
  generalize s.callRuntime.get? pbxId = record at hbefore hchange
  generalize (s.step operation).callRuntime.get? pbxId = record' at hchange hafter
  cases hchange with
  | same => exact absurd hafter hbefore
  | opened hnone =>
    rw [Option.bind_some, tokenOf, hnone] at hafter
    cases hafter
  | retired => cases hafter
  | reserved hissued _ _ htoken' _ _ =>
    rw [Option.bind_some, htoken'] at hafter
    cases hafter
    exact hissued
  | released _ _ _ hfree _ =>
    rw [Option.bind_some, tokenOf, hfree] at hafter
    cases hafter

/-- The record of a token's call counts up to the token at least. -/
def Past (token : CodecMutation) (s : CodecController) : Prop :=
  ∃ record, s.callRuntime.get? token.pbxId = some record ∧ token.generation ≤ record.codecGeneration

theorem past_step (h : Past token s)
    (hkept : (s.step operation).callRuntime.contains token.pbxId = true) :
    Past token (s.step operation) := by
  obtain ⟨record, hrecord, hle⟩ := h
  obtain ⟨record', hrecord'⟩ := Table.contains_iff.mp hkept
  refine ⟨record', hrecord', ?_⟩
  have hchange := change_step s operation token.pbxId
  rw [hrecord, hrecord'] at hchange
  cases hchange with
  | same => exact hle
  | reserved _ _ _ _ hnewer hgeneration =>
    have hlt := hnewer record rfl
    omega
  | released _ _ _ _ hgeneration => omega

/-- A reservation that has ended does not come back: the next token of the record has a
    higher generation. -/
theorem ended_step (h : Past token s) (hended : s.reserved token.pbxId ≠ some token)
    (operation : CodecOperation) : (s.step operation).reserved token.pbxId ≠ some token := by
  intro hagain
  obtain ⟨record, hrecord, hle⟩ := h
  obtain ⟨-, -, -, -, -, hnewer, -⟩ := prepared_of_issued (issued_of_reserved hended hagain)
  have hlt := hnewer record hrecord
  omega

theorem past_run (h : Past token s)
    (hkept : Runs.Always step (fun s => s.callRuntime.contains token.pbxId = true) s operations) :
    Past token (Runs.run step s operations) := by
  induction operations generalizing s with
  | nil => exact h
  | cons operation rest ih => exact ih (past_step h hkept.2.head) hkept.2

theorem ended_run (h : Past token s) (hended : s.reserved token.pbxId ≠ some token)
    (hkept : Runs.Always step (fun s => s.callRuntime.contains token.pbxId = true) s operations) :
    (Runs.run step s operations).reserved token.pbxId ≠ some token := by
  induction operations generalizing s with
  | nil => exact hended
  | cons operation rest ih =>
    exact ih (past_step h hkept.2.head) (ended_step h hended operation) hkept.2

/-- The call of a token has the codec, the state and the session it had when the change
    was prepared. -/
structure AsPrepared (before now : Controller) (token : CodecMutation) : Prop where
  recorded : ∃ call device, before.call token.callId = some call
    ∧ before.devices.get? call.deviceId = some device
    ∧ call.codec = token.previous ∧ call.state = token.state
    ∧ device.sessionGeneration = token.sessionGeneration
  current : ∃ call device, now.call token.callId = some call ∧ call.pbxId = token.pbxId
    ∧ now.devices.get? call.deviceId = some device
    ∧ call.codec = token.previous ∧ call.state = token.state
    ∧ device.sessionGeneration = token.sessionGeneration

/-- A commit that succeeds is of the reserved token, and finds its call as recorded. -/
theorem commit_reserved (h : (s.commitCodecMutation token).2 = true) :
    s.reserved token.pbxId = some token
      ∧ ∃ call device, s.controller.call token.callId = some call ∧ call.pbxId = token.pbxId
        ∧ s.controller.devices.get? call.deviceId = some device
        ∧ call.codec = token.previous ∧ call.state = token.state
        ∧ device.sessionGeneration = token.sessionGeneration := by
  rcases s.commit_cases token with heq
    | ⟨pending, call, controller, hpending, htoken, hcall, hpbx, hcodec, hstate, hsession, -, -⟩
  · rw [heq] at h
    cases h
  refine ⟨by rw [reserved, hpending, Option.map_some, htoken], call, ?_⟩
  unfold Controller.sessionIsCurrent at hsession
  split at hsession
  · cases hsession
  next device hdevice =>
  exact ⟨device, hcall, hpbx, hdevice, hcodec, hstate, of_decide_eq_true hsession⟩

/-- A reservation comes from a preparation of the run, and has been there since. -/
theorem reserved_origin {controller : Controller}
    (h : (Runs.run step { controller } operations).reserved pbxId = some token) :
    ∃ earlier operation later, operations = earlier ++ operation :: later
      ∧ (Runs.run step { controller } earlier).issued operation = some token
      ∧ Runs.Always step (fun s => s.reserved pbxId = some token)
        ((Runs.run step { controller } earlier).step operation) later := by
  have hnot : ¬ Runs.Always step (fun s => s.reserved pbxId = some token) { controller }
      operations := fun halways => by cases halways.head
  obtain ⟨earlier, operation, later, hsplit, hbefore, hafter⟩ := Runs.exists_origin h hnot
  exact ⟨earlier, operation, later, hsplit, issued_of_reserved hbefore hafter.head, hafter⟩

/-- Over every run: a PBX call has at most one reserved change, and a preparation succeeds
    only where there is none; a commit succeeds only for the reserved token, while its call
    has the codec, state and session generation recorded by the preparation the reservation
    has been kept from since; a commit that fails, and an abort of another token, change
    nothing; and a reservation that has ended does not come back as long as the record of
    its call is kept. -/
theorem mutation_reservations (controller : Controller) (operations : List CodecOperation) :
    (∀ pbxId pbxId' token token',
      (Runs.run step { controller } operations).reserved pbxId = some token →
      (Runs.run step { controller } operations).reserved pbxId' = some token' →
      token.pbxId = token'.pbxId → token = token')
    ∧ (∀ operation token,
      (Runs.run step { controller } operations).issued operation = some token →
      (Runs.run step { controller } operations).reserved token.pbxId = none
        ∧ ((Runs.run step { controller } operations).step operation).reserved token.pbxId
          = some token)
    ∧ (∀ token, ((Runs.run step { controller } operations).commitCodecMutation token).2 = true →
      (Runs.run step { controller } operations).reserved token.pbxId = some token
        ∧ ∃ earlier operation later, operations = earlier ++ operation :: later
          ∧ (Runs.run step { controller } earlier).issued operation = some token
          ∧ Runs.Always step (fun s => s.reserved token.pbxId = some token)
            ((Runs.run step { controller } earlier).step operation) later
          ∧ AsPrepared (Runs.run step { controller } earlier).controller
            (Runs.run step { controller } operations).controller token)
    ∧ (∀ token, ((Runs.run step { controller } operations).commitCodecMutation token).2 = false →
      ((Runs.run step { controller } operations).commitCodecMutation token).1
        = Runs.run step { controller } operations)
    ∧ (∀ token, (Runs.run step { controller } operations).reserved token.pbxId ≠ some token →
      (Runs.run step { controller } operations).abortCodecMutation token
        = Runs.run step { controller } operations)
    ∧ ∀ operation token later again,
      (Runs.run step { controller } operations).issued operation = some token →
      Runs.Always step (fun s => s.callRuntime.contains token.pbxId = true)
        ((Runs.run step { controller } operations).step operation) (later ++ again) →
      (Runs.run step { controller } (operations ++ operation :: later)).reserved token.pbxId
        ≠ some token →
      (Runs.run step { controller } (operations ++ operation :: (later ++ again))).reserved
        token.pbxId ≠ some token := by
  have hkeyed : Keyed (Runs.run step { controller } operations) :=
    Runs.run_induction (I := Keyed) (fun _ operation h => keyed_step h operation)
      (fun _ _ h => by cases h) operations
  refine ⟨fun pbxId pbxId' token token' htoken htoken' hsame => ?_,
    fun operation token hissued => ?_, fun token hcommit => ?_, fun token hfailed => ?_,
    fun token hother => ?_, fun operation token later again hissued hkept hended => ?_⟩
  · rw [← hkeyed pbxId token htoken, hsame, hkeyed pbxId' token' htoken', htoken'] at htoken
    exact (Option.some.inj htoken).symm
  · obtain ⟨-, hfree, record, htoken, -, -, hget⟩ := prepared_of_issued hissued
    refine ⟨hfree, ?_⟩
    rw [reserved_eq, hget, if_pos rfl, Option.bind_some, htoken]
  · obtain ⟨hreserved, hcurrent⟩ := commit_reserved hcommit
    obtain ⟨earlier, operation, later, hsplit, hissued, hsince⟩ := reserved_origin hreserved
    exact ⟨hreserved, earlier, operation, later, hsplit, hissued, hsince,
      (prepared_of_issued hissued).call, hcurrent⟩
  · rcases commit_cases (Runs.run step { controller } operations) token with heq
      | ⟨_, _, _, _, _, _, _, _, _, _, _, heq⟩
    · rw [heq]
    · rw [heq] at hfailed
      cases hfailed
  · unfold abortCodecMutation
    split
    · next hany =>
      obtain ⟨pending, hpending, htoken⟩ := (Option.any_eq_true _ _).mp hany
      refine absurd ?_ hother
      rw [reserved, hpending, Option.map_some, of_decide_eq_true htoken]
    · rfl
  obtain ⟨-, -, record, -, hgeneration, -, hget⟩ := prepared_of_issued hissued
  have hpast : Past token ((Runs.run step { controller } operations).step operation) :=
    ⟨record, (hget _).trans (if_pos rfl), Nat.le_of_eq hgeneration.symm⟩
  obtain ⟨hkeptLater, hkeptAgain⟩ := hkept.split
  rw [Runs.run_append] at hended ⊢
  have hrun := ended_run (past_run hpast hkeptLater) hended hkeptAgain
  rw [← Runs.run_append] at hrun
  exact hrun

end CodecController

end Sccp
