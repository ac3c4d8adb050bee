/-
  Sccp.Call.Voicemail

  Claims for redirecting one existing call to configured voicemail
  (`call/voicemail.rs`), at most one for each device and each call.
-/

import Sccp.Types
import Sccp.Lib.Table

namespace Sccp

structure VoicemailTransactionId where
  val : Nat
  deriving DecidableEq

inductive VoicemailAction where
  | immediateDivert
  | transferSelected
  deriving DecidableEq

inductive VoicemailPhase where
  | claimed
  | executing
  deriving DecidableEq

/-- A validated dialplan context and destination. -/
structure VoicemailTarget where
  context : String
  destination : String

structure VoicemailTransaction where
  id : VoicemailTransactionId
  deviceId : DeviceId
  handsetCallId : CallId
  pbxCallId : PbxCallId
  action : VoicemailAction
  phase : VoicemailPhase
  target : VoicemailTarget

structure VoicemailOperation where
  transactionId : VoicemailTransactionId
  deviceId : DeviceId
  handsetCallId : CallId
  pbxCallId : PbxCallId
  action : VoicemailAction
  target : VoicemailTarget

inductive VoicemailRejection where
  | invalidTarget
  | conflict
  | invalidPhase
  | identifierExhausted
  deriving DecidableEq

/-- The live claims.  A claim is stored under the device that made it, and no
    two claims are for the same PBX call. -/
structure VoicemailRegistry where
  nextId : Nat := 0
  byDevice : Table DeviceId VoicemailTransaction := ∅
  keyed : ∀ d t, byDevice.get? d = some t → t.deviceId = d := by simp
  distinct : ∀ d d' t t', byDevice.get? d = some t → byDevice.get? d' = some t' →
    t.pbxCallId = t'.pbxCallId → d = d' := by simp

namespace VoicemailRegistry

variable (r : VoicemailRegistry)

/-- The registry without the claim of one device. -/
def drop (deviceId : DeviceId) : VoicemailRegistry where
  nextId := r.nextId
  byDevice := r.byDevice.erase deviceId
  keyed := by
    intro d t h
    rw [Table.get?_erase] at h
    split at h
    · cases h
    · exact r.keyed d t h
  distinct := by
    intro d d' t t' h h'
    rw [Table.get?_erase] at h h'
    split at h
    · cases h
    · split at h'
      · cases h'
      · exact r.distinct d d' t t' h h'

/-- Replace the phase of a device's claim. -/
def setPhase (deviceId : DeviceId) (phase : VoicemailPhase) : VoicemailRegistry where
  nextId := r.nextId
  byDevice := r.byDevice.modify deviceId fun t => { t with phase }
  keyed := by
    intro d t h
    rw [Table.get?_modify] at h
    split at h
    · next hd =>
      obtain ⟨t', ht', rfl⟩ := Option.map_eq_some_iff.mp h
      exact (r.keyed deviceId t' ht').trans hd.symm
    · exact r.keyed d t h
  distinct := by
    have key : ∀ d t, (r.byDevice.modify deviceId fun t => { t with phase }).get? d = some t →
        ∃ t', r.byDevice.get? d = some t' ∧ t'.pbxCallId = t.pbxCallId := by
      intro d t h
      rw [Table.get?_modify] at h
      split at h
      · next hd =>
        obtain ⟨t', ht', rfl⟩ := Option.map_eq_some_iff.mp h
        exact ⟨t', hd ▸ ht', rfl⟩
      · exact ⟨t, h, rfl⟩
    intro d d' t t' h h' he
    obtain ⟨u, hu, hut⟩ := key d t h
    obtain ⟨u', hu', hut'⟩ := key d' t' h'
    exact r.distinct d d' u u' hu hu' (by rw [hut, hut', he])

def claim (deviceId : DeviceId) (handsetCallId : CallId)
    (pbxCallId : PbxCallId) (action : VoicemailAction) (target : VoicemailTarget) :
    Except VoicemailRejection (VoicemailRegistry × VoicemailTransaction) :=
  if h : r.byDevice.contains deviceId
      || r.byDevice.any (fun _ t => t.handsetCallId = handsetCallId || t.pbxCallId = pbxCallId) then
    .error .conflict
  else if r.nextId + 1 ≥ 2 ^ 64 then .error .identifierExhausted
  else
    let t : VoicemailTransaction :=
      { id := ⟨r.nextId + 1⟩, deviceId, handsetCallId, pbxCallId, action, phase := .claimed
        target }
    have free : ∀ d u, r.byDevice.get? d = some u → u.pbxCallId ≠ pbxCallId := by
      intro d u hu he
      simp only [Bool.or_eq_true, not_or] at h
      exact h.2 (Table.any_iff.mpr ⟨d, u, hu, by simp [he]⟩)
    .ok
      ({ nextId := r.nextId + 1
         byDevice := r.byDevice.insert deviceId t
         keyed := by
          intro d u hu
          rw [Table.get?_insert] at hu
          split at hu
          · next hd =>
            cases hu
            exact hd.symm
          · exact r.keyed d u hu
         distinct := by
          intro d d' u u' hu hu' he
          rw [Table.get?_insert] at hu hu'
          split at hu <;> split at hu'
          · next hd hd' => exact hd.trans hd'.symm
          · cases hu
            exact absurd he.symm (free d' u' hu')
          · cases hu'
            exact absurd he (free d u hu)
          · exact r.distinct d d' u u' hu hu' he },
        t)

def get (r : VoicemailRegistry) (deviceId : DeviceId) : Option VoicemailTransaction :=
  r.byDevice.get? deviceId

def forPbx (pbxCallId : PbxCallId) : Option VoicemailTransaction :=
  (r.byDevice.find? fun _ t => t.pbxCallId = pbxCallId).map Prod.snd

def beginExecution (deviceId : DeviceId) (transactionId : VoicemailTransactionId) :
    Except VoicemailRejection (VoicemailRegistry × VoicemailOperation) :=
  match (r.byDevice.get? deviceId).filter (·.id = transactionId) with
  | none => .error .conflict
  | some t =>
    if t.phase ≠ .claimed then .error .invalidPhase
    else
      .ok (r.setPhase deviceId .executing,
        { transactionId := t.id, deviceId := t.deviceId, handsetCallId := t.handsetCallId,
          pbxCallId := t.pbxCallId, action := t.action, target := t.target })

def commit (deviceId : DeviceId) (transactionId : VoicemailTransactionId) :
    Except VoicemailRejection (VoicemailRegistry × VoicemailTransaction) :=
  match r.byDevice.get? deviceId with
  | none => .error .conflict
  | some t =>
    if t.id ≠ transactionId ∨ t.phase ≠ .executing then .error .conflict
    else .ok (r.drop deviceId, t)

def cancel (deviceId : DeviceId) (transactionId : VoicemailTransactionId) :
    Except VoicemailRejection (VoicemailRegistry × VoicemailTransaction) :=
  match r.byDevice.get? deviceId with
  | none => .error .conflict
  | some t =>
    if t.id ≠ transactionId then .error .conflict
    else .ok (r.drop deviceId, t)

/-- Cancel the claim for a PBX call, if there is one (`cancel_for_pbx`). -/
def cancelForPbx (pbxCallId : PbxCallId) : VoicemailRegistry :=
  match r.forPbx pbxCallId with
  | none => r
  | some t =>
    match r.cancel t.deviceId t.id with
    | .error _ => r
    | .ok (r', _) => r'

theorem get?_drop (d d' : DeviceId) :
    (r.drop d).byDevice.get? d' = if d' = d then none else r.byDevice.get? d' :=
  Table.get?_erase ..

theorem forPbx_some {r : VoicemailRegistry} {p : PbxCallId} {t : VoicemailTransaction}
    (h : r.forPbx p = some t) : r.byDevice.get? t.deviceId = some t ∧ t.pbxCallId = p := by
  obtain ⟨⟨d, u⟩, hu, rfl⟩ := Option.map_eq_some_iff.mp h
  obtain ⟨hg, hp⟩ := Table.find?_some hu
  have hd : u.deviceId = d := r.keyed d u hg
  exact ⟨hd ▸ hg, by simpa using hp⟩

theorem forPbx_none {r : VoicemailRegistry} {p : PbxCallId} (h : r.forPbx p = none)
    {d : DeviceId} {t : VoicemailTransaction} (ht : r.byDevice.get? d = some t) :
    t.pbxCallId ≠ p := by
  have := Table.find?_none.mp (Option.map_eq_none_iff.mp h) d t ht
  simpa using this

/-- Cancelling by PBX call drops exactly the claim for that call. -/
theorem get?_cancelForPbx (p : PbxCallId) (d : DeviceId) :
    (r.cancelForPbx p).byDevice.get? d = (r.byDevice.get? d).filter (·.pbxCallId ≠ p) := by
  unfold cancelForPbx
  cases hf : r.forPbx p with
  | none =>
    cases hd : r.byDevice.get? d with
    | none => simp
    | some u => simp [Option.filter, forPbx_none hf hd]
  | some t =>
    obtain ⟨hg, hp⟩ := forPbx_some hf
    simp only [cancel, hg, ne_eq, not_true_eq_false, if_false, get?_drop]
    cases hd : r.byDevice.get? d with
    | none => simp
    | some u =>
      by_cases hp' : u.pbxCallId = p
      · have : d = t.deviceId := r.distinct d t.deviceId u t hd hg (hp'.trans hp.symm)
        simp [this, Option.filter, hp']
      have : d ≠ t.deviceId := by
        rintro rfl
        rw [hg] at hd
        cases hd
        exact hp' hp
      simp [this, Option.filter, hp']

end VoicemailRegistry

end Sccp
