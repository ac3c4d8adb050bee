/-
  Sccp.Call.TransferRuns

  Runs of the transfer registry.  A stored transaction keeps its device, its id
  and its legs until it is removed, and a completion that has begun is left only
  by its commit or by a failure that the backend or the device reports.
-/

import Sccp.Call.Transfer

namespace Sccp

/-! ## Stages of one transaction -/

/-- A later stage of one transfer: the same legs, and completion is final. -/
structure TransferTransaction.Continues (t t' : TransferTransaction) : Prop where
  id : t'.id = t.id
  deviceId : t'.deviceId = t.deviceId
  source : t'.source = t.source
  consultation : t'.consultation = t.consultation
  mode : t'.mode = t.mode
  completing : t.phase = .completing → t'.phase = .completing

namespace TransferTransaction

variable {t t' : TransferTransaction}

theorem Continues.contains (h : t.Continues t') (leg : TransferLeg) :
    t'.contains leg = t.contains leg := by
  simp only [TransferTransaction.contains, h.source, h.consultation]

theorem recordSetupMilestone_continues {milestone : TransferSetupMilestone}
    (h : t.recordSetupMilestone milestone = .ok t') : t.Continues t' := by
  unfold recordSetupMilestone at h
  split at h
  · cases h
  split at h
  · cases h
  · cases h
    exact ⟨rfl, rfl, rfl, rfl, rfl, fun h => h⟩

theorem deferAction_continues {action : DeferredTransferAction}
    (h : t.deferAction action = .ok t') : t.Continues t' := by
  unfold deferAction at h
  split at h
  · cases h
  · cases h
    exact ⟨rfl, rfl, rfl, rfl, rfl, fun h => h⟩

theorem noteHangup_continues {leg : TransferLeg} (h : t.noteHangup leg = .ok t') :
    t.Continues t' := by
  unfold noteHangup at h
  split at h
  · cases h
    exact ⟨rfl, rfl, rfl, rfl, rfl, fun h => h⟩
  split at h
  · cases h
    exact ⟨rfl, rfl, rfl, rfl, rfl, fun h => h⟩
  · cases h

theorem advanceConsultation_continues {leg : TransferLeg} {phase : TransferPhase}
    (h : t.advanceConsultation leg phase = .ok t') : t.Continues t' := by
  unfold advanceConsultation at h
  split at h
  · cases h
  split at h
  · cases h
  next hv =>
  cases h
  refine ⟨rfl, rfl, rfl, rfl, rfl, ?_⟩
  -- no phase follows `completing`
  intro hc
  simp [hc, validAdvance] at hv

theorem beginCompletion_continues {trigger : TransferTrigger} {leg : TransferLeg}
    {completion : TransferCompletion} (h : t.beginCompletion trigger leg = .ok (t', completion)) :
    t.Continues t' ∧ t'.phase = .completing ∧ t.consultation = some leg
      ∧ t.phase ≠ .completing := by
  unfold beginCompletion at h
  split at h
  · cases h
  next hphase =>
  split at h
  · cases h
  next consultation hc =>
  split at h
  · cases h
  next heq =>
  split at h
  · cases h
  split at h
  · cases h
  · cases h
    refine ⟨⟨rfl, rfl, rfl, rfl, rfl, fun _ => rfl⟩, rfl, ?_, hphase⟩
    rw [hc]
    exact congrArg some (by simpa using heq)

theorem attachConsultation_none {leg : TransferLeg} (h : t.attachConsultation leg = .ok t') :
    t.consultation = none := by
  unfold attachConsultation at h
  split at h
  · cases h
  · next hg =>
    simp only [not_or, Option.not_isSome_iff_eq_none] at hg
    exact hg.2.2

/-- What a cancellation requires of a transaction that is completing. -/
theorem cancellation_ok {reason : TransferCancellationReason} {leg : Option TransferLeg}
    {cancellation : TransferCancellation} (h : t.cancellation reason leg = .ok cancellation) :
    cancellation.transaction = t
      ∧ (t.phase = .completing → reason = .backendFailure ∨ reason = .deviceDisconnect) := by
  unfold TransferTransaction.cancellation at h
  split at h
  · cases h
  next hg =>
  split at h
  · cases h
  cases h
  refine ⟨rfl, fun hphase => ?_⟩
  by_contra hne
  rw [not_or] at hne
  exact hg ⟨hphase, hne⟩

end TransferTransaction

/-! ## One operation -/

namespace TransferRegistry

variable {r r' : TransferRegistry}
variable {d : DeviceId} {t : TransferTransaction}

theorem edit_ok {α : Type} {x : α}
    {f : TransferTransaction → Except TransferRejection (TransferTransaction × α)}
    (h : r.edit d f = .ok (r', x)) :
    ∃ t t', r.byDevice.get? d = some t ∧ f t = .ok (t', x) ∧ r' = r.put t' := by
  unfold edit at h
  split at h
  · cases h
  next t ht =>
  split at h
  · cases h
  · next t' a hf =>
    cases h
    exact ⟨t, t', ht, hf, rfl⟩

theorem editExact_ok {i : TransferId}
    {f : TransferTransaction → Except TransferRejection TransferTransaction}
    (h : r.editExact d i f = .ok r') :
    ∃ t t', r.byDevice.get? d = some t ∧ f t = .ok t' ∧ r' = r.put t' ∧ t.id = i := by
  unfold editExact at h
  split at h
  · cases h
  next t ht =>
  obtain ⟨hget, hid⟩ := Option.filter_eq_some_iff.mp ht
  split at h
  · cases h
  · next t' hf =>
    cases h
    exact ⟨t, t', hget, hf, rfl, by simpa using hid⟩

theorem insert_ok (h : r.insert t = .ok r') :
    r' = r.put t ∧ r.byDevice.get? t.deviceId = none ∧ t.consultation.isSome
      ∧ ∀ d u leg, r.byDevice.get? d = some u → t.contains leg → ¬ u.contains leg := by
  unfold insert at h
  split at h
  · cases h
  next consultation hcons =>
  split at h
  · cases h
  next hg =>
  simp only [Bool.or_eq_true, not_or, Bool.not_eq_true] at hg
  cases h
  refine ⟨rfl, Table.not_contains_iff.mp hg.1, by simp [hcons], ?_⟩
  intro d u leg hu hleg hin
  have hnone := Table.any_eq_false.mp hg.2 d u hu
  simp only [Bool.or_eq_false_iff] at hnone
  simp only [TransferTransaction.contains, hcons, Option.some.injEq, decide_eq_true_eq] at hleg
  rcases hleg with rfl | rfl
  · exact absurd hin (by simp [hnone.1])
  · exact absurd hin (by simp [hnone.2])

theorem commit_some {i : TransferId} (h : r.commit d i = some (r', t)) :
    r' = r.drop d ∧ r.byDevice.get? d = some t ∧ t.id = i := by
  unfold commit at h
  split at h
  · cases h
  next u hu =>
  split at h
  · cases h
  next hg =>
  cases h
  rw [not_or] at hg
  exact ⟨rfl, hu, by simpa using hg.1⟩

theorem cancel_ok {i : TransferId} {reason : TransferCancellationReason} {leg : Option TransferLeg}
    {cancellation : TransferCancellation} (h : r.cancel d i reason leg = .ok (r', cancellation)) :
    r' = r.drop d ∧ r.byDevice.get? d = some cancellation.transaction
      ∧ cancellation.transaction.id = i ∧ (cancellation.transaction.phase = .completing →
        reason = .backendFailure ∨ reason = .deviceDisconnect) := by
  unfold cancel at h
  split at h
  · cases h
  next t ht =>
  obtain ⟨hget, hid⟩ := Option.filter_eq_some_iff.mp ht
  split at h
  · cases h
  next hc =>
  cases h
  obtain ⟨rfl, hreason⟩ := TransferTransaction.cancellation_ok hc
  exact ⟨rfl, hget, by simpa using hid, hreason⟩

theorem forLeg_some {leg : TransferLeg} (h : r.forLeg leg = some t) :
    r.byDevice.get? t.deviceId = some t := by
  obtain ⟨⟨d, u⟩, hu, rfl⟩ := Option.map_eq_some_iff.mp h
  obtain ⟨hg, _⟩ := Table.find?_some hu
  have hd : u.deviceId = d := r.keyed d u hg
  exact hd ▸ hg

/-- Cancel the transaction a leg belongs to. -/
def cancelForLeg (r : TransferRegistry) (leg : TransferLeg) (reason : TransferCancellationReason) :
    Except TransferRejection (TransferRegistry × TransferCancellation) :=
  match r.byDevice.find? fun _ t => t.contains leg with
  | none => .error .conflict
  | some (deviceId, t) => r.cancel deviceId t.id reason (some leg)

end TransferRegistry

/-- A call of the registry, with any arguments.  The first two edits are those
    that the driver makes through `get_mut`. -/
inductive TransferOperation where
  | attachConsultation (deviceId : DeviceId) (leg : TransferLeg)
  | advanceConsultation (deviceId : DeviceId) (leg : TransferLeg) (phase : TransferPhase)
  | allocateId
  | insert (t : TransferTransaction)
  | beginCompletion (deviceId : DeviceId) (trigger : TransferTrigger) (leg : TransferLeg)
  | commit (deviceId : DeviceId) (id : TransferId)
  | cancel (deviceId : DeviceId) (id : TransferId) (reason : TransferCancellationReason)
      (leg : Option TransferLeg)
  | cancelForLeg (leg : TransferLeg) (reason : TransferCancellationReason)
  | noteHangup (leg : TransferLeg)
  | deferAction (deviceId : DeviceId) (id : TransferId) (action : DeferredTransferAction)
  | recordSetupMilestone (deviceId : DeviceId) (id : TransferId)
      (milestone : TransferSetupMilestone)

/-- The transaction id an operation carries. -/
def TransferOperation.carries : TransferOperation → Option TransferId
  | commit _ id | cancel _ id _ _ | deferAction _ id _ | recordSetupMilestone _ id _ => some id
  | _ => none

namespace TransferRegistry

/-- The registry after a call, and whether the call was accepted. -/
def settled (r : TransferRegistry) :
    Except TransferRejection TransferRegistry → TransferRegistry × Bool
  | .error _ => (r, false)
  | .ok r' => (r', true)

def step (r : TransferRegistry) : TransferOperation → TransferRegistry × Bool
  | .attachConsultation d leg =>
    r.settled ((r.edit d fun t => (t.attachConsultation leg).map (·, ())).map Prod.fst)
  | .advanceConsultation d leg phase =>
    r.settled ((r.edit d fun t => (t.advanceConsultation leg phase).map (·, ())).map Prod.fst)
  | .allocateId => (r.allocateId.1, true)
  | .insert t => r.settled (r.insert t)
  | .beginCompletion d trigger leg =>
    r.settled ((r.beginCompletion d trigger leg).map Prod.fst)
  | .commit d id =>
    match r.commit d id with
    | none => (r, false)
    | some (r', _) => (r', true)
  | .cancel d id reason leg => r.settled ((r.cancel d id reason leg).map Prod.fst)
  | .cancelForLeg leg reason => r.settled ((r.cancelForLeg leg reason).map Prod.fst)
  | .noteHangup leg => r.settled (r.noteHangup leg)
  | .deferAction d id action => r.settled (r.deferAction d id action)
  | .recordSetupMilestone d id milestone => r.settled (r.recordSetupMilestone d id milestone)

/-- The registry after a sequence of calls. -/
def run (r : TransferRegistry) (ops : List TransferOperation) : TransferRegistry :=
  ops.foldl (fun r op => (r.step op).1) r

/-! ## What a call can do -/

/-- Every stored transaction has both legs, and no leg is in two of them. -/
structure Sound (r : TransferRegistry) : Prop where
  complete : ∀ d t, r.get d = some t → t.consultation.isSome
  apart : ∀ d d' t t' leg, r.get d = some t → r.get d' = some t' → t.contains leg →
    t'.contains leg → d = d'

/-- The calls that end a completing transaction. -/
def Releases (op : TransferOperation) (d : DeviceId) (t : TransferTransaction) : Prop :=
  op = .commit d t.id ∨ ∃ reason, (reason = .backendFailure ∨ reason = .deviceDisconnect)
      ∧ ((∃ leg, op = .cancel d t.id reason leg)
        ∨ ∃ leg, t.contains leg ∧ op = .cancelForLeg leg reason)

/-- The outcomes of one call. -/
inductive Stepped (r : TransferRegistry) (op : TransferOperation) :
    TransferRegistry × Bool → Prop
  | rejected : Stepped r op (r, false)
  | allocated (isAllocate : op = .allocateId) : Stepped r op (r.allocateId.1, true)
  | inserted {t : TransferTransaction} (isInsert : op = .insert t)
      (free : r.get t.deviceId = none) (complete : t.consultation.isSome)
      (apart : ∀ d u leg, r.get d = some u → t.contains leg → ¬ u.contains leg) :
      Stepped r op (r.put t, true)
  | advanced {t t' : TransferTransaction} (stored : r.get t.deviceId = some t)
      (next : t.Continues t') (exact : ∀ i, op.carries = some i → t.id = i)
      (begun : ∀ d trigger leg, op = .beginCompletion d trigger leg →
        d = t.deviceId ∧ t.phase ≠ .completing ∧ t'.phase = .completing) :
      Stepped r op (r.put t', true)
  | removed {t : TransferTransaction} (stored : r.get t.deviceId = some t)
      (exact : ∀ i, op.carries = some i → t.id = i)
      (released : t.phase = .completing → Releases op t.deviceId t)
      (unbegun : ∀ d trigger leg, op ≠ .beginCompletion d trigger leg) :
      Stepped r op (r.drop t.deviceId, true)

variable {r : TransferRegistry}
variable {d : DeviceId} {t : TransferTransaction} {op : TransferOperation}

/-- A transaction is found under its own device. -/
theorem get_deviceId (h : r.byDevice.get? d = some t) : r.get t.deviceId = some t := by
  have hd : t.deviceId = d := r.keyed d t h
  exact hd ▸ h

/-- An edit of the transaction of a device that keeps its legs. -/
theorem stepped_edit {α : Type}
    {f : TransferTransaction → Except TransferRejection (TransferTransaction × α)}
    (hcarries : op.carries = none)
    (hf : ∀ t t' x, r.get d = some t → f t = .ok (t', x) → t.Continues t'
      ∧ ∀ d' trigger leg, op = .beginCompletion d' trigger leg →
        d' = d ∧ t.phase ≠ .completing ∧ t'.phase = .completing) :
    Stepped r op (r.settled ((r.edit d f).map Prod.fst)) := by
  cases h : r.edit d f with
  | error e => exact .rejected
  | ok result =>
    obtain ⟨r', x⟩ := result
    obtain ⟨t, t', ht, hft, rfl⟩ := edit_ok h
    obtain ⟨hnext, hbegun⟩ := hf t t' x ht hft
    have hd : t.deviceId = d := r.keyed d t ht
    refine .advanced (get_deviceId ht) hnext (fun i hi => ?_) (fun d' trigger leg hop => ?_)
    · rw [hcarries] at hi
      cases hi
    · rw [hd]
      exact hbegun d' trigger leg hop

/-- An edit of the transaction with one id. -/
theorem stepped_editExact {i : TransferId}
    {f : TransferTransaction → Except TransferRejection TransferTransaction}
    (hcarries : op.carries = some i) (hop : ∀ d trigger leg, op ≠ .beginCompletion d trigger leg)
    (hf : ∀ t t', f t = .ok t' → t.Continues t') :
    Stepped r op (r.settled (r.editExact d i f)) := by
  cases h : r.editExact d i f with
  | error e => exact .rejected
  | ok r' =>
    obtain ⟨t, t', ht, hft, rfl, hid⟩ := editExact_ok h
    refine .advanced (get_deviceId ht) (hf t t' hft) (fun j hj => ?_)
      (fun d' trigger leg heq => absurd heq (hop d' trigger leg))
    rw [hcarries] at hj
    cases hj
    exact hid

/-- A cancellation removes the transaction it names. -/
theorem stepped_cancel {i : TransferId} {reason : TransferCancellationReason}
    {leg : Option TransferLeg} (hcarries : ∀ j, op.carries = some j → j = i)
    (hop : ∀ d trigger leg, op ≠ .beginCompletion d trigger leg)
    (hrel : ∀ t, r.get d = some t → t.id = i →
      reason = .backendFailure ∨ reason = .deviceDisconnect → Releases op d t) :
    Stepped r op (r.settled ((r.cancel d i reason leg).map Prod.fst)) := by
  cases h : r.cancel d i reason leg with
  | error e => exact .rejected
  | ok result =>
    obtain ⟨r', cancellation⟩ := result
    obtain ⟨rfl, hget, hid, hreason⟩ := cancel_ok h
    have hd : cancellation.transaction.deviceId = d := r.keyed _ _ hget
    have key : Stepped r op (r.drop cancellation.transaction.deviceId, true) :=
      .removed (get_deviceId hget) (fun j hj => hid.trans (hcarries j hj).symm)
        (fun hphase => hd ▸ hrel _ hget hid (hreason hphase)) hop
    rw [hd] at key
    exact key

theorem stepped (h : r.Sound) (op : TransferOperation) : Stepped r op (r.step op) := by
  cases op with
  | attachConsultation d leg =>
    refine stepped_edit rfl fun t t' x ht hf => ?_
    -- a stored transaction has its consultation, so attaching one is refused
    cases hatt : t.attachConsultation leg with
    | error e =>
      rw [hatt] at hf
      cases hf
    | ok u =>
      have hnone := TransferTransaction.attachConsultation_none hatt
      have hsome := h.complete d t ht
      rw [hnone] at hsome
      cases hsome
  | advanceConsultation d leg phase =>
    refine stepped_edit rfl fun t t' x ht hf => ⟨?_, fun _ _ _ hop => by cases hop⟩
    cases hadv : t.advanceConsultation leg phase with
    | error e =>
      rw [hadv] at hf
      cases hf
    | ok u =>
      rw [hadv] at hf
      cases hf
      exact TransferTransaction.advanceConsultation_continues hadv
  | allocateId => exact .allocated rfl
  | insert t =>
    simp only [step]
    cases hins : r.insert t with
    | error e => exact .rejected
    | ok r' =>
      obtain ⟨rfl, hfree, hcons, hapart⟩ := insert_ok hins
      exact .inserted rfl hfree hcons hapart
  | beginCompletion d trigger leg =>
    refine stepped_edit rfl fun t t' x _ hf => ?_
    obtain ⟨hnext, hphase, _, hbefore⟩ := TransferTransaction.beginCompletion_continues hf
    refine ⟨hnext, fun d' trigger' leg' hop => ?_⟩
    cases hop
    exact ⟨rfl, hbefore, hphase⟩
  | commit d i =>
    simp only [step]
    split
    · exact .rejected
    next r' t hc =>
    obtain ⟨rfl, hget, hid⟩ := commit_some hc
    have hd : t.deviceId = d := r.keyed d t hget
    have key : Stepped r (.commit d i) (r.drop t.deviceId, true) :=
      .removed (get_deviceId hget) (fun j hj => by cases hj; exact hid)
        (fun _ => .inl (by rw [hd, hid])) (fun _ _ _ heq => by cases heq)
    rw [hd] at key
    exact key
  | cancel d i reason leg =>
    refine stepped_cancel (fun j hj => by cases hj; rfl) (fun _ _ _ heq => by cases heq) ?_
    rintro t _ rfl hreason
    exact .inr ⟨reason, hreason, .inl ⟨leg, rfl⟩⟩
  | cancelForLeg leg reason =>
    simp only [step, cancelForLeg]
    split
    · exact .rejected
    next d u hfind =>
    obtain ⟨hget, hleg⟩ := Table.find?_some hfind
    refine stepped_cancel (fun j hj => by cases hj) (fun _ _ _ heq => by cases heq) ?_
    intro t ht _ hreason
    have heq : t = u := Option.mem_unique ht hget
    exact .inr ⟨reason, hreason, .inr ⟨leg, heq ▸ hleg, rfl⟩⟩
  | noteHangup leg =>
    simp only [step, noteHangup]
    split
    · exact .rejected
    next d t hfind =>
    split
    · exact .rejected
    next t' hnote =>
    exact .advanced (get_deviceId (Table.find?_some hfind).1)
      (TransferTransaction.noteHangup_continues hnote) (fun i hi => by cases hi)
      (fun _ _ _ heq => by cases heq)
  | deferAction d i action =>
    exact stepped_editExact rfl (fun _ _ _ heq => by cases heq)
      fun _ _ => TransferTransaction.deferAction_continues
  | recordSetupMilestone d i milestone =>
    exact stepped_editExact rfl (fun _ _ _ heq => by cases heq)
      fun _ _ => TransferTransaction.recordSetupMilestone_continues

/-! ## Runs -/

theorem get_put (r : TransferRegistry) (t : TransferTransaction) (d : DeviceId) :
    (r.put t).get d = if d = t.deviceId then some t else r.get d := r.get?_put t d

theorem get_drop (r : TransferRegistry) (d d' : DeviceId) :
    (r.drop d).get d' = if d' = d then none else r.get d' := r.get?_drop d d'

theorem sound_step (h : r.Sound) (op : TransferOperation) : (r.step op).1.Sound := by
  have hstep := stepped h op
  generalize r.step op = result at hstep ⊢
  cases hstep with
  | rejected => exact h
  | allocated _ => exact ⟨h.complete, h.apart⟩
  | @inserted t _ hfree hcons hapart =>
    constructor
    · intro d u hu
      rw [get_put] at hu
      split at hu
      · cases hu
        exact hcons
      · exact h.complete d u hu
    intro d d' u u' leg hu hu' hleg hleg'
    rw [get_put] at hu hu'
    split at hu <;> split at hu'
    · next hd hd' => rw [hd, hd']
    · cases hu
      exact absurd hleg' (hapart d' u' leg hu' hleg)
    · cases hu'
      exact absurd hleg (hapart d u leg hu hleg')
    · exact h.apart d d' u u' leg hu hu' hleg hleg'
  | @advanced t t' hstored hnext _ _ =>
    -- each transaction has the legs of the one before it
    have hold : ∀ d u, (r.put t').get d = some u →
        ∃ v, r.get d = some v ∧ u.consultation = v.consultation
          ∧ ∀ leg, u.contains leg = v.contains leg := by
      intro d u hu
      rw [get_put, hnext.deviceId] at hu
      split at hu
      · next hd =>
        cases hu
        exact ⟨t, hd ▸ hstored, hnext.consultation, hnext.contains⟩
      · exact ⟨u, hu, rfl, fun _ => rfl⟩
    constructor
    · intro d u hu
      obtain ⟨v, hv, hcons, _⟩ := hold d u hu
      rw [hcons]
      exact h.complete d v hv
    intro d d' u u' leg hu hu' hleg hleg'
    obtain ⟨v, hv, _, hsame⟩ := hold d u hu
    obtain ⟨v', hv', _, hsame'⟩ := hold d' u' hu'
    exact h.apart d d' v v' leg hv hv' (hsame leg ▸ hleg) (hsame' leg ▸ hleg')
  | @removed t _ _ _ _ =>
    have hold : ∀ d u, (r.drop t.deviceId).get d = some u → r.get d = some u := by
      intro d u hu
      rw [get_drop] at hu
      split at hu
      · cases hu
      · exact hu
    exact ⟨fun d u hu => h.complete d u (hold d u hu),
      fun d d' u u' leg hu hu' => h.apart d d' u u' leg (hold d u hu) (hold d' u' hu')⟩

theorem sound_run (h : r.Sound) (ops : List TransferOperation) : (r.run ops).Sound := by
  induction ops generalizing r with
  | nil => exact h
  | cons op rest ih => exact ih (sound_step h op)

theorem sound_empty : Sound {} :=
  ⟨fun _ _ h => (by cases h), fun _ _ _ _ _ h => (by cases h)⟩

/-- A completing transaction stays one, or a release removes it. -/
theorem step_completing (h : r.Sound) (op : TransferOperation) (ht : r.get d = some t)
    (hphase : t.phase = .completing) :
    (∃ t', (r.step op).1.get d = some t' ∧ t'.id = t.id ∧ t'.phase = .completing)
      ∨ ((r.step op).1.get d = none ∧ Releases op d t) := by
  have hkeep : ∀ r' : TransferRegistry, r'.get d = r.get d →
      ∃ t', r'.get d = some t' ∧ t'.id = t.id ∧ t'.phase = .completing :=
    fun r' heq => ⟨t, heq.trans ht, rfl, hphase⟩
  have hstep := stepped h op
  generalize r.step op = result at hstep ⊢
  cases hstep with
  | rejected => exact .inl (hkeep _ rfl)
  | allocated _ => exact .inl (hkeep _ rfl)
  | @inserted u _ hfree _ _ =>
    refine .inl (hkeep _ ?_)
    rw [get_put, if_neg]
    rintro rfl
    rw [ht] at hfree
    cases hfree
  | @advanced u u' hstored hnext _ _ =>
    by_cases hd : d = u.deviceId
    · subst hd
      cases hstored.symm.trans ht
      refine .inl ⟨u', ?_, hnext.id, hnext.completing hphase⟩
      rw [get_put, hnext.deviceId, if_pos rfl]
    · refine .inl (hkeep _ ?_)
      rw [get_put, hnext.deviceId, if_neg hd]
  | @removed u hstored _ hreleased _ =>
    by_cases hd : d = u.deviceId
    · subst hd
      cases hstored.symm.trans ht
      refine .inr ⟨?_, hreleased hphase⟩
      rw [get_drop, if_pos rfl]
    · refine .inl (hkeep _ ?_)
      rw [get_drop, if_neg hd]

/-- A call that carries an id leaves the transactions with other ids alone. -/
theorem step_carries (h : r.Sound) (op : TransferOperation) {i : TransferId}
    (hcarries : op.carries = some i) (ht : r.get d = some t) (hid : t.id ≠ i) :
    (r.step op).1.get d = some t := by
  have hstep := stepped h op
  generalize r.step op = result at hstep ⊢
  cases hstep with
  | rejected => exact ht
  | allocated _ => exact ht
  | inserted hop _ _ _ =>
    rw [hop] at hcarries
    cases hcarries
  | @advanced u u' hstored hnext hexact _ =>
    show (r.put u').get d = some t
    rw [get_put, hnext.deviceId, if_neg]
    · exact ht
    · rintro rfl
      cases hstored.symm.trans ht
      exact hid (hexact i hcarries)
  | @removed u hstored hexact _ _ =>
    show (r.drop u.deviceId).get d = some t
    rw [get_drop, if_neg]
    · exact ht
    · rintro rfl
      cases hstored.symm.trans ht
      exact hid (hexact i hcarries)

/-- Whether a call is an accepted completion of a device's transfer. -/
def completes (r : TransferRegistry) (d : DeviceId) (op : TransferOperation) : Bool :=
  match op with
  | .beginCompletion d' _ _ => d' = d && (r.step op).2
  | _ => false

/-- The accepted completions of a device's transfer along a sequence of calls. -/
def completions (d : DeviceId) : TransferRegistry → List TransferOperation → Nat
  | _, [] => 0
  | r, op :: rest =>
    (if r.completes d op then 1 else 0) + completions d (r.step op).1 rest

/-- The device has a transaction after every call of the sequence. -/
def Keeps (d : DeviceId) : TransferRegistry → List TransferOperation → Prop
  | _, [] => True
  | r, op :: rest => (r.step op).1.get d ≠ none ∧ Keeps d (r.step op).1 rest

/-- An accepted completion finds the transaction not yet completing, and leaves
    it completing. -/
theorem completes_iff (h : r.Sound) (hc : r.completes d op = true) :
    ∃ t t', r.get d = some t ∧ t.phase ≠ .completing ∧ (r.step op).1.get d = some t'
      ∧ t'.phase = .completing := by
  unfold completes at hc
  split at hc
  · next d' trigger leg =>
    simp only [Bool.and_eq_true, decide_eq_true_eq] at hc
    obtain ⟨rfl, haccepted⟩ := hc
    have hstep := stepped h (.beginCompletion d' trigger leg)
    generalize r.step (.beginCompletion d' trigger leg) = result at hstep haccepted ⊢
    cases hstep with
    | rejected => cases haccepted
    | allocated hop => cases hop
    | inserted hop _ _ _ => cases hop
    | @advanced t t' hstored hnext _ hbegun =>
      obtain ⟨rfl, hbefore, hafter⟩ := hbegun d' trigger leg rfl
      refine ⟨t, t', hstored, hbefore, ?_, hafter⟩
      rw [get_put, hnext.deviceId, if_pos rfl]
    | removed _ _ _ hunbegun => exact absurd rfl (hunbegun d' trigger leg)
  · cases hc

theorem completions_completing (h : r.Sound) (ht : r.get d = some t)
    (hphase : t.phase = .completing) (ops : List TransferOperation) (hkeeps : Keeps d r ops) :
    completions d r ops = 0 := by
  induction ops generalizing r t with
  | nil => rfl
  | cons op rest ih =>
    have hnot : r.completes d op = false := by
      by_contra hc
      obtain ⟨u, _, hu, hbefore, _⟩ := completes_iff h (by simpa using hc)
      cases hu.symm.trans ht
      exact hbefore hphase
    rcases step_completing h op ht hphase with ⟨t', ht', _, hphase'⟩ | ⟨hnone, _⟩
    · have hrest := ih (sound_step h op) ht' hphase' hkeeps.2
      simp only [completions, hnot, hrest]
      rfl
    · exact absurd hnone hkeeps.1

/-- While a device keeps its transaction, at most one completion is accepted. -/
theorem completions_le_one (h : r.Sound) (ops : List TransferOperation) (hkeeps : Keeps d r ops) :
    completions d r ops ≤ 1 := by
  induction ops generalizing r with
  | nil => exact Nat.zero_le _
  | cons op rest ih =>
    have hsound := sound_step h op
    simp only [completions]
    by_cases hc : r.completes d op = true
    · obtain ⟨_, t', _, _, ht', hphase'⟩ := completes_iff h hc
      have hrest := completions_completing hsound ht' hphase' rest hkeeps.2
      rw [if_pos hc]
      omega
    · have hrest := ih hsound hkeeps.2
      rw [if_neg hc]
      omega

theorem step_rejected (r : TransferRegistry) (op : TransferOperation)
    (h : (r.step op).2 = false) : (r.step op).1 = r := by
  have hsettled : ∀ x, (r.settled x).2 = false → (r.settled x).1 = r := by
    intro x hx
    cases x with
    | error e => rfl
    | ok r' => cases hx
  cases op with
  | allocateId => cases h
  | commit d i =>
    simp only [step] at h ⊢
    split
    · rfl
    · next hc =>
      rw [hc] at h
      cases h
  | _ => exact hsettled _ h

theorem allocateId_fresh (r : TransferRegistry) (h : r.get d = some t) : t.id ≠ r.allocateId.2 := by
  intro heq
  have hused : r.allocateId.2.val ∈ r.byDevice.values.map (·.id.val) :=
    List.mem_map.mpr ⟨t, Table.mem_values.mpr ⟨d, h⟩, congrArg TransferId.val heq⟩
  exact allocate_notMem 64 (r.byDevice.values.map (·.id.val))
    ((r.byDevice.values.map (·.id.val)).length + 1) r.nextId hused

/-- A transaction of a device that a run removes and replaces. -/
structure Replaced (ops : List TransferOperation) (d : DeviceId) (t t' : TransferTransaction) :
    Prop where
  removed : ∃ earlier op later, ops = earlier ++ op :: later
    ∧ (run {} earlier).get d = some t ∧ (run {} (earlier ++ [op])).get d = none
  stored : (run {} ops).get d = some t'

/-- Over every run of the registry: one transaction for each device, no leg in
    two of them, a completion that is left only by its release and begun once,
    rejections without effect, and late calls that do not touch a transaction
    with another id than theirs. -/
theorem transfer_registry_runs (ops : List TransferOperation) : let r := run {} ops
    (∀ t ∈ r.transactions, ∀ u ∈ r.transactions, t.deviceId = u.deviceId → t = u)
      ∧ (∀ t ∈ r.transactions, ∀ u ∈ r.transactions, ∀ leg, t.contains leg → u.contains leg → t = u)
      ∧ (∀ op d t, r.get d = some t → t.phase = .completing →
        (∃ t', (r.step op).1.get d = some t' ∧ t'.id = t.id ∧ t'.phase = .completing)
          ∨ ((r.step op).1.get d = none ∧ Releases op d t))
      ∧ (∀ d later, Keeps d r later → completions d r later ≤ 1)
      ∧ (∀ op, (r.step op).2 = false → (r.step op).1 = r)
      ∧ (∀ op d t t', Replaced ops d t t' → op.carries = some t.id → t'.id ≠ t.id →
        (r.step op).1.get d = some t') ∧ ∀ d t, r.get d = some t → t.id ≠ r.allocateId.2 := by
  intro r
  have h : r.Sound := sound_run sound_empty ops
  have hmem : ∀ t ∈ r.transactions, r.get t.deviceId = some t := by
    intro t ht
    obtain ⟨d, hd⟩ := Table.mem_values.mp ht
    exact get_deviceId hd
  refine ⟨?_, ?_, ?_, ?_, ?_, ?_, ?_⟩
  · intro t ht u hu heq
    have hsame := hmem t ht
    rw [heq, hmem u hu] at hsame
    exact (Option.some.inj hsame).symm
  · intro t ht u hu leg hleg hleg'
    have hd := h.apart _ _ t u leg (hmem t ht) (hmem u hu) hleg hleg'
    have hsame := hmem t ht
    rw [hd, hmem u hu] at hsame
    exact (Option.some.inj hsame).symm
  · intro op d t ht hphase
    exact step_completing h op ht hphase
  · intro d later hkeeps
    exact completions_le_one h later hkeeps
  · intro op hrejected
    exact step_rejected r op hrejected
  · intro op d t t' hreplaced hcarries hid
    exact step_carries h op hcarries hreplaced.stored hid
  · intro d t ht
    exact allocateId_fresh r ht

/-- A consultation transfer of one device. -/
def sampleTransfer (source consultation : Nat) : TransferTransaction :=
  { id := ⟨1⟩, deviceId := ⟨"SEP001122334455"⟩, source := ⟨⟨source⟩, ⟨source⟩⟩
    sourceState := .connected, consultation := some ⟨⟨consultation⟩, ⟨consultation⟩⟩
    mode := .consultation, phase := .collecting, completeOnHangup := false }

/-- An id that is used again reaches the transaction that replaced its first
    owner: the registry does not look at the ids it is given. -/
theorem reused_id_reaches_replacement :
    ¬ ∀ ops op d t t', Replaced ops d t t' → op.carries = some t.id →
      ((run {} ops).step op).1.get d = some t' := by
  intro h
  have hreplaced : Replaced [.insert (sampleTransfer 1 2),
      .cancel ⟨"SEP001122334455"⟩ ⟨1⟩ .endCall none, .insert (sampleTransfer 3 4)]
      ⟨"SEP001122334455"⟩ (sampleTransfer 1 2) (sampleTransfer 3 4) :=
    ⟨⟨[.insert (sampleTransfer 1 2)], .cancel ⟨"SEP001122334455"⟩ ⟨1⟩ .endCall none,
      [.insert (sampleTransfer 3 4)], rfl, rfl, rfl⟩, rfl⟩
  have hgone := h _ (.cancel ⟨"SEP001122334455"⟩ ⟨1⟩ .endCall none) _ _ _ hreplaced rfl
  cases hgone

end TransferRegistry

end Sccp
