/-
  Sccp.Safety.Parking

  Claims on parked slots.  The registry says which call claims a slot, the
  runtime claims and the pending retrievals say which slot a call is after; the
  books balance along a run just when no event empties a claimed slot behind the
  back of its claimant and no call claims or releases a slot out of turn.
-/

import Sccp.Controller.Parking
import Sccp.Lib.Leases
import Sccp.Lib.Runs

namespace Sccp

namespace ParkingRuntime

/-- The books of the parked slots. -/
def leases (p : ParkingRuntime) : Leases ParkingSlot CallId where
  holder slot := (p.registry.claims.get? slot).map (·.callId)
  reserved call := (p.claims.get? call).map fun claim => (claim.lot, claim.slot)
  taking call := (p.retrievals.get? call).map fun pending => (pending.lot, pending.slot)

variable {p : ParkingRuntime} {lot : String} {slot : Nat} {call : CallId}

/-- The slots are claimed exclusively and no claim leaks. -/
structure SlotsSound (p : ParkingRuntime) : Prop where
  /-- A claim in the registry is backed by the runtime claim or the pending
      retrieval of its call. -/
  backed : ∀ lot slot claim, p.registry.claims.get? (lot, slot) = some claim →
    (∃ deadline, p.claims.get? claim.callId = some { lot, slot, deadline }) ∨
      ∃ pending, p.retrievals.get? claim.callId = some pending
        ∧ pending.lot = lot ∧ pending.slot = slot
  claimed : ∀ call runtimeClaim, p.claims.get? call = some runtimeClaim →
    ∃ claim, p.registry.claims.get? (runtimeClaim.lot, runtimeClaim.slot) = some claim
      ∧ claim.callId = call
  retrieved : ∀ call pending, p.retrievals.get? call = some pending →
    ∃ claim, p.registry.claims.get? (pending.lot, pending.slot) = some claim ∧ claim.callId = call
  /-- At most one call is after a slot. -/
  exclusive : ∀ key call call', p.leases.At call key → p.leases.At call' key → call = call'

theorem slotsSound_iff : SlotsSound p ↔ p.leases.Balanced := by
  constructor
  · intro h key c
    constructor
    · intro hheld
      obtain ⟨claim, hclaim, hcall⟩ := Option.map_eq_some_iff.mp hheld
      rcases h.backed key.1 key.2 claim hclaim with ⟨deadline, hc⟩ | ⟨pending, hp, hlot, hslot⟩
      · exact .inl (Option.map_eq_some_iff.mpr ⟨_, hcall ▸ hc, rfl⟩)
      · exact .inr (Option.map_eq_some_iff.mpr ⟨pending, hcall ▸ hp, by rw [hlot, hslot]⟩)
    rintro (hc | hp)
    · obtain ⟨claim, hclaim, rfl⟩ := Option.map_eq_some_iff.mp hc
      exact Option.map_eq_some_iff.mpr (h.claimed c claim hclaim)
    · obtain ⟨pending, hpending, rfl⟩ := Option.map_eq_some_iff.mp hp
      exact Option.map_eq_some_iff.mpr (h.retrieved c pending hpending)
  · intro h
    refine ⟨?_, ?_, ?_, fun key c c' hc hc' => h.exclusive hc hc'⟩
    · intro lot slot claim hclaim
      have hheld : p.leases.holder (lot, slot) = some claim.callId :=
        Option.map_eq_some_iff.mpr ⟨claim, hclaim, rfl⟩
      rcases (h _ _).mp hheld with hc | hp
      · obtain ⟨⟨_, _, deadline⟩, hget, heq⟩ := Option.map_eq_some_iff.mp hc
        cases heq
        exact .inl ⟨deadline, hget⟩
      · obtain ⟨pending, hget, heq⟩ := Option.map_eq_some_iff.mp hp
        cases heq
        exact .inr ⟨pending, hget, rfl, rfl⟩
    · intro call claim hclaim
      exact Option.map_eq_some_iff.mp
        ((h _ _).mpr (.inl (Option.map_eq_some_iff.mpr ⟨claim, hclaim, rfl⟩)))
    · intro call pending hpending
      exact Option.map_eq_some_iff.mp
        ((h _ _).mpr (.inr (Option.map_eq_some_iff.mpr ⟨pending, hpending, rfl⟩)))

/-! ## How the books change -/

theorem reserved_erase (call c : CallId) :
    ((p.claims.erase call).get? c).map (fun claim => (claim.lot, claim.slot))
      = Function.update p.leases.reserved call none c := by
  rw [Table.get?_erase, Function.update_apply]
  split <;> rfl

theorem taking_erase (call c : CallId) :
    ((p.retrievals.erase call).get? c).map (fun pending => (pending.lot, pending.slot))
      = Function.update p.leases.taking call none c := by
  rw [Table.get?_erase, Function.update_apply]
  split <;> rfl

/-- Releasing a slot held by the call empties it. -/
theorem holder_release (hheld : p.leases.holder (lot, slot) = some call) (key : ParkingSlot) :
    ((p.registry.releaseClaim lot slot call).1.claims.get? key).map (·.callId)
      = Function.update p.leases.holder (lot, slot) none key := by
  obtain ⟨claim, hclaim, hcall⟩ := Option.map_eq_some_iff.mp hheld
  rw [ParkingRegistry.releaseClaim, hclaim, if_pos (by simpa using hcall)]
  show ((p.registry.claims.erase (lot, slot)).get? key).map _ = _
  rw [Table.get?_erase, Function.update_apply]
  split <;> rfl

/-- Releasing a slot that the call does not hold changes nothing. -/
theorem releaseClaim_eq_self (hheld : p.leases.holder (lot, slot) ≠ some call) :
    (p.registry.releaseClaim lot slot call).1 = p.registry := by
  rw [ParkingRegistry.releaseClaim, if_neg]
  intro hany
  obtain ⟨claim, hclaim, hcall⟩ := (Option.any_eq_true _ _).mp hany
  exact hheld (Option.map_eq_some_iff.mpr ⟨claim, hclaim, by simpa using hcall⟩)

/-- A runtime claim given up with its slot. -/
theorem leases_dropClaim (hs : p.leases.Sound) (hc : p.leases.reserved call = some (lot, slot)) :
    ({ p with claims := p.claims.erase call }.releaseSlot lot slot call).leases
      = p.leases.release (lot, slot) call := by
  have hheld := (hs.balanced _ _).mpr (.inl hc)
  show (⟨_, _, _⟩ : Leases ParkingSlot CallId) = ⟨_, _, _⟩
  congr 1
  · exact funext (holder_release hheld)
  · exact funext (reserved_erase call)

theorem leases_dropRetrieval (hs : p.leases.Sound) {pending : PendingRetrieval}
    (hp : p.retrievals.get? call = some pending) : (p.dropRetrieval call pending).leases
      = p.leases.finish (pending.lot, pending.slot) call := by
  have hheld := (hs.balanced (pending.lot, pending.slot) call).mpr
    (.inr (Option.map_eq_some_iff.mpr ⟨pending, hp, rfl⟩))
  show (⟨_, _, _⟩ : Leases ParkingSlot CallId) = ⟨_, _, _⟩
  congr 1
  · exact funext (holder_release hheld)
  · exact funext (taking_erase call)

theorem sound_dropClaim (hs : p.leases.Sound) {claim : ParkingClaim}
    (hc : p.claims.get? call = some claim) :
    ({ p with claims := p.claims.erase call }.releaseSlot claim.lot claim.slot
      call).leases.Sound := by
  have hreserved : p.leases.reserved call = some (claim.lot, claim.slot) :=
    Option.map_eq_some_iff.mpr ⟨claim, hc, rfl⟩
  rw [leases_dropClaim hs hreserved]
  exact hs.release hreserved

theorem sound_dropRetrieval (hs : p.leases.Sound) {pending : PendingRetrieval}
    (hp : p.retrievals.get? call = some pending) : (p.dropRetrieval call pending).leases.Sound := by
  rw [leases_dropRetrieval hs hp]
  exact hs.finish (Option.map_eq_some_iff.mpr ⟨pending, hp, rfl⟩)

end ParkingRuntime

/-! ## Runs over lists of attempts

The entries to settle are read off a table before the first of them is settled;
settling one leaves the others where they were. -/

section Entries

variable {V : Type} {t : Table CallId V} {call : CallId} {v : V} {rest : List (CallId × V)}

/-- A list of entries of a table, each key once. -/
def Entries (t : Table CallId V) (l : List (CallId × V)) : Prop :=
  (l.map Prod.fst).Nodup ∧ ∀ e ∈ l, t.get? e.1 = some e.2

theorem entries_filter (t : Table CallId V) (P : CallId × V → Bool) :
    Entries t (t.entries.filter P) := by
  refine ⟨t.nodup.sublist ((List.filter_sublist).map _), fun e he => ?_⟩
  exact Table.get?_eq_some.mpr (List.mem_filter.mp he).1

theorem Entries.head (h : Entries t ((call, v) :: rest)) : t.get? call = some v :=
  h.2 _ (List.mem_cons_self ..)

theorem Entries.tail (h : Entries t ((call, v) :: rest)) : Entries (t.erase call) rest := by
  have hnodup := List.nodup_cons.mp h.1
  refine ⟨hnodup.2, fun e he => ?_⟩
  rw [Table.get?_erase, if_neg]
  · exact h.2 e (List.mem_cons_of_mem _ he)
  · rintro rfl
    exact hnodup.1 (List.mem_map.mpr ⟨e, he, rfl⟩)

end Entries

namespace ParkingController

open ParkingRuntime

variable {l : List (CallId × PendingRetrieval)} {call : CallId} {deadline : Instant} {slot : Nat}
  {event : ParkingEvent} {retriever : Option CallId}

theorem sound_expireClaims {p : ParkingRuntime} {l : List (CallId × ParkingClaim)}
    (hs : p.leases.Sound) (hl : Entries p.claims l) : (expireClaims p l).leases.Sound := by
  induction l generalizing p with
  | nil => exact hs
  | cons e rest ih => exact ih (sound_dropClaim hs hl.head) hl.tail

theorem sound_expireRetrievals {s : ParkingController} (hs : s.parking.leases.Sound)
    (hl : Entries s.parking.retrievals l) :
    (expireRetrievals deadline s l).1.parking.leases.Sound := by
  induction l generalizing s with
  | nil => exact hs
  | cons e rest ih => exact ih (sound_dropRetrieval hs hl.head) hl.tail

theorem sound_retireRetrievals {p : ParkingRuntime} (hs : p.leases.Sound)
    (hl : Entries p.retrievals l) : (retireRetrievals p l).leases.Sound := by
  induction l generalizing p with
  | nil => exact hs
  | cons e rest ih => exact ih (sound_dropRetrieval hs hl.head) hl.tail

theorem get?_retireRetrievals {p : ParkingRuntime} {pending : PendingRetrieval}
    (h : (retireRetrievals p l).retrievals.get? call = some pending) :
    p.retrievals.get? call = some pending ∧ call ∉ l.map Prod.fst := by
  induction l generalizing p with
  | nil => exact ⟨h, by simp⟩
  | cons e rest ih =>
    obtain ⟨hget, hrest⟩ := ih h
    have hget : (p.retrievals.erase e.1).get? call = some pending := hget
    rw [Table.get?_erase] at hget
    split at hget
    · cases hget
    · exact ⟨hget, by simpa [hrest] using fun heq => ‹¬ _› heq⟩

theorem leases_expireParks (s : ParkingController) (l : List (CallId × PendingPark)) :
    (expireParks s l).1.parking.leases = s.parking.leases ∧
      (expireParks s l).1.parking.retrievals = s.parking.retrievals := by
  induction l generalizing s with
  | nil => exact ⟨rfl, rfl⟩
  | cons e rest ih => exact ih _

/-! ## The invariant -/

/-- Sound books, and every pending retrieval is of a live call. -/
structure Kept (s : ParkingController) : Prop where
  sound : s.parking.leases.Sound
  live : ∀ call pending, s.parking.retrievals.get? call = some pending →
    s.controller.bySccp.contains call = true

variable {s : ParkingController}

/-- Publishing retires the retrievals of ended calls, with their slots. -/
theorem kept_retire (h : s.parking.leases.Sound) : Kept s.retireParkingAttempts := by
  have hentries := entries_filter s.parking.retrievals fun e => !s.controller.bySccp.contains e.1
  refine ⟨?_, fun call pending hget => ?_⟩
  · exact sound_retireRetrievals (l := s.parking.retrievals.entries.filter _) h hentries
  obtain ⟨hget, hnot⟩ := get?_retireRetrievals hget
  have hget : s.parking.retrievals.get? call = some pending := hget
  show s.controller.bySccp.contains call = true
  by_contra hlive
  refine hnot (List.mem_map.mpr ⟨(call, pending), List.mem_filter.mpr ⟨?_, ?_⟩, rfl⟩)
  · exact Table.get?_eq_some.mp hget
  · simpa using hlive

/-- Publishing changes no books while every retrieval is of a live call. -/
theorem leases_retire (hlive : ∀ call pending, s.parking.retrievals.get? call = some pending →
      s.controller.bySccp.contains call = true) :
    s.retireParkingAttempts.parking.leases = s.parking.leases := by
  have hnil : (s.parking.retrievals.entries.filter
      fun e => !s.controller.bySccp.contains e.1) = [] := by
    refine List.filter_eq_nil_iff.mpr fun e he => ?_
    simp [hlive e.1 e.2 (Table.get?_eq_some.mpr he)]
  show (retireRetrievals _ (s.parking.retrievals.entries.filter
    fun e => !s.controller.bySccp.contains e.1)).leases = _
  rw [hnil]
  rfl

/-! ## The commands, one by one -/

/-- Whether a claim of the slot would be granted. -/
def Grants (s : ParkingController) (now : Instant) (lot : String) (slot : Nat)
    (deadline : Instant) : Prop :=
  s.parking.hasCapacity = true ∧ now < deadline
    ∧ s.parking.registry.calls.contains (lot, slot) = true
    ∧ s.parking.registry.claims.get? (lot, slot) = none

theorem claimParking_cases (now : Instant) (lot : String) (slot : Nat) (device : DeviceId)
    (call : CallId) (deadline : Instant) :
    (s.claimParking now lot slot device call deadline = (s, false)
      ∧ ¬ s.Grants now lot slot deadline) ∨ (s.Grants now lot slot deadline ∧
      (s.claimParking now lot slot device call deadline).1.controller = s.controller ∧
      (s.claimParking now lot slot device call deadline).1.parking.retrievals
        = s.parking.retrievals ∧ (s.claimParking now lot slot device call deadline).1.parking.leases
        = s.parking.leases.grant (lot, slot) call) := by
  unfold claimParking ParkingRegistry.claim Grants
  split
  · next hg =>
    refine .inl ⟨rfl, fun h => ?_⟩
    simp only [h.1, Bool.not_true, Bool.false_or, decide_eq_true_eq] at hg
    exact absurd h.2.1 (not_lt.mpr hg)
  next hg =>
  split
  · next hclaim =>
    refine .inl ⟨rfl, fun h => ?_⟩
    rw [if_neg] at hclaim
    · cases hclaim
    · simp [h.2.2.1, Table.not_contains_iff.mpr h.2.2.2]
  next registry hclaim =>
  split at hclaim
  · cases hclaim
  next hfree =>
  cases hclaim
  simp only [Bool.or_eq_true, Bool.not_eq_true', not_or, decide_eq_true_eq,
    Bool.not_eq_false, Bool.not_eq_true] at hg hfree
  refine .inr ⟨⟨hg.1, not_le.mp hg.2, hfree.1, Table.not_contains_iff.mp hfree.2⟩, rfl, rfl, ?_⟩
  show (⟨_, _, _⟩ : Leases ParkingSlot CallId) = ⟨_, _, _⟩
  congr 1
  · funext key
    rw [Table.get?_insert, Function.update_apply]
    split <;> rfl
  · funext c
    rw [Table.get?_insert, Function.update_apply]
    split <;> rfl

theorem callPbxId_insertPbxCall {s s' : Controller} {call : PbxCall} {a : CallAppearance}
    (h : s.insertPbxCall call a = (s', true)) : s'.callPbxId a.sccpId = some a.pbxId := by
  unfold Controller.insertPbxCall Controller.attachAppearance at h
  split at h
  · cases h
  split at h
  · next hattach =>
    split at hattach
    · cases hattach
    · cases hattach
      cases h
      simp [Controller.callPbxId, Controller.appearanceForCall, Table.get?_insert]
  · cases h

theorem callPbxId_setCallSelected (s : Controller) (device : DeviceId) (call : CallId)
    (selected : Bool) : (s.setCallSelected device call selected).callPbxId = s.callPbxId := by
  unfold Controller.setCallSelected
  split <;> rfl

theorem beginParkingRetrieval_ok {s s' : Controller} {binding : LineBinding} {codec : Codec}
    {lot : Option String} {info : CallInfo} {effects : List DriverEffect}
    (h : s.beginParkingRetrieval call binding codec lot slot info = (s', .ok effects)) :
    s.bySccp.contains call = false ∧ ∃ pbxId, s'.callPbxId call = some pbxId := by
  unfold Controller.beginParkingRetrieval at h
  split at h
  · cases h
  next hg =>
  simp only [Bool.or_eq_true, not_or, Bool.not_eq_true] at hg
  refine ⟨hg.1.1, ?_⟩
  revert h
  dsimp only
  split
  · intro h; cases h
  next s₁ hinsert =>
  intro h
  cases h
  have hpbx := callPbxId_insertPbxCall hinsert
  exact ⟨_, (congrFun (callPbxId_setCallSelected ..) call).trans hpbx⟩

/-- A committed claim becomes a pending retrieval, or is given up with its slot. -/
theorem sound_prepareParkingRetrieval (h : Kept s) (now : Instant) (call : CallId)
    (binding : LineBinding) (codec : Codec) (lot : String) (slot : Nat) (info : CallInfo)
    (deadline : Instant) :
    (s.prepareParkingRetrieval now call binding codec lot slot info deadline).1.parking.leases.Sound
    := by
  unfold prepareParkingRetrieval commitClaim
  split
  · exact h.sound
  next parking hcommit =>
  split at hcommit
  · next hany =>
    cases hcommit
    obtain ⟨claim, hclaim, hmatch⟩ := (Option.any_eq_true _ _).mp hany
    obtain ⟨rfl, rfl, -⟩ : claim.lot = lot ∧ claim.slot = slot ∧ now < claim.deadline := by
      simpa using hmatch
    split
    · exact sound_dropClaim h.sound hclaim
    next controller effects hbegin =>
    obtain ⟨hnew, pbxId, hpbx⟩ := beginParkingRetrieval_ok hbegin
    rw [hpbx]
    -- a call that is not live yet has no retrieval pending
    have htaking : s.parking.retrievals.get? call = none := by
      cases hget : s.parking.retrievals.get? call with
      | none => rfl
      | some pending => rw [h.live call pending hget] at hnew; cases hnew
    have hreserved : s.parking.leases.reserved call = some (claim.lot, claim.slot) :=
      Option.map_eq_some_iff.mpr ⟨claim, hclaim, rfl⟩
    have hpromote := h.sound.promote hreserved (Option.map_eq_none_iff.mpr htaking)
    refine cast (congrArg Leases.Sound ?_) hpromote
    show (⟨_, _, _⟩ : Leases ParkingSlot CallId) = ⟨_, _, _⟩
    congr 1
    · exact funext fun c => (reserved_erase call c).symm
    · funext c
      rw [Table.get?_insert, Function.update_apply]
      split <;> rfl
  · cases hcommit

/-- The end of a slot, in the books. -/
theorem holder_emptied (p : ParkingRuntime) (key key' : ParkingSlot) :
    ((p.registry.claims.erase key).get? key').map (·.callId)
      = Function.update p.leases.holder key none key' := by
  rw [Table.get?_erase, Function.update_apply]
  split <;> rfl

/-- An event that fills a slot, or reports a failure, leaves the claims alone. -/
theorem leases_applyParkingEvent (event : ParkingEvent) (retriever : Option CallId)
    (deadline : Instant)
    (hkind : event.kind = .parked ∨ event.kind = .swap ∨ event.kind = .failed) :
    (s.applyParkingEvent event retriever deadline).1.parking.leases = s.parking.leases := by
  have hclaims : (s.parking.registry.apply event).1.claims = s.parking.registry.claims := by
    unfold ParkingRegistry.apply
    rcases hkind with hk | hk | hk <;> rw [hk] <;> dsimp only <;> split <;> rfl
  have hleases : { s.parking with registry := (s.parking.registry.apply event).1 }.leases
      = s.parking.leases := by
    show (⟨_, _, _⟩ : Leases ParkingSlot CallId) = ⟨_, _, _⟩
    rw [hclaims]
  unfold applyParkingEvent
  rcases hkind with hk | hk | hk <;> rw [hk] <;> dsimp only <;> split <;> exact hleases

/-- A slot that times out or is given up takes its claim along, and no more. -/
theorem applyParkingEvent_gone (event : ParkingEvent) (retriever : Option CallId)
    (deadline : Instant) (hkind : event.kind = .timeout ∨ event.kind = .giveUp) :
    (s.applyParkingEvent event retriever deadline).1.controller = s.controller ∧
    (s.applyParkingEvent event retriever deadline).1.parking.retrievals = s.parking.retrievals ∧
    (s.applyParkingEvent event retriever deadline).1.parking.leases =
      { s.parking.leases with
        holder := Function.update s.parking.leases.holder (event.lot, event.slot) none } := by
  have hheld := funext (holder_emptied s.parking (event.lot, event.slot))
  unfold applyParkingEvent ParkingRegistry.apply
  rcases hkind with hk | hk <;> rw [hk] <;> refine ⟨rfl, rfl, ?_⟩ <;> rw [← hheld] <;> rfl

theorem bySccp_parkingRetrieved (s : Controller) (call : CallId) :
    (s.parkingRetrieved call).1.bySccp = s.bySccp := by
  unfold Controller.parkingRetrieved Controller.settleWaiting
  split
  · rfl
  next hsettle =>
  split at hsettle
  · cases hsettle
  split at hsettle
  · cases hsettle
  · cases hsettle
    rfl

/-- Who counts as the retriever of a slot: the call that the event names, or else
    the claimant. -/
def retrieverOf (s : ParkingController) (event : ParkingEvent) (retriever : Option CallId) :
    Option CallId := retriever.or (s.parking.leases.holder (event.lot, event.slot))

/-- A retrieved slot loses its claim, and the call that counts as the retriever
    loses its pending retrieval. -/
theorem applyParkingEvent_retrieved (event : ParkingEvent) (retriever : Option CallId)
    (deadline : Instant) (hkind : event.kind = .retrieved) :
    (s.applyParkingEvent event retriever deadline).1.controller.bySccp = s.controller.bySccp ∧
    (∀ call pending,
      (s.applyParkingEvent event retriever deadline).1.parking.retrievals.get? call = some pending →
        s.parking.retrievals.get? call = some pending) ∧
    (s.applyParkingEvent event retriever deadline).1.parking.leases =
      { holder := Function.update s.parking.leases.holder (event.lot, event.slot) none
        reserved := s.parking.leases.reserved
        taking := match s.retrieverOf event retriever with
          | none => s.parking.leases.taking
          | some call => Function.update s.parking.leases.taking call none } := by
  have hheld := funext (holder_emptied s.parking (event.lot, event.slot))
  unfold applyParkingEvent ParkingRegistry.apply retrieverOf
  rw [hkind, ← hheld]
  dsimp only
  have hchange : (s.parking.registry.claims.get? (event.lot, event.slot)).map (·.callId)
      = s.parking.leases.holder (event.lot, event.slot) := rfl
  rw [hchange]
  cases retriever.or (s.parking.leases.holder (event.lot, event.slot)) with
  | none => exact ⟨rfl, fun _ _ h => h, rfl⟩
  | some call =>
    dsimp only
    split
    · refine ⟨bySccp_parkingRetrieved _ _, fun c pending hget => ?_, ?_⟩
      · have hget : (s.parking.retrievals.erase call).get? c = some pending := hget
        rw [Table.get?_erase] at hget
        split at hget
        · cases hget
        · exact hget
      · rw [← funext (taking_erase (p := s.parking) call)]
        rfl
    next hnone =>
    refine ⟨rfl, fun _ _ h => h, ?_⟩
    have htaking : s.parking.leases.taking call = none :=
      Option.map_eq_none_iff.mpr (Table.not_contains_iff.mp (by simpa using hnone))
    rw [← htaking, Function.update_eq_self]
    rfl

/-- A release gives up the runtime claim of the call, whatever slot it is for, and
    the slot, whatever the call holds it for. -/
theorem leases_releaseParkingClaim (lot : String) (slot : Nat) (call : CallId) :
    (s.releaseParkingClaim lot slot call).1.parking.leases =
      { holder := if s.parking.leases.holder (lot, slot) = some call then
            Function.update s.parking.leases.holder (lot, slot) none
          else s.parking.leases.holder
        reserved := Function.update s.parking.leases.reserved call none
        taking := s.parking.leases.taking } := by
  rw [← funext (reserved_erase (p := s.parking) call)]
  show (⟨_, _, _⟩ : Leases ParkingSlot CallId) = ⟨_, _, _⟩
  congr 1
  split
  · next hheld => exact funext (holder_release hheld)
  next hheld =>
  show (fun key => ((s.parking.registry.releaseClaim lot slot call).1.claims.get? key).map
    (·.callId)) = _
  rw [releaseClaim_eq_self hheld]
  rfl

/-! ## When the books stay balanced -/

/-- The steps that keep the books: a call with a claim is granted no second one,
    a release names the slot of the claim and comes before its commitment, and
    only the claimant's own retrieval empties a claimed slot. -/
def Orderly (s : ParkingController) : ParkingCommand → Prop
  | .claimParking now lot slot _ call deadline =>
    s.Grants now lot slot deadline → s.parking.claims.get? call = none
  | .releaseParkingClaim lot slot call =>
    (∀ claim, s.parking.claims.get? call = some claim → claim.lot = lot ∧ claim.slot = slot) ∧
      ∀ pending, s.parking.retrievals.get? call = some pending →
        ¬ (pending.lot = lot ∧ pending.slot = slot)
  | .applyParkingEvent event retriever _ =>
    match event.kind with
    | .timeout | .giveUp => s.parking.registry.claims.get? (event.lot, event.slot) = none
    | .retrieved =>
      match s.parking.registry.claims.get? (event.lot, event.slot) with
      | none => ∀ call, retriever = some call → s.parking.retrievals.get? call = none
      | some claim =>
        (∀ call, retriever = some call → call = claim.callId) ∧
          ∃ pending, s.parking.retrievals.get? claim.callId = some pending
            ∧ pending.lot = event.lot ∧ pending.slot = event.slot
    | .parked | .swap | .failed => True
  | _ => True

/-- A free slot that is emptied changes no books. -/
theorem update_holder_none {l : Leases ParkingSlot CallId} {key : ParkingSlot}
    (h : l.holder key = none) : Function.update l.holder key none = l.holder := by
  rw [← h, Function.update_eq_self]

theorem sound_retrieved (h : Kept s) (hkind : event.kind = .retrieved)
    (ho : s.Orderly (.applyParkingEvent event retriever deadline)) :
    (s.applyParkingEvent event retriever deadline).1.parking.leases.Sound := by
  rw [(applyParkingEvent_retrieved event retriever deadline hkind).2.2]
  simp only [Orderly, hkind] at ho
  cases hclaim : s.parking.registry.claims.get? (event.lot, event.slot) with
  | none =>
    -- nobody claims the slot: the retriever must have nothing pending
    rw [hclaim] at ho
    have hheld : s.parking.leases.holder (event.lot, event.slot) = none :=
      Option.map_eq_none_iff.mpr hclaim
    rw [update_holder_none hheld, retrieverOf, hheld, Option.or_none]
    cases retriever with
    | none => exact h.sound
    | some call =>
      have htaking : s.parking.leases.taking call = none :=
        Option.map_eq_none_iff.mpr (ho call rfl)
      show Leases.Sound ⟨_, _, Function.update s.parking.leases.taking call none⟩
      rw [← htaking, Function.update_eq_self]
      exact h.sound
  | some claim =>
    rw [hclaim] at ho
    obtain ⟨hcall, pending, hpending, hlot, hslot⟩ := ho
    have hheld : s.parking.leases.holder (event.lot, event.slot) = some claim.callId :=
      Option.map_eq_some_iff.mpr ⟨claim, hclaim, rfl⟩
    have hwho : s.retrieverOf event retriever = some claim.callId := by
      rw [retrieverOf, hheld]
      cases retriever with
      | none => rfl
      | some call => rw [hcall call rfl]; rfl
    rw [hwho]
    refine h.sound.finish (Option.map_eq_some_iff.mpr ⟨pending, hpending, ?_⟩)
    rw [hlot, hslot]

theorem sound_release (h : Kept s) {lot : String}
    (ho : s.Orderly (.releaseParkingClaim lot slot call)) :
    (s.releaseParkingClaim lot slot call).1.parking.leases.Sound := by
  cases hclaim : s.parking.claims.get? call with
  | some claim =>
    obtain ⟨rfl, rfl⟩ := ho.1 claim hclaim
    exact sound_dropClaim h.sound hclaim
  | none =>
    have hreserved : s.parking.leases.reserved call = none := Option.map_eq_none_iff.mpr hclaim
    have hheld : s.parking.leases.holder (lot, slot) ≠ some call := by
      intro hheld
      rcases (h.sound.balanced _ _).mp hheld with hr | ht
      · rw [hreserved] at hr; cases hr
      · obtain ⟨pending, hpending, heq⟩ := Option.map_eq_some_iff.mp ht
        cases heq
        exact ho.2 pending hpending ⟨rfl, rfl⟩
    rw [leases_releaseParkingClaim, if_neg hheld, ← hreserved, Function.update_eq_self]
    exact h.sound

theorem sound_expire (h : Kept s) (now deadline : Instant) :
    (s.expireParkingAttempts now deadline).1.parking.leases.Sound := by
  have hclaims := sound_expireClaims (p := { s.parking with retiredPeers := [] }) h.sound
    (entries_filter s.parking.claims fun e => e.2.deadline ≤ now)
  unfold expireParkingAttempts
  dsimp only
  refine sound_expireRetrievals ?_ (entries_filter _ _)
  rw [(leases_expireParks _ _).1]
  exact hclaims

theorem sound_perform (h : Kept s) (command : ParkingCommand) (ho : s.Orderly command) :
    (s.perform command).parking.leases.Sound := by
  cases command with
  | control event => exact h.sound
  | claimParking now lot slot device call deadline =>
    rcases claimParking_cases (s := s) now lot slot device call deadline with
      ⟨heq, -⟩ | ⟨hgrants, -, -, heq⟩
    · show (s.claimParking now lot slot device call deadline).1.parking.leases.Sound
      rw [heq]
      exact h.sound
    show (s.claimParking now lot slot device call deadline).1.parking.leases.Sound
    rw [heq]
    exact h.sound.grant (Option.map_eq_none_iff.mpr hgrants.2.2.2)
      (Option.map_eq_none_iff.mpr (ho hgrants))
  | releaseParkingClaim lot slot call => exact sound_release h ho
  | setParkPeer pbxId uniqueId =>
    show (s.setParkPeer pbxId uniqueId).parking.leases.Sound
    unfold setParkPeer
    split <;> exact h.sound
  | failParkingOperation operation deadline =>
    show (s.failParkingOperation operation deadline).1.parking.leases.Sound
    unfold failParkingOperation
    split
    · split <;> exact h.sound
    · split
      · exact h.sound
      · next hfind => exact sound_dropRetrieval h.sound (Table.find?_some hfind).1
  | applyParkingEvent event retriever deadline =>
    show (s.applyParkingEvent event retriever deadline).1.parking.leases.Sound
    cases hkind : event.kind with
    | parked => rw [leases_applyParkingEvent _ _ _ (.inl hkind)]; exact h.sound
    | swap => rw [leases_applyParkingEvent _ _ _ (.inr (.inl hkind))]; exact h.sound
    | failed => rw [leases_applyParkingEvent _ _ _ (.inr (.inr hkind))]; exact h.sound
    | retrieved => exact sound_retrieved h hkind ho
    | timeout =>
      simp only [Orderly, hkind] at ho
      rw [(applyParkingEvent_gone _ _ _ (.inl hkind)).2.2,
        update_holder_none (Option.map_eq_none_iff.mpr ho)]
      exact h.sound
    | giveUp =>
      simp only [Orderly, hkind] at ho
      rw [(applyParkingEvent_gone _ _ _ (.inr hkind)).2.2,
        update_holder_none (Option.map_eq_none_iff.mpr ho)]
      exact h.sound
  | expireParkingAttempts now deadline => exact sound_expire h now deadline
  | prepareParking now call enabled lot deadline =>
    show (s.prepareParking now call enabled lot deadline).1.parking.leases.Sound
    unfold prepareParking
    split
    · exact h.sound
    dsimp only
    split
    · exact h.sound
    · split <;> exact h.sound
  | prepareParkingRetrieval now call binding codec lot slot info deadline =>
    exact sound_prepareParkingRetrieval h now call binding codec lot slot info deadline

/-! ## When they do not -/

theorem orderly_release (h : Kept s) {lot : String}
    (hb : (s.releaseParkingClaim lot slot call).1.parking.leases.Balanced) :
    s.Orderly (.releaseParkingClaim lot slot call) := by
  rw [leases_releaseParkingClaim] at hb
  refine ⟨fun claim hclaim => ?_, fun pending hpending => ?_⟩
  · -- the claim of another slot would stay behind without its runtime claim
    by_contra hother
    have hreserved : s.parking.leases.reserved call = some (claim.lot, claim.slot) :=
      Option.map_eq_some_iff.mpr ⟨claim, hclaim, rfl⟩
    have hheld := (h.sound.balanced _ _).mpr (.inl hreserved)
    have hkey : (claim.lot, claim.slot) ≠ (lot, slot) := fun heq => hother (by cases heq; simp)
    rcases (hb (claim.lot, claim.slot) call).mp (by
      dsimp only
      split
      · rw [Function.update_of_ne hkey, hheld]
      · exact hheld) with hr | ht
    · simp at hr
    · exact h.sound.apart _ _ hreserved ht
  · -- the slot of a retrieval would be freed under it
    rintro ⟨rfl, rfl⟩
    have htaking : s.parking.leases.taking call = some (pending.lot, pending.slot) :=
      Option.map_eq_some_iff.mpr ⟨pending, hpending, rfl⟩
    have hheld := (h.sound.balanced _ _).mpr (.inr htaking)
    have := (hb (pending.lot, pending.slot) call).mpr (.inr htaking)
    rw [if_pos hheld] at this
    simp at this

theorem orderly_claim (h : Kept s) {now : Instant} {lot : String} {device : DeviceId}
    (hb : (s.claimParking now lot slot device call deadline).1.parking.leases.Balanced) :
    s.Orderly (.claimParking now lot slot device call deadline) := by
  intro hgrants
  rcases claimParking_cases (s := s) now lot slot device call deadline with
    ⟨-, hnot⟩ | ⟨-, -, -, heq⟩
  · exact absurd hgrants hnot
  rw [heq] at hb
  cases hclaim : s.parking.claims.get? call with
  | none => rfl
  | some claim =>
    -- the first claim would be overwritten and its slot stay claimed
    have hreserved : s.parking.leases.reserved call = some (claim.lot, claim.slot) :=
      Option.map_eq_some_iff.mpr ⟨claim, hclaim, rfl⟩
    have hheld := (h.sound.balanced _ _).mpr (.inl hreserved)
    have hfree : s.parking.leases.holder (lot, slot) = none :=
      Option.map_eq_none_iff.mpr hgrants.2.2.2
    have hkey : (claim.lot, claim.slot) ≠ (lot, slot) := fun heq => by
      rw [heq, hfree] at hheld; cases hheld
    rcases (hb (claim.lot, claim.slot) call).mp (by
      simp only [Leases.grant, Function.update_of_ne hkey, hheld]) with hr | ht
    · simp only [Leases.grant, Function.update_self, Option.some.injEq] at hr
      exact absurd hr.symm hkey
    · exact absurd ht (h.sound.apart _ _ hreserved)

/-- A slot emptied by anything but a retrieval must have been free. -/
theorem free_of_balanced {l : Leases ParkingSlot CallId} {key : ParkingSlot} (hl : l.Balanced)
    (hb : { l with holder := Function.update l.holder key none }.Balanced) :
    l.holder key = none := by
  cases hheld : l.holder key with
  | none => rfl
  | some call =>
    have := (hb key call).mpr ((hl key call).mp hheld)
    simp at this

theorem orderly_retrieved (h : Kept s) (hkind : event.kind = .retrieved)
    (hb : (s.applyParkingEvent event retriever deadline).1.parking.leases.Balanced) :
    s.Orderly (.applyParkingEvent event retriever deadline) := by
  rw [(applyParkingEvent_retrieved event retriever deadline hkind).2.2] at hb
  simp only [Orderly, hkind]
  cases hclaim : s.parking.registry.claims.get? (event.lot, event.slot) with
  | none =>
    have hfree : s.parking.leases.holder (event.lot, event.slot) = none :=
      Option.map_eq_none_iff.mpr hclaim
    rintro call rfl
    cases hpending : s.parking.retrievals.get? call with
    | none => rfl
    | some pending =>
      -- a retrieval of another slot would be dropped and its slot stay claimed
      have htaking : s.parking.leases.taking call = some (pending.lot, pending.slot) :=
        Option.map_eq_some_iff.mpr ⟨pending, hpending, rfl⟩
      have hheld := (h.sound.balanced _ _).mpr (.inr htaking)
      rw [update_holder_none hfree] at hb
      rcases (hb _ _).mp hheld with hr | ht
      · exact absurd htaking (h.sound.apart _ _ hr)
      · simp [retrieverOf] at ht
  | some claim =>
    have hheld : s.parking.leases.holder (event.lot, event.slot) = some claim.callId :=
      Option.map_eq_some_iff.mpr ⟨claim, hclaim, rfl⟩
    have hempty : ∀ call, ¬ (⟨Function.update s.parking.leases.holder (event.lot, event.slot) none,
        s.parking.leases.reserved, match s.retrieverOf event retriever with
          | none => s.parking.leases.taking
          | some call => Function.update s.parking.leases.taking call none⟩ :
        Leases ParkingSlot CallId).At call (event.lot, event.slot) := by
      intro call hat
      have := (hb _ _).mpr hat
      simp at this
    rcases (h.sound.balanced _ _).mp hheld with hr | ht
    · exact absurd (.inl hr) (hempty claim.callId)
    obtain ⟨pending, hpending, heq⟩ := Option.map_eq_some_iff.mp ht
    refine ⟨?_, pending, hpending, congrArg Prod.fst heq, congrArg Prod.snd heq⟩
    rintro call rfl
    by_contra hcall
    refine hempty claim.callId (.inr ?_)
    show Function.update s.parking.leases.taking call none claim.callId = _
    rw [Function.update_of_ne (Ne.symm hcall)]
    exact ht

/-- A command that ends no call and starts no retrieval is settled before the
    owner publishes. -/
theorem leases_execute (h : Kept s) (command : ParkingCommand)
    (hsccp : (s.perform command).controller.bySccp = s.controller.bySccp)
    (hget : ∀ call pending, (s.perform command).parking.retrievals.get? call = some pending →
      s.parking.retrievals.get? call = some pending) :
    (s.execute command).parking.leases = (s.perform command).parking.leases := by
  refine leases_retire fun call pending hpending => ?_
  rw [hsccp]
  exact h.live call pending (hget call pending hpending)

theorem orderly_gone (h : Kept s) (hkind : event.kind = .timeout ∨ event.kind = .giveUp)
    (hb : (s.execute (.applyParkingEvent event retriever deadline)).parking.leases.Balanced) :
    s.parking.registry.claims.get? (event.lot, event.slot) = none := by
  obtain ⟨hcontroller, hretrievals, heq⟩ := applyParkingEvent_gone (s := s) event retriever
    deadline hkind
  rw [leases_execute h (.applyParkingEvent ..) (congrArg Controller.bySccp hcontroller)
    (fun _ _ hget => hretrievals ▸ hget)] at hb
  have hb : (s.applyParkingEvent event retriever deadline).1.parking.leases.Balanced := hb
  rw [heq] at hb
  exact Option.map_eq_none_iff.mp (free_of_balanced h.sound.balanced hb)

/-- A step out of turn unbalances the books. -/
theorem orderly_execute (h : Kept s) (command : ParkingCommand)
    (hb : (s.execute command).parking.leases.Balanced) : s.Orderly command := by
  cases command with
  | claimParking now lot slot device call deadline =>
    refine orderly_claim h ?_
    rcases claimParking_cases (s := s) now lot slot device call deadline with
      ⟨heq, -⟩ | ⟨-, hcontroller, hretrievals, -⟩
    · rw [heq]
      exact h.sound.balanced
    · rw [leases_execute h (.claimParking ..) (congrArg Controller.bySccp hcontroller)
        (fun _ _ hget => hretrievals ▸ hget)] at hb
      exact hb
  | releaseParkingClaim lot slot call =>
    rw [leases_execute h (.releaseParkingClaim ..) rfl (fun _ _ hget => hget)] at hb
    exact orderly_release h hb
  | applyParkingEvent event retriever deadline =>
    cases hkind : event.kind with
    | parked => simp only [Orderly, hkind]
    | swap => simp only [Orderly, hkind]
    | failed => simp only [Orderly, hkind]
    | timeout =>
      simp only [Orderly, hkind]
      exact orderly_gone h (.inl hkind) hb
    | giveUp =>
      simp only [Orderly, hkind]
      exact orderly_gone h (.inr hkind) hb
    | retrieved =>
      obtain ⟨hsccp, hget, -⟩ := applyParkingEvent_retrieved (s := s) event retriever deadline hkind
      rw [leases_execute h (.applyParkingEvent ..) hsccp hget] at hb
      exact orderly_retrieved h hkind hb
  | _ => trivial

/-! ## Every run -/

/-- Along a run of the owner the slot claims are exclusive, backed and never leak
    just when every command keeps to the order of claim, commitment and end. -/
theorem parked_slots (controller : Controller) (commands : List ParkingCommand) :
    Runs.Always execute (fun s => s.parking.SlotsSound) { controller } commands ↔
      Runs.Each execute Orderly { controller } commands := by
  refine Runs.always_iff_each (I := Kept) (fun s h => slotsSound_iff.mpr h.sound.balanced)
    (fun s command h ho => kept_retire (sound_perform h command ho))
    (fun s command h hs => orderly_execute h command (slotsSound_iff.mp hs)) ?_ commands
  exact ⟨Leases.sound_empty, fun call pending hget => by cases hget⟩

/-- Slot 701, filled twice. -/
def refilled : List ParkingCommand :=
  let parked : ParkingEvent := { kind := .parked, lot := "default", slot := 701 }
  [.applyParkingEvent parked none 9,
    .claimParking 0 "default" 701 Sample.desk ⟨1⟩ 3,
    .applyParkingEvent { parked with kind := .timeout } none 9,
    .applyParkingEvent parked none 9,
    .claimParking 1 "default" 701 Sample.lobby ⟨2⟩ 4]

/-- The slot times out while call 1 has it claimed; parked into again, it is
    claimed by call 2 as well. -/
theorem refilled_slot_has_two_claimants :
    ¬ (Runs.run execute { controller := .withDigitTimeouts 5 5 } refilled).parking.SlotsSound := by
  intro h
  have heq : (⟨1⟩ : CallId) = ⟨2⟩ :=
    h.exclusive ("default", 701) ⟨1⟩ ⟨2⟩ (.inl (by decide)) (.inl (by decide))
  cases heq

end ParkingController

end Sccp
