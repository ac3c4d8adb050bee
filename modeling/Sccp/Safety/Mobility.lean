/-
  Sccp.Safety.Mobility

  The mobility registry over whole runs.

  The table of buttons and the table of lines are inverse to each other, and what is
  reserved is what the pending transactions touch.  A pending transaction finds its
  previous appearance still committed and its destination still free when it commits,
  since nobody else can have reserved either.
-/

import Sccp.Lib.Runs
import Sccp.Call.Mobility

namespace Sccp.Mobility

open Sccp

variable {Settings : Type} {r : MobilityRegistry Settings}

namespace MobilityRegistry

variable {a : RoamingAppearance Settings}

/-! ## The invariant -/

/-- Each line is logged in on at most one button, and the tables say on which. -/
structure Inverse (r : MobilityRegistry Settings) : Prop where
  slot_key : ∀ slot a, r.bySlot.get? slot = some a → a.slot = slot
  line_of_slot : ∀ slot a, r.bySlot.get? slot = some a → r.slotByLine.get? a.number = some slot
  slot_of_line : ∀ line slot, r.slotByLine.get? line = some slot →
    ∃ a, r.bySlot.get? slot = some a ∧ a.number = line

/-- The books of the registry: logins, and reservations of pending transactions. -/
structure Exact (r : MobilityRegistry Settings) : Prop where
  inverse : r.Inverse
  slots : Claims.Exact PreparedMobilityTransaction.slots r.pending r.reservedSlots
  lines : Claims.Exact PreparedMobilityTransaction.lines r.pending r.reservedLines
  slots_apart : ∀ i j s t, r.pending.get? i = some s → r.pending.get? j = some t →
    ∀ slot, slot ∈ s.slots → slot ∈ t.slots → i = j
  lines_apart : ∀ i j s t, r.pending.get? i = some s → r.pending.get? j = some t →
    ∀ line, line ∈ s.lines → line ∈ t.lines → i = j

/-- A transaction can be carried out on the committed logins. -/
structure Ready (r : MobilityRegistry Settings) (t : PreparedMobilityTransaction Settings) :
    Prop where
  previous : ∀ p, t.previous = some p → r.bySlot.get? p.slot = some p
  next_slot : ∀ n, t.next = some n → r.bySlot.get? n.slot = none
  next_line : ∀ n, t.next = some n → r.appearanceForLine n.number = t.previous

structure Coherent (r : MobilityRegistry Settings) : Prop where
  inverse : r.Inverse
  slots : Claims.Exact PreparedMobilityTransaction.slots r.pending r.reservedSlots
  lines : Claims.Exact PreparedMobilityTransaction.lines r.pending r.reservedLines
  ids : ∀ i t, r.pending.get? i = some t → t.id = i ∧ i.val ≤ r.nextTransactionId
  ready : ∀ i t, r.pending.get? i = some t → r.Ready t

theorem Coherent.exact (h : r.Coherent) : r.Exact where
  inverse := h.inverse
  slots := h.slots
  lines := h.lines
  slots_apart _ _ _ _ hs ht _ := h.slots.apart hs ht
  lines_apart _ _ _ _ hs ht _ := h.lines.apart hs ht

theorem coherent_new : (new : MobilityRegistry Settings).Coherent where
  inverse :=
    ⟨fun _ _ h => absurd h (by simp [new, Table.get?_empty]),
      fun _ _ h => absurd h (by simp [new, Table.get?_empty]),
      fun _ _ h => absurd h (by simp [new, Table.get?_empty])⟩
  slots := Claims.exact_empty
  lines := Claims.exact_empty
  ids _ _ h := absurd h (by simp [new, Table.get?_empty])
  ready _ _ h := absurd h (by simp [new, Table.get?_empty])

/-! ## Edits of the committed logins -/

theorem Inverse.remove (h : r.Inverse) (ha : r.bySlot.get? a.slot = some a) :
    (r.removeAppearance a).Inverse := by
  refine ⟨fun slot b hb => ?_, fun slot b hb => ?_, fun line slot hs => ?_⟩
  · simp only [removeAppearance, Table.get?_erase] at hb
    split at hb
    · cases hb
    · exact h.slot_key slot b hb
  · simp only [removeAppearance, Table.get?_erase] at hb ⊢
    split at hb
    · cases hb
    next hslot =>
    -- another button shows another line
    have hline : b.number ≠ a.binding.line.number := by
      intro heq
      have hb' := h.line_of_slot slot b hb
      have ha' := h.line_of_slot a.slot a ha
      rw [heq] at hb'
      exact hslot (Option.mem_unique hb' ha')
    rw [if_neg hline]
    exact h.line_of_slot slot b hb
  · simp only [removeAppearance, Table.get?_erase] at hs ⊢
    split at hs
    · cases hs
    next hline =>
    obtain ⟨b, hb, hnumber⟩ := h.slot_of_line line slot hs
    have hslot : slot ≠ a.slot := by
      rintro rfl
      rw [ha] at hb
      cases hb
      exact hline hnumber.symm
    exact ⟨b, by rw [if_neg hslot, hb], hnumber⟩

theorem Inverse.install (h : r.Inverse) (hslot : r.bySlot.get? a.slot = none)
    (hline : r.slotByLine.get? a.number = none) : (r.installAppearance a).Inverse := by
  refine ⟨fun slot b hb => ?_, fun slot b hb => ?_, fun line slot hs => ?_⟩
  · simp only [installAppearance, Table.get?_insert] at hb
    split at hb
    · next heq =>
      cases hb
      exact heq.symm
    · exact h.slot_key slot b hb
  · simp only [installAppearance, Table.get?_insert] at hb ⊢
    split at hb
    · next heq =>
      cases hb
      rw [heq]
      exact if_pos rfl
    have hb' := h.line_of_slot slot b hb
    have hne : b.number ≠ a.binding.line.number := by
      intro heq
      rw [heq] at hb'
      exact absurd (hb'.symm.trans hline) (by simp)
    rw [if_neg hne, hb']
  · simp only [installAppearance, Table.get?_insert] at hs ⊢
    split at hs
    · next heq =>
      cases hs
      exact ⟨a, if_pos rfl, heq.symm⟩
    obtain ⟨b, hb, hnumber⟩ := h.slot_of_line line slot hs
    have hne : slot ≠ a.slot := by
      rintro rfl
      rw [hslot] at hb
      cases hb
    exact ⟨b, by rw [if_neg hne, hb], hnumber⟩

/-- The appearance of a line is the committed one that carries it. -/
theorem Inverse.appearanceForLine_eq_some (h : r.Inverse) {line : String} :
    r.appearanceForLine line = some a ↔ r.bySlot.get? a.slot = some a ∧ a.number = line := by
  unfold appearanceForLine
  constructor
  · intro happearance
    obtain ⟨slot, hslot, ha⟩ := Option.bind_eq_some_iff.mp happearance
    obtain ⟨b, hb, hnumber⟩ := h.slot_of_line line slot hslot
    rw [ha] at hb
    cases hb
    have hkey := h.slot_key slot a ha
    exact ⟨by rw [hkey, ha], hnumber⟩
  · rintro ⟨ha, rfl⟩
    exact Option.bind_eq_some_iff.mpr ⟨a.slot, h.line_of_slot a.slot a ha, ha⟩

/-- A line that no button carries is in no table. -/
theorem Inverse.slotByLine_eq_none (h : r.Inverse) {line : String}
    (hnone : r.appearanceForLine line = none) : r.slotByLine.get? line = none := by
  by_contra hsome
  obtain ⟨slot, hslot⟩ := Option.ne_none_iff_exists'.mp hsome
  obtain ⟨a, ha, -⟩ := h.slot_of_line line slot hslot
  have happearance : r.appearanceForLine line = some a :=
    Option.bind_eq_some_iff.mpr ⟨slot, hslot, ha⟩
  rw [hnone] at happearance
  cases happearance

/-! ## Carrying a transaction out -/

section Exchange

variable {t u : PreparedMobilityTransaction Settings}

theorem mem_slots {slot : MobilitySlot} :
    slot ∈ t.slots ↔ (∃ p, t.previous = some p ∧ p.slot = slot) ∨
      ∃ n, t.next = some n ∧ n.slot = slot := by
  simp [PreparedMobilityTransaction.slots, PreparedMobilityTransaction.touched]

theorem mem_lines {line : String} :
    line ∈ t.lines ↔ (∃ p, t.previous = some p ∧ p.number = line) ∨
      ∃ n, t.next = some n ∧ n.number = line := by
  simp [PreparedMobilityTransaction.lines, PreparedMobilityTransaction.touched]

@[simp] theorem exchange_pending : (r.exchange t).pending = r.pending := by
  obtain ⟨id, previous, next⟩ := t
  cases previous <;> cases next <;> rfl

@[simp] theorem exchange_reservedSlots : (r.exchange t).reservedSlots = r.reservedSlots := by
  obtain ⟨id, previous, next⟩ := t
  cases previous <;> cases next <;> rfl

@[simp] theorem exchange_reservedLines : (r.exchange t).reservedLines = r.reservedLines := by
  obtain ⟨id, previous, next⟩ := t
  cases previous <;> cases next <;> rfl

@[simp] theorem exchange_nextTransactionId :
    (r.exchange t).nextTransactionId = r.nextTransactionId := by
  obtain ⟨id, previous, next⟩ := t
  cases previous <;> cases next <;> rfl

/-- What a button carries after an exchange. -/
theorem get?_bySlot_exchange (slot : MobilitySlot) :
    (r.exchange t).bySlot.get? slot =
      if t.next.any fun n => n.slot = slot then t.next
      else if t.previous.any fun p => p.slot = slot then none
      else r.bySlot.get? slot := by
  obtain ⟨id, previous, next⟩ := t
  cases previous <;> cases next <;>
    simp [exchange, removeAppearance, installAppearance, Table.get?_insert, Table.get?_erase,
      eq_comm]

theorem get?_slotByLine_exchange (line : String) :
    (r.exchange t).slotByLine.get? line =
      if t.next.any fun n => n.number = line then t.next.map RoamingAppearance.slot
      else if t.previous.any fun p => p.number = line then none
      else r.slotByLine.get? line := by
  obtain ⟨id, previous, next⟩ := t
  cases previous <;> cases next <;>
    simp [exchange, removeAppearance, installAppearance, Table.get?_insert, Table.get?_erase,
      RoamingAppearance.number, eq_comm]

theorem any_iff {p : RoamingAppearance Settings → Prop} [DecidablePred p]
    {appearance : Option (RoamingAppearance Settings)} :
    (appearance.any fun a => p a) = true ↔ ∃ a, appearance = some a ∧ p a := by
  cases appearance with
  | none => simp
  | some a => simp

theorem get?_bySlot_exchange_of_notMem {slot : MobilitySlot} (h : slot ∉ t.slots) :
    (r.exchange t).bySlot.get? slot = r.bySlot.get? slot := by
  rw [mem_slots, not_or] at h
  rw [get?_bySlot_exchange, if_neg fun hn => h.2 (any_iff.mp hn),
    if_neg fun hp => h.1 (any_iff.mp hp)]

theorem get?_slotByLine_exchange_of_notMem {line : String} (h : line ∉ t.lines) :
    (r.exchange t).slotByLine.get? line = r.slotByLine.get? line := by
  rw [mem_lines, not_or] at h
  rw [get?_slotByLine_exchange, if_neg fun hn => h.2 (any_iff.mp hn),
    if_neg fun hp => h.1 (any_iff.mp hp)]

theorem Inverse.exchange (h : r.Inverse) (ht : r.Ready t) : (r.exchange t).Inverse := by
  obtain ⟨id, previous, next⟩ := t
  cases previous with
  | none =>
    cases next with
    | none => exact h
    | some n => exact h.install (ht.next_slot n rfl) (h.slotByLine_eq_none (ht.next_line n rfl))
  | some p =>
    have hremoved : (r.removeAppearance p).Inverse := h.remove (ht.previous p rfl)
    cases next with
    | none => exact hremoved
    | some n =>
      -- the line that moves is the one that was taken out
      obtain ⟨-, hnumber⟩ := h.appearanceForLine_eq_some.mp (ht.next_line n rfl)
      refine hremoved.install ?_ ?_
      · change (r.bySlot.erase p.slot).get? n.slot = none
        rw [Table.get?_erase, ht.next_slot n rfl, ite_self]
      · change (r.slotByLine.erase p.number).get? n.number = none
        rw [Table.get?_erase, if_pos hnumber.symm]

/-- A transaction that touches nothing of another one leaves it ready. -/
theorem Ready.exchange (h : r.Inverse) (ht : r.Ready t) (hu : r.Ready u)
    (hslots : ∀ slot ∈ u.slots, slot ∉ t.slots) (hlines : ∀ line ∈ u.lines, line ∉ t.lines) :
    (r.exchange t).Ready u := by
  refine ⟨fun p hp => ?_, fun n hn => ?_, fun n hn => ?_⟩
  · rw [get?_bySlot_exchange_of_notMem (hslots _ (mem_slots.mpr (.inl ⟨p, hp, rfl⟩)))]
    exact hu.previous p hp
  · rw [get?_bySlot_exchange_of_notMem (hslots _ (mem_slots.mpr (.inr ⟨n, hn, rfl⟩)))]
    exact hu.next_slot n hn
  have hline : n.number ∉ t.lines := hlines _ (mem_lines.mpr (.inr ⟨n, hn, rfl⟩))
  rw [← hu.next_line n hn]
  unfold appearanceForLine
  rw [get?_slotByLine_exchange_of_notMem hline]
  cases hslot : r.slotByLine.get? n.number with
  | none => rfl
  | some slot =>
    obtain ⟨a, ha, hnumber⟩ := h.slot_of_line _ _ hslot
    -- a button of `t` carries a line of `t`, or none
    have hnot : slot ∉ t.slots := by
      rw [mem_slots]
      rintro (⟨p, hp, rfl⟩ | ⟨m, hm, rfl⟩)
      · have hp' := ht.previous p hp
        rw [ha] at hp'
        cases hp'
        exact hline (mem_lines.mpr (.inl ⟨a, hp, hnumber⟩))
      · rw [ht.next_slot m hm] at ha
        cases ha
    exact get?_bySlot_exchange_of_notMem hnot

end Exchange

variable {t : PreparedMobilityTransaction Settings}

/-! ## Steps keep the books -/

/-- A transaction that may be opened: it has the next identity, nothing it touches is
    reserved, and it can be carried out. -/
structure Admissible (r : MobilityRegistry Settings) (t : PreparedMobilityTransaction Settings) :
    Prop where
  id : t.id.val = r.nextTransactionId + 1
  slots : ∀ slot ∈ t.slots, r.reservedSlots.get? slot = none
  lines : ∀ line ∈ t.lines, r.reservedLines.get? line = none
  ready : r.Ready t

theorem Coherent.openTransaction (h : r.Coherent) (ht : r.Admissible t) :
    (r.openTransaction t).Coherent := by
  have hfresh : r.pending.get? t.id = none := by
    by_contra hsome
    obtain ⟨u, hu⟩ := Option.ne_none_iff_exists'.mp hsome
    have hid := ht.id
    have hle := (h.ids t.id u hu).2
    omega
  refine ⟨⟨h.inverse.slot_key, h.inverse.line_of_slot, h.inverse.slot_of_line⟩,
    h.slots.open_record hfresh ht.slots, h.lines.open_record hfresh ht.lines, ?_, ?_⟩
  · intro i u hu
    change (r.pending.insert t.id t).get? i = some u at hu
    change u.id = i ∧ i.val ≤ t.id.val
    rw [Table.get?_insert] at hu
    split at hu
    · next heq =>
      cases hu
      exact ⟨heq.symm, by rw [heq]⟩
    · have hid := ht.id
      obtain ⟨hkey, hle⟩ := h.ids i u hu
      exact ⟨hkey, by omega⟩
  · intro i u hu
    change (r.pending.insert t.id t).get? i = some u at hu
    rw [Table.get?_insert] at hu
    split at hu
    · cases hu
      exact ⟨ht.ready.previous, ht.ready.next_slot, ht.ready.next_line⟩
    · obtain ⟨hprevious, hslot, hline⟩ := h.ready i u hu
      exact ⟨hprevious, hslot, hline⟩

theorem get?_pending_release {i : MobilityTransactionId} :
    (r.releaseReservations t).pending.get? i = if i = t.id then none else r.pending.get? i :=
  Table.get?_erase ..

theorem Coherent.releaseReservations (h : r.Coherent) (ht : r.pending.get? t.id = some t) :
    (r.releaseReservations t).Coherent := by
  refine ⟨⟨h.inverse.slot_key, h.inverse.line_of_slot, h.inverse.slot_of_line⟩,
    h.slots.close_record ht, h.lines.close_record ht, ?_, ?_⟩
  · intro i u hu
    rw [get?_pending_release] at hu
    split at hu
    · cases hu
    · exact h.ids i u hu
  intro i u hu
  rw [get?_pending_release] at hu
  split at hu
  · cases hu
  · obtain ⟨hprevious, hslot, hline⟩ := h.ready i u hu
    exact ⟨hprevious, hslot, hline⟩

/-- The logins after a commit. -/
def settle (r : MobilityRegistry Settings) (t : PreparedMobilityTransaction Settings) :
    MobilityRegistry Settings :=
  (r.releaseReservations t).exchange t

theorem Coherent.settle (h : r.Coherent) (ht : r.pending.get? t.id = some t) :
    (r.settle t).Coherent := by
  have hreleased := h.releaseReservations ht
  obtain ⟨hprevious, hslot, hline⟩ := h.ready _ t ht
  have hready : (r.releaseReservations t).Ready t := ⟨hprevious, hslot, hline⟩
  unfold MobilityRegistry.settle
  refine ⟨hreleased.inverse.exchange hready, ?_, ?_, ?_, ?_⟩
  · rw [exchange_pending, exchange_reservedSlots]
    exact hreleased.slots
  · rw [exchange_pending, exchange_reservedLines]
    exact hreleased.lines
  · rw [exchange_pending, exchange_nextTransactionId]
    exact hreleased.ids
  rw [exchange_pending]
  intro i u hu
  have hready' := hreleased.ready i u hu
  rw [get?_pending_release] at hu
  split at hu
  · cases hu
  next hne =>
  -- the other transactions touch nothing of this one
  refine hready.exchange hreleased.inverse hready' (fun slot hmem hmem' => ?_)
    fun line hmem hmem' => ?_
  · exact hne (h.slots.apart hu ht hmem hmem')
  · exact hne (h.lines.apart hu ht hmem hmem')

/-! ## What an operation can do -/

theorem ensureAvailable_ok {slot : MobilitySlot} {line : String} {source : Option MobilitySlot} :
    r.ensureAvailable slot line source = .ok () ↔ r.reservedSlots.get? slot = none
      ∧ (∀ s, source = some s → r.reservedSlots.get? s = none)
      ∧ r.reservedLines.get? line = none := by
  unfold ensureAvailable
  cases source <;> simp [Table.contains, and_assoc]

/-- The transaction that moves a line to a button. -/
def move (r : MobilityRegistry Settings) (slot : MobilitySlot) (line : LineConfig Settings)
    (lineInstance : Nat) : PreparedMobilityTransaction Settings :=
  ⟨⟨r.nextTransactionId + 1⟩, r.appearanceForLine line.number,
    some (roamingAppearance slot line lineInstance)⟩

/-- A login fails, finds the line on its button, or opens a move to it. -/
theorem prepareLogin_cases (h : r.Inverse) (slot : MobilitySlot) (line : LineConfig Settings)
    (configured : List Nat) :
    (∃ e, r.prepareLogin slot line configured = (.error e, r))
    ∨ (∃ a, r.bySlot.get? slot = some a ∧ a.number = line.number
      ∧ r.prepareLogin slot line configured = (.ok (.unchanged a), r))
    ∨ ∃ lineInstance, freeLineInstance (r.occupied slot.deviceId configured) = some lineInstance
      ∧ r.Admissible (r.move slot line lineInstance)
      ∧ r.prepareLogin slot line configured = (.ok (.transaction (r.move slot line lineInstance)),
        r.openTransaction (r.move slot line lineInstance)) := by
  unfold prepareLogin
  split
  · next existing hexisting =>
    split
    · next hnumber => exact .inr (.inl ⟨existing, hexisting, hnumber, rfl⟩)
    · exact .inl ⟨_, rfl⟩
  next hslot =>
  unfold prepareMove
  dsimp only
  split
  · exact .inl ⟨_, rfl⟩
  next havailable =>
  obtain ⟨hfree, hsource, hline⟩ := ensureAvailable_ok.mp havailable
  split
  · exact .inl ⟨_, rfl⟩
  next lineInstance hinstance =>
  unfold reserve
  split
  · exact .inl ⟨_, rfl⟩
  refine .inr (.inr ⟨lineInstance, hinstance, ?_, rfl⟩)
  -- what the move touches is the source, the button and the line
  refine ⟨rfl, fun s hs => ?_, fun l hl => ?_, ⟨fun p hp => ?_, fun n hn => ?_, fun n hn => ?_⟩⟩
  · rcases mem_slots.mp hs with ⟨p, hp, rfl⟩ | ⟨n, hn, rfl⟩
    · exact hsource p.slot (by rw [show r.appearanceForLine line.number = some p from hp]; rfl)
    · cases hn
      exact hfree
  · rcases mem_lines.mp hl with ⟨p, hp, rfl⟩ | ⟨n, hn, rfl⟩
    · rw [(h.appearanceForLine_eq_some.mp hp).2]
      exact hline
    · cases hn
      exact hline
  · exact (h.appearanceForLine_eq_some.mp hp).1
  · cases hn
    exact hslot
  · cases hn
    rfl

/-- A logout fails or opens the removal of what the button carries. -/
theorem prepareLogout_cases (h : r.Inverse) (slot : MobilitySlot) :
    (∃ e, r.prepareLogout slot = (.error e, r))
    ∨ ∃ a, r.bySlot.get? slot = some a
      ∧ r.Admissible ⟨⟨r.nextTransactionId + 1⟩, some a, none⟩
      ∧ r.prepareLogout slot = (.ok ⟨⟨r.nextTransactionId + 1⟩, some a, none⟩,
        r.openTransaction ⟨⟨r.nextTransactionId + 1⟩, some a, none⟩) := by
  unfold prepareLogout
  split
  · exact .inl ⟨_, rfl⟩
  next a ha =>
  split
  · exact .inl ⟨_, rfl⟩
  next havailable =>
  obtain ⟨hfree, -, hline⟩ := ensureAvailable_ok.mp havailable
  unfold reserve
  split
  · exact .inl ⟨_, rfl⟩
  have hkey := h.slot_key slot a ha
  have hnone : ∀ n : RoamingAppearance Settings, none ≠ some n := fun n =>
    (Option.some_ne_none n).symm
  refine .inr ⟨a, ha, ⟨rfl, fun s hs => ?_, fun l hl => ?_, fun p hp => ?_,
    fun n hn => absurd hn (hnone n), fun n hn => absurd hn (hnone n)⟩, rfl⟩
  · rcases mem_slots.mp hs with ⟨p, hp, rfl⟩ | ⟨n, hn, rfl⟩
    · cases hp
      rw [hkey]
      exact hfree
    · cases hn
  · rcases mem_lines.mp hl with ⟨p, hp, rfl⟩ | ⟨n, hn, rfl⟩
    · cases hp
      exact hline
    · cases hn
  · cases hp
    rw [hkey]
    exact ha

theorem mem_committed (h : r.Inverse) : a ∈ r.committed ↔ r.bySlot.get? a.slot = some a := by
  unfold committed
  rw [List.mem_map]
  constructor
  · rintro ⟨⟨slot, b⟩, hmem, rfl⟩
    have hget : r.bySlot.get? slot = some b :=
      Table.get?_eq_some.mpr ((List.mem_insertionSort _).mp hmem)
    have hkey : b.slot = slot := h.slot_key slot b hget
    change r.bySlot.get? b.slot = some b
    rw [hkey, hget]
  · intro ha
    exact ⟨(a.slot, a), (List.mem_insertionSort _).mpr (Table.get?_eq_some.mp ha), rfl⟩

theorem committed_pairwise (h : r.Inverse) : r.committed.Pairwise fun a b => a.slot ≠ b.slot := by
  have hnodup : (r.bySlot.entries.insertionSort fun a b => MobilitySlot.le a.1 b.1).Pairwise
      fun a b => a.1 ≠ b.1 :=
    (List.perm_insertionSort _ _).symm.pairwise_iff (fun hne heq => hne heq.symm) |>.mp
      (List.pairwise_map.mp r.bySlot.nodup)
  unfold committed
  rw [List.pairwise_map]
  refine hnodup.imp_of_mem fun {a b} ha hb hne heq => ?_
  -- an entry is filed under the button of its appearance
  have hkey : ∀ e ∈ r.bySlot.entries.insertionSort fun a b => MobilitySlot.le a.1 b.1,
      e.2.slot = e.1 := by
    intro e he
    exact h.slot_key e.1 e.2 (Table.get?_eq_some.mpr ((List.mem_insertionSort _).mp he))
  rw [hkey a ha, hkey b hb] at heq
  exact hne heq

/-- Appearances of different buttons can be taken out one after the other. -/
theorem Inverse.removeAll (h : r.Inverse) {gone : List (RoamingAppearance Settings)}
    (hcommitted : ∀ a ∈ gone, r.bySlot.get? a.slot = some a)
    (hslots : gone.Pairwise fun a b => a.slot ≠ b.slot) :
    (gone.foldl removeAppearance r).Inverse := by
  induction gone generalizing r with
  | nil => exact h
  | cons a rest ih =>
    obtain ⟨hfirst, hrest⟩ := List.pairwise_cons.mp hslots
    refine ih (h.remove (hcommitted a List.mem_cons_self)) (fun b hb => ?_) hrest
    change (r.bySlot.erase a.slot).get? b.slot = some b
    rw [Table.get?_erase, if_neg (hfirst b hb).symm]
    exact hcommitted b (List.mem_cons_of_mem a hb)

theorem foldl_removeAppearance_pending (gone : List (RoamingAppearance Settings)) :
    (gone.foldl removeAppearance r).pending = r.pending
      ∧ (gone.foldl removeAppearance r).reservedSlots = r.reservedSlots
      ∧ (gone.foldl removeAppearance r).reservedLines = r.reservedLines := by
  induction gone generalizing r with
  | nil => exact ⟨rfl, rfl, rfl⟩
  | cons a rest ih => exact ih

/-- A new configuration is applied only when nothing is pending. -/
theorem removeInvalid_cases (h : r.Inverse) (valid : RoamingAppearance Settings → Bool) :
    (∃ e, r.removeInvalid valid = (.error e, r))
    ∨ ∃ gone : List (RoamingAppearance Settings), r.pending.entries = []
      ∧ (∀ a ∈ gone, r.bySlot.get? a.slot = some a)
      ∧ gone.Pairwise (fun a b => a.slot ≠ b.slot)
      ∧ r.removeInvalid valid = (.ok gone, gone.foldl removeAppearance r) := by
  unfold removeInvalid
  split
  · exact .inl ⟨_, rfl⟩
  next hsize =>
  refine .inr ⟨_, List.eq_nil_of_length_eq_zero (not_not.mp hsize), fun a ha => ?_, ?_, rfl⟩
  · exact (mem_committed h).mp (List.mem_of_mem_filter ha)
  · exact (committed_pairwise h).sublist List.filter_sublist

theorem Coherent.removeAll (h : r.Coherent) (hpending : r.pending.entries = [])
    {gone : List (RoamingAppearance Settings)}
    (hcommitted : ∀ a ∈ gone, r.bySlot.get? a.slot = some a)
    (hslots : gone.Pairwise fun a b => a.slot ≠ b.slot) :
    (gone.foldl removeAppearance r).Coherent := by
  obtain ⟨hkeep, hkeepSlots, hkeepLines⟩ := foldl_removeAppearance_pending (r := r) gone
  have hnone : ∀ i t, (gone.foldl removeAppearance r).pending.get? i ≠ some t := by
    intro i t ht
    rw [hkeep, Table.get?_eq_some, hpending] at ht
    cases ht
  refine ⟨h.inverse.removeAll hcommitted hslots, ?_, ?_, fun i t ht => absurd ht (hnone i t),
    fun i t ht => absurd ht (hnone i t)⟩
  · rw [hkeep, hkeepSlots]
    exact h.slots
  · rw [hkeep, hkeepLines]
    exact h.lines

section Commands

variable [DecidableEq Settings]

/-- A commit is refused, or carries the pending transaction out. -/
theorem commit_eq (t : PreparedMobilityTransaction Settings) :
    r.commit t = if r.pending.get? t.id = some t then (.ok (), r.settle t)
      else (.error .staleTransaction, r) := by
  unfold commit
  split
  · next hnone => rw [if_neg (by simp [hnone])]
  next pending hpending =>
  split
  · next hne => rw [if_neg (by simpa [hpending] using hne)]
  next heq =>
  rw [not_not.mp heq] at hpending ⊢
  rw [if_pos hpending]
  rfl

theorem abort_eq (t : PreparedMobilityTransaction Settings) :
    r.abort t = if r.pending.get? t.id = some t then (.ok (), r.releaseReservations t)
      else (.error .staleTransaction, r) := by
  unfold abort
  split
  · next hnone => rw [if_neg (by simp [hnone])]
  next pending hpending =>
  split
  · next hne => rw [if_neg (by simpa [hpending] using hne)]
  · next heq =>
    rw [not_not.mp heq] at hpending ⊢
    rw [if_pos hpending]

/-- Every operation keeps the books. -/
theorem Coherent.step (h : r.Coherent) (operation : Operation Settings) :
    (r.step operation).Coherent := by
  cases operation with
  | prepareLogin slot line configured =>
    change (r.prepareLogin slot line configured).2.Coherent
    rcases prepareLogin_cases h.inverse slot line configured with
      ⟨e, heq⟩ | ⟨a, -, -, heq⟩ | ⟨lineInstance, -, ht, heq⟩
    · rw [heq]
      exact h
    · rw [heq]
      exact h
    · rw [heq]
      exact h.openTransaction ht
  | prepareLogout slot =>
    change (r.prepareLogout slot).2.Coherent
    rcases prepareLogout_cases h.inverse slot with ⟨e, heq⟩ | ⟨a, -, ht, heq⟩
    · rw [heq]
      exact h
    · rw [heq]
      exact h.openTransaction ht
  | commit t =>
    change (r.commit t).2.Coherent
    rw [commit_eq]
    split
    · next ht => exact h.settle ht
    · exact h
  | abort t =>
    change (r.abort t).2.Coherent
    rw [abort_eq]
    split
    · next ht => exact h.releaseReservations ht
    · exact h
  | removeInvalid valid =>
    change (r.removeInvalid valid).2.Coherent
    rcases removeInvalid_cases h.inverse valid with ⟨e, heq⟩ | ⟨gone, hnone, hgone, hslots, heq⟩
    · rw [heq]
      exact h
    · rw [heq]
      exact h.removeAll hnone hgone hslots

end Commands

end MobilityRegistry

/-! ## Exact and exclusive transactions -/

/-- The appearances that the answer to a login is about. -/
def MobilityPreparation.touched : MobilityPreparation Settings → List (RoamingAppearance Settings)
  | .unchanged existing => [existing]
  | .transaction prepared => prepared.touched

namespace MobilityRegistry

/-- No pending transaction touches the button or the line. -/
def Untouched (r : MobilityRegistry Settings) (slot : MobilitySlot) (line : String) : Prop :=
  ∀ i t, r.pending.get? i = some t → slot ∉ t.slots ∧ line ∉ t.lines

/-- The same logins, pending transactions and reservations. -/
structure SameBooks (r r' : MobilityRegistry Settings) : Prop where
  bySlot : r'.bySlot = r.bySlot
  slotByLine : r'.slotByLine = r.slotByLine
  pending : r'.pending = r.pending
  reservedSlots : r'.reservedSlots = r.reservedSlots
  reservedLines : r'.reservedLines = r.reservedLines

theorem sameBooks_self (r : MobilityRegistry Settings) : r.SameBooks r := ⟨rfl, rfl, rfl, rfl, rfl⟩

theorem Coherent.untouched (h : r.Coherent) {slot : MobilitySlot} {line : String}
    (hslot : r.reservedSlots.get? slot = none) (hline : r.reservedLines.get? line = none) :
    r.Untouched slot line :=
  fun _ _ ht => ⟨h.slots.notMem_of_none ht hslot, h.lines.notMem_of_none ht hline⟩

theorem Coherent.untouched_of_admissible (h : r.Coherent)
    {t : PreparedMobilityTransaction Settings} (ht : r.Admissible t)
    {a : RoamingAppearance Settings} (ha : a ∈ t.touched) : r.Untouched a.slot a.number :=
  h.untouched (ht.slots _ (List.mem_map_of_mem ha)) (ht.lines _ (List.mem_map_of_mem ha))

/-- A transaction that touches a line which a button carries touches the button. -/
theorem Coherent.slot_mem_of_line_mem (h : r.Coherent) {i : MobilityTransactionId}
    {t : PreparedMobilityTransaction Settings} (ht : r.pending.get? i = some t)
    {slot : MobilitySlot} {a : RoamingAppearance Settings} (ha : r.bySlot.get? slot = some a)
    (hline : a.number ∈ t.lines) : slot ∈ t.slots := by
  have hkey := h.inverse.slot_key slot a ha
  have happearance : r.appearanceForLine a.number = some a :=
    h.inverse.appearanceForLine_eq_some.mpr ⟨by rw [hkey, ha], rfl⟩
  have hready := h.ready i t ht
  -- in either case the previous appearance of the transaction is the one on the button
  have hprevious : t.previous = some a := by
    rcases mem_lines.mp hline with ⟨p, hp, hnumber⟩ | ⟨n, hn, hnumber⟩
    · have hp' := h.inverse.appearanceForLine_eq_some.mpr ⟨hready.previous p hp, hnumber⟩
      rw [happearance] at hp'
      rw [hp, ← hp']
    · rw [← hready.next_line n hn, hnumber, happearance]
  exact mem_slots.mpr (.inl ⟨a, hprevious, hkey⟩)

section Commands

variable [DecidableEq Settings]

/-- What the operations promise: a failed preparation changes nothing, an answer is about
    nothing that is reserved, a transaction that is not pending is refused, and an abort
    leaves the logins alone. -/
def Transacted (r : MobilityRegistry Settings) : Operation Settings → Prop
  | .prepareLogin slot line configured =>
    (∀ e, (r.prepareLogin slot line configured).1 = .error e →
      r.SameBooks (r.prepareLogin slot line configured).2)
    ∧ ∀ answer, (r.prepareLogin slot line configured).1 = .ok answer →
      r.Untouched slot line.number ∧ ∀ a ∈ answer.touched, r.Untouched a.slot a.number
  | .prepareLogout slot =>
    (∀ e, (r.prepareLogout slot).1 = .error e → r.SameBooks (r.prepareLogout slot).2)
    ∧ ∀ t, (r.prepareLogout slot).1 = .ok t →
      ∃ a, t.touched = [a] ∧ a.slot = slot ∧ r.Untouched slot a.number
  | .commit t => r.pending.get? t.id ≠ some t → ∃ e, r.commit t = (.error e, r)
  | .abort t =>
    (r.pending.get? t.id ≠ some t → ∃ e, r.abort t = (.error e, r))
    ∧ (r.abort t).2.bySlot = r.bySlot ∧ (r.abort t).2.slotByLine = r.slotByLine
  | .removeInvalid _ => True

/-- A login for the line that the button carries already finds nothing pending there. -/
def Settled (r : MobilityRegistry Settings) : Operation Settings → Prop
  | .prepareLogin slot line _ => ∀ a, r.bySlot.get? slot = some a → a.number = line.number →
      ∀ i t, r.pending.get? i = some t → slot ∉ t.slots
  | _ => True

theorem Coherent.transacted_prepareLogin (h : r.Coherent) (slot : MobilitySlot)
    (line : LineConfig Settings) (configured : List Nat) :
    r.Transacted (.prepareLogin slot line configured)
      ↔ r.Settled (.prepareLogin slot line configured) := by
  simp only [Transacted, Settled]
  rcases prepareLogin_cases h.inverse slot line configured with
    ⟨e, heq⟩ | ⟨a, ha, hnumber, heq⟩ | ⟨lineInstance, -, ht, heq⟩
  · rw [heq]
    refine ⟨fun _ a ha hnumber => ?_, fun _ =>
      ⟨fun _ _ => sameBooks_self r, fun _ hok => nomatch hok⟩⟩
    -- the button carries the line, so the login does not fail
    unfold prepareLogin at heq
    rw [ha] at heq
    change (if a.number = line.number then _ else _) = _ at heq
    rw [if_pos hnumber] at heq
    cases heq
  · rw [heq]
    constructor
    · intro htransacted b hb _ i t hpending
      exact ((htransacted.2 _ rfl).1 i t hpending).1
    intro hsettled
    refine ⟨fun _ hfailed => (nomatch hfailed), fun answer hanswer => ?_⟩
    cases hanswer
    have huntouched : r.Untouched slot a.number := fun i t hpending =>
      ⟨hsettled a ha hnumber i t hpending, fun hline =>
        hsettled a ha hnumber i t hpending (h.slot_mem_of_line_mem hpending ha hline)⟩
    refine ⟨hnumber ▸ huntouched, fun b hb => ?_⟩
    rw [List.mem_singleton.mp hb, h.inverse.slot_key slot a ha]
    exact huntouched
  · rw [heq]
    refine ⟨fun _ a ha => ?_, fun _ => ⟨fun _ hfailed => (nomatch hfailed),
      fun answer hanswer => ?_⟩⟩
    · have hfree : r.bySlot.get? slot = none := ht.ready.next_slot _ rfl
      rw [hfree] at ha
      cases ha
    · cases hanswer
      refine ⟨?_, fun a ha => h.untouched_of_admissible ht ha⟩
      exact h.untouched_of_admissible ht (List.mem_append_right _ List.mem_cons_self)

theorem Coherent.transacted_prepareLogout (h : r.Coherent) (slot : MobilitySlot) :
    r.Transacted (.prepareLogout slot) := by
  simp only [Transacted]
  rcases prepareLogout_cases h.inverse slot with ⟨e, heq⟩ | ⟨a, ha, ht, heq⟩
  · rw [heq]
    exact ⟨fun _ _ => sameBooks_self r, fun _ hok => nomatch hok⟩
  rw [heq]
  refine ⟨fun _ hfailed => (nomatch hfailed), fun t hprepared => ?_⟩
  cases hprepared
  have hkey := h.inverse.slot_key slot a ha
  refine ⟨a, rfl, hkey, ?_⟩
  rw [← hkey]
  exact h.untouched_of_admissible ht List.mem_cons_self

theorem Coherent.transacted_iff (h : r.Coherent) (operation : Operation Settings) :
    r.Transacted operation ↔ r.Settled operation := by
  cases operation with
  | prepareLogin slot line configured => exact h.transacted_prepareLogin slot line configured
  | prepareLogout slot => exact iff_of_true (h.transacted_prepareLogout slot) trivial
  | commit t =>
    refine iff_of_true (fun hne => ?_) trivial
    rw [commit_eq, if_neg hne]
    exact ⟨_, rfl⟩
  | abort t =>
    refine iff_of_true ?_ trivial
    simp only [Transacted]
    rw [abort_eq]
    split
    · next ht => exact ⟨fun hne => absurd ht hne, rfl, rfl⟩
    · exact ⟨fun _ => ⟨_, rfl⟩, rfl, rfl⟩
  | removeInvalid valid => exact Iff.rfl

/-- **Mobility transactions are exact and exclusive.**  In every run the tables of buttons
    and lines are inverse, the reservations are those of the pending transactions and no two
    of these share a button or a line; and every operation does what it promises, just when
    no login asks for the line that its button carries while a transaction of that button
    is pending. -/
theorem mobility_transactions (operations : List (Operation Settings)) :
    Runs.Always step Exact new operations ∧ Runs.Each step Transacted new operations
      ↔ Runs.Each step Settled new operations := by
  have hexact : Runs.Always step Exact (new : MobilityRegistry Settings) operations :=
    Runs.always_of_each (I := Coherent) (fun _ h => h.exact) (fun _ e h _ => h.step e)
      coherent_new (Runs.each_true _ _)
  have heach := Runs.each_congr (I := Coherent) (fun _ e h => h.step e)
    (fun _ e h => h.transacted_iff e) (@coherent_new Settings) operations
  exact ⟨fun h => heach.mp h.2, fun h => ⟨hexact, heach.mpr h⟩⟩

end Commands

/-- A line is logged in, its logout is prepared, and the same login is asked for again. -/
def repeatedLogin (slot : MobilitySlot) (line : LineConfig Unit) : List (Operation Unit) :=
  let login : PreparedMobilityTransaction Unit := ⟨⟨1⟩, none, some (roamingAppearance slot line 1)⟩
  [.prepareLogin slot line [], .commit login, .prepareLogout slot, .prepareLogin slot line []]

/-- The repeated login is reported as in place; the logout that is pending removes it. -/
theorem repeated_login_is_lost :
    let slot : MobilitySlot := ⟨⟨"SEP001122334455"⟩, 1⟩
    let line : LineConfig Unit := ⟨"1001", "Desk", ()⟩
    let a := roamingAppearance slot line 1
    let r := Runs.run step (new : MobilityRegistry Unit) (repeatedLogin slot line)
    ¬ Runs.Each step Transacted (new : MobilityRegistry Unit) (repeatedLogin slot line)
      ∧ r.prepareLogin slot line [] = (.ok (.unchanged a), r)
      ∧ (r.commit ⟨⟨2⟩, some a, none⟩).2.bySlot.get? slot = none := by
  refine ⟨fun h => ?_, rfl, rfl⟩
  -- the last operation answers about a button of the pending logout
  have huntouched := (h.2.2.2.1.2 _ rfl).1 ⟨2⟩ _ rfl
  exact absurd huntouched.1 (by decide)

end MobilityRegistry

end Sccp.Mobility
