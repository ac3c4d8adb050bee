/-
  Sccp.Safety.MobilityInstances

  Line instances of roaming appearances (`call/mobility.rs`).

  A login takes the lowest line instance that the committed logins of its phone leave free.
  Logins of the phone that are still pending hold their instances too, and these must be
  told apart from it.
-/

import Sccp.Safety.Mobility

namespace Sccp.Mobility

open Sccp

variable {Settings : Type} {r : MobilityRegistry Settings}

/-- Two appearances on one phone with one line instance. -/
def Clash (a b : RoamingAppearance Settings) : Prop :=
  a.slot.deviceId = b.slot.deviceId ∧ a.binding.lineInstance = b.binding.lineInstance

theorem Clash.symm {a b : RoamingAppearance Settings} (h : Clash a b) : Clash b a :=
  ⟨h.1.symm, h.2.symm⟩

namespace MobilityRegistry

/-- The appearance is committed. -/
def Carried (r : MobilityRegistry Settings) (a : RoamingAppearance Settings) : Prop :=
  r.bySlot.get? a.slot = some a

/-- The appearance is installed when a pending transaction commits. -/
def Coming (r : MobilityRegistry Settings) (i : MobilityTransactionId)
    (n : RoamingAppearance Settings) : Prop :=
  ∃ t, r.pending.get? i = some t ∧ t.next = some n

/-- The committed appearances of a phone have different line instances, none of them
    configured, and each is found under its own. -/
structure Unique (configured : DeviceId → List Nat) (r : MobilityRegistry Settings) : Prop where
  carried : ∀ a b, r.Carried a → r.Carried b → Clash a b → a = b
  unconfigured : ∀ a, r.Carried a → a.binding.lineInstance ∉ configured a.slot.deviceId
  named : ∀ a, r.Carried a →
    r.bindingForDevice a.slot.deviceId a.binding.lineInstance = some a.binding

/-- The appearances that are committed or pending have different line instances. -/
structure Distinct (configured : DeviceId → List Nat) (r : MobilityRegistry Settings) : Prop where
  coherent : r.Coherent
  carried : ∀ a b, r.Carried a → r.Carried b → Clash a b → a = b
  coming : ∀ i n a, r.Coming i n → r.Carried a → ¬ Clash n a
  apart : ∀ i j n m, r.Coming i n → r.Coming j m → Clash n m → i = j
  unconfigured : ∀ a, r.Carried a → a.binding.lineInstance ∉ configured a.slot.deviceId
  unconfigured_coming : ∀ i n, r.Coming i n → n.binding.lineInstance ∉ configured n.slot.deviceId
  range : ∀ i n, r.Coming i n →
    1 ≤ n.binding.lineInstance ∧ n.binding.lineInstance ≤ MAX_MOBILITY_LINE_INSTANCE

variable {configured : DeviceId → List Nat}
variable {t : PreparedMobilityTransaction Settings} {a : RoamingAppearance Settings}

theorem distinct_new : (new : MobilityRegistry Settings).Distinct configured where
  coherent := coherent_new
  carried _ _ h := by cases h
  coming _ _ _ _ h := by cases h
  apart _ _ _ _ h := by obtain ⟨_, ht, _⟩ := h; cases ht
  unconfigured _ h := by cases h
  unconfigured_coming _ _ h := by obtain ⟨_, ht, _⟩ := h; cases ht
  range _ _ h := by obtain ⟨_, ht, _⟩ := h; cases ht

/-- A committed appearance is the only one that is found under its line instance. -/
theorem bindingForDevice_of_carried (hinverse : r.Inverse)
    (hcarried : ∀ a b, r.Carried a → r.Carried b → Clash a b → a = b) (ha : r.Carried a) :
    r.bindingForDevice a.slot.deviceId a.binding.lineInstance = some a.binding := by
  have hmem : a ∈ r.committed := (mem_committed hinverse).mpr ha
  unfold bindingForDevice
  have hsome : (r.committed.find? fun b => b.slot.deviceId = a.slot.deviceId
      && b.binding.lineInstance = a.binding.lineInstance).isSome := by
    rw [List.find?_isSome]
    exact ⟨a, hmem, by simp⟩
  obtain ⟨b, hb⟩ := Option.isSome_iff_exists.mp hsome
  have hclash : Clash b a := by simpa [Clash] using List.find?_some hb
  have hcarriedB : r.Carried b := (mem_committed hinverse).mp (List.mem_of_find?_eq_some hb)
  rw [hb, hcarried b a hcarriedB ha hclash]
  rfl

theorem Distinct.unique (h : r.Distinct configured) : r.Unique configured where
  carried := h.carried
  unconfigured := h.unconfigured
  named _ ha := bindingForDevice_of_carried h.coherent.inverse h.carried ha

/-! ## Steps that take nothing new -/

/-- Fewer appearances, committed and pending, have different line instances as well. -/
theorem Distinct.of_le (h : r.Distinct configured) {r' : MobilityRegistry Settings}
    (hcoherent : r'.Coherent) (hcarried : ∀ a, r'.Carried a → r.Carried a)
    (hcoming : ∀ i n, r'.Coming i n → r.Coming i n) : r'.Distinct configured where
  coherent := hcoherent
  carried a b ha hb := h.carried a b (hcarried a ha) (hcarried b hb)
  coming i n a hn ha := h.coming i n a (hcoming i n hn) (hcarried a ha)
  apart i j n m hn hm := h.apart i j n m (hcoming i n hn) (hcoming j m hm)
  unconfigured a ha := h.unconfigured a (hcarried a ha)
  unconfigured_coming i n hn := h.unconfigured_coming i n (hcoming i n hn)
  range i n hn := h.range i n (hcoming i n hn)

theorem coming_release {i : MobilityTransactionId} {n : RoamingAppearance Settings}
    (h : (r.releaseReservations t).Coming i n) : i ≠ t.id ∧ r.Coming i n := by
  obtain ⟨u, hu, hn⟩ := h
  rw [get?_pending_release] at hu
  split at hu
  · cases hu
  next hne => exact ⟨hne, u, hu, hn⟩

theorem carried_removeAll {gone : List (RoamingAppearance Settings)}
    (h : (gone.foldl removeAppearance r).Carried a) : r.Carried a := by
  induction gone generalizing r with
  | nil => exact h
  | cons b rest ih =>
    have hrest : (r.removeAppearance b).Carried a := ih h
    change (r.bySlot.erase b.slot).get? a.slot = some a at hrest
    rw [Table.get?_erase] at hrest
    split at hrest
    · cases hrest
    · exact hrest

theorem coming_openTransaction {i : MobilityTransactionId} {n : RoamingAppearance Settings} :
    (r.openTransaction t).Coming i n → r.Coming i n ∨ i = t.id ∧ t.next = some n := by
  rintro ⟨u, hu, hn⟩
  change (r.pending.insert t.id t).get? i = some u at hu
  rw [Table.get?_insert] at hu
  split at hu
  · next hid =>
    cases hu
    exact .inr ⟨hid, hn⟩
  · exact .inl ⟨u, hu, hn⟩

/-! ## Steps that take a line instance -/

/-- A committed appearance was committed before, or is the one that the commit installs. -/
theorem carried_settle (h : (r.settle t).Carried a) : t.next = some a ∨ r.Carried a := by
  unfold MobilityRegistry.settle Carried at h
  rw [get?_bySlot_exchange] at h
  split at h
  · exact .inl h
  split at h
  · cases h
  · exact .inr h

theorem Distinct.settle (h : r.Distinct configured) (ht : r.pending.get? t.id = some t) :
    (r.settle t).Distinct configured := by
  have hcoming : ∀ i n, (r.settle t).Coming i n → i ≠ t.id ∧ r.Coming i n := by
    rintro i n ⟨u, hu, hn⟩
    unfold MobilityRegistry.settle at hu
    rw [exchange_pending] at hu
    exact coming_release ⟨u, hu, hn⟩
  refine ⟨h.coherent.settle ht, fun a b ha hb hclash => ?_, fun i n a hn ha hclash => ?_,
    fun i j n m hn hm => h.apart i j n m (hcoming i n hn).2 (hcoming j m hm).2,
    fun a ha => ?_, fun i n hn => h.unconfigured_coming i n (hcoming i n hn).2,
    fun i n hn => h.range i n (hcoming i n hn).2⟩
  · -- what is installed had a line instance of its own while it was pending
    rcases carried_settle ha with hnext | ha' <;> rcases carried_settle hb with hnext' | hb'
    · rw [hnext] at hnext'
      exact Option.some_inj.mp hnext'
    · exact absurd hclash (h.coming t.id a b ⟨t, ht, hnext⟩ hb')
    · exact absurd hclash.symm (h.coming t.id b a ⟨t, ht, hnext'⟩ ha')
    · exact h.carried a b ha' hb' hclash
  · obtain ⟨hne, hn'⟩ := hcoming i n hn
    rcases carried_settle ha with hnext | ha'
    · exact hne (h.apart i t.id n a hn' ⟨t, ht, hnext⟩ hclash)
    · exact h.coming i n a hn' ha' hclash
  · rcases carried_settle ha with hnext | ha'
    · exact h.unconfigured_coming t.id a ⟨t, ht, hnext⟩
    · exact h.unconfigured a ha'

/-- A transaction may be opened whose next appearance clashes with no other. -/
theorem Distinct.openTransaction (h : r.Distinct configured) (ht : r.Admissible t)
    (hcarried : ∀ n a, t.next = some n → r.Carried a → ¬ Clash n a)
    (hcoming : ∀ n i m, t.next = some n → r.Coming i m → ¬ Clash n m)
    (hfree : ∀ n, t.next = some n → n.binding.lineInstance ∉ configured n.slot.deviceId)
    (hrange : ∀ n, t.next = some n →
      1 ≤ n.binding.lineInstance ∧ n.binding.lineInstance ≤ MAX_MOBILITY_LINE_INSTANCE) :
    (r.openTransaction t).Distinct configured := by
  refine ⟨h.coherent.openTransaction ht, h.carried, fun i n a hn ha => ?_,
    fun i j n m hn hm hclash => ?_, h.unconfigured, fun i n hn => ?_, fun i n hn => ?_⟩
  · rcases coming_openTransaction hn with hn' | ⟨-, hnext⟩
    · exact h.coming i n a hn' ha
    · exact hcarried n a hnext ha
  · rcases coming_openTransaction hn with hn' | ⟨hi, hnext⟩ <;>
      rcases coming_openTransaction hm with hm' | ⟨hj, hnext'⟩
    · exact h.apart i j n m hn' hm' hclash
    · exact absurd hclash.symm (hcoming m i n hnext' hn')
    · exact absurd hclash (hcoming n j m hnext hm')
    · rw [hi, hj]
  · rcases coming_openTransaction hn with hn' | ⟨-, hnext⟩
    · exact h.unconfigured_coming i n hn'
    · exact hfree n hnext
  · rcases coming_openTransaction hn with hn' | ⟨-, hnext⟩
    · exact h.range i n hn'
    · exact hrange n hnext

/-! ## The line instance of a login -/

theorem mem_occupied (h : r.Inverse) {deviceId : DeviceId} {instances : List Nat} {k : Nat} :
    k ∈ r.occupied deviceId instances ↔ k ∈ instances
      ∨ ∃ a, r.Carried a ∧ a.slot.deviceId = deviceId ∧ a.binding.lineInstance = k := by
  unfold occupied
  rw [List.mem_append, List.mem_map]
  refine or_congr Iff.rfl (exists_congr fun a => ?_)
  rw [List.mem_filter, mem_committed h, decide_eq_true_iff, and_assoc]
  rfl

theorem freeLineInstance_eq_some {occupied : List Nat} {k : Nat} :
    freeLineInstance occupied = some k ↔ (1 ≤ k ∧ k ≤ MAX_MOBILITY_LINE_INSTANCE)
      ∧ k ∉ occupied ∧ ∀ j, 1 ≤ j → j < k → j ∈ occupied := by
  unfold freeLineInstance
  rw [List.find?_range'_eq_some]
  simp only [decide_eq_true_eq, List.mem_range'_1, Bool.not_eq_true', decide_eq_false_iff_not,
    not_not]
  constructor
  · rintro ⟨hfree, hrange, hbelow⟩
    exact ⟨⟨hrange.1, by omega⟩, hfree, fun j hj hlt => hbelow j hj hlt⟩
  · rintro ⟨hrange, hfree, hbelow⟩
    exact ⟨hfree, ⟨hrange.1, by omega⟩, fun j hj hlt => hbelow j hj hlt⟩

/-- A login for the button opens a transaction, if its phone has a line instance left. -/
def Admitted (r : MobilityRegistry Settings) (slot : MobilitySlot)
    (line : LineConfig Settings) : Prop :=
  r.bySlot.get? slot = none ∧ r.ensureAvailable slot line.number
    ((r.appearanceForLine line.number).map RoamingAppearance.slot) = .ok ()

/-- A login is admitted only while each pending login of the phone has a line instance above
    one that is free. -/
def Spare (r : MobilityRegistry Settings) : Operation Settings → Prop
  | .prepareLogin slot line instances => r.Admitted slot line → ∀ i n, r.Coming i n →
      n.slot.deviceId = slot.deviceId →
      ∃ k, 1 ≤ k ∧ k < n.binding.lineInstance ∧ k ∉ r.occupied slot.deviceId instances
  | _ => True

end MobilityRegistry

/-- A login is given the configured line instances of its phone. -/
def Operation.Fixed (configured : DeviceId → List Nat) : Operation Settings → Prop
  | .prepareLogin slot _ instances => ∀ n, n ∈ instances ↔ n ∈ configured slot.deviceId
  | _ => True

namespace MobilityRegistry

variable {configured : DeviceId → List Nat}

/-! ## Runs -/

theorem admitted_of_admissible {slot : MobilitySlot} {line : LineConfig Settings} {k : Nat}
    (h : r.Admissible (r.move slot line k)) : r.Admitted slot line := by
  have hslot := h.slots slot (mem_slots.mpr (.inr ⟨_, rfl, rfl⟩))
  have hline := h.lines line.number (mem_lines.mpr (.inr ⟨_, rfl, rfl⟩))
  refine ⟨h.ready.next_slot _ rfl, ensureAvailable_ok.mpr ⟨hslot, fun s hs => ?_, hline⟩⟩
  obtain ⟨p, hp, rfl⟩ := Option.map_eq_some_iff.mp hs
  exact h.slots p.slot (mem_slots.mpr (.inl ⟨p, hp, rfl⟩))

/-- The line instance that a login takes is no other's of its phone. -/
theorem Distinct.openMove (h : r.Distinct configured) {slot : MobilitySlot}
    {line : LineConfig Settings} {instances : List Nat} {k : Nat}
    (hfixed : Operation.Fixed configured (.prepareLogin slot line instances))
    (hspare : r.Spare (.prepareLogin slot line instances))
    (hk : freeLineInstance (r.occupied slot.deviceId instances) = some k)
    (ht : r.Admissible (r.move slot line k)) :
    (r.openTransaction (r.move slot line k)).Distinct configured := by
  obtain ⟨hrange, hfree, hbelow⟩ := freeLineInstance_eq_some.mp hk
  refine h.openTransaction ht ?_ ?_ ?_ ?_
  · rintro n a ⟨⟩ ha hclash
    exact hfree ((mem_occupied h.coherent.inverse).mpr (.inr ⟨a, ha, hclash.1.symm, hclash.2.symm⟩))
  · -- below the instance of a pending login one is free, and the lowest is taken
    rintro n i m ⟨⟩ hm hclash
    obtain ⟨j, hj, hlt, hnot⟩ := hspare (admitted_of_admissible ht) i m hm hclash.1.symm
    have hsame : k = m.binding.lineInstance := hclash.2
    exact hnot (hbelow j hj (by omega))
  · rintro n ⟨⟩ hmem
    exact hfree ((mem_occupied h.coherent.inverse).mpr (.inl ((hfixed k).mpr hmem)))
  · rintro n ⟨⟩
    exact hrange

section Commands

variable [DecidableEq Settings]

theorem Distinct.step (h : r.Distinct configured) (operation : Operation Settings)
    (hfixed : operation.Fixed configured) (hspare : r.Spare operation) :
    (r.step operation).Distinct configured := by
  have hcoherent := h.coherent.step operation
  cases operation with
  | prepareLogin slot line instances =>
    change (r.prepareLogin slot line instances).2.Distinct configured
    rcases prepareLogin_cases h.coherent.inverse slot line instances with
      ⟨e, heq⟩ | ⟨a, -, -, heq⟩ | ⟨k, hk, ht, heq⟩
    · rw [heq]
      exact h
    · rw [heq]
      exact h
    · rw [heq]
      exact h.openMove hfixed hspare hk ht
  | prepareLogout slot =>
    change (r.prepareLogout slot).2.Distinct configured
    rcases prepareLogout_cases h.coherent.inverse slot with ⟨e, heq⟩ | ⟨a, -, ht, heq⟩
    · rw [heq]
      exact h
    rw [heq]
    -- a logout installs nothing
    refine h.openTransaction ht ?_ ?_ ?_ ?_
    · intro n _ hn
      cases hn
    · intro n _ _ hn
      cases hn
    · intro n hn
      cases hn
    · intro n hn
      cases hn
  | commit t =>
    change (r.commit t).2.Distinct configured
    rw [commit_eq]
    split
    · next ht => exact h.settle ht
    · exact h
  | abort t =>
    change (r.abort t).2.Distinct configured
    rw [abort_eq]
    split
    · next ht =>
      exact h.of_le (h.coherent.releaseReservations ht) (fun _ ha => ha)
        fun i n hn => (coming_release hn).2
    · exact h
  | removeInvalid valid =>
    change (r.removeInvalid valid).2.Distinct configured
    change (r.removeInvalid valid).2.Coherent at hcoherent
    rcases removeInvalid_cases h.coherent.inverse valid with
      ⟨e, heq⟩ | ⟨gone, -, -, -, heq⟩
    · rw [heq]
      exact h
    rw [heq] at hcoherent ⊢
    refine h.of_le hcoherent (fun a ha => carried_removeAll ha) ?_
    rintro i n ⟨t, ht, hn⟩
    rw [(foldl_removeAppearance_pending gone).1] at ht
    exact ⟨t, ht, hn⟩

/-- **Line instances stay unique** in every run in which each login of a phone that is still
    pending when another is admitted has a line instance above one that is free. -/
theorem line_instances_unique (operations : List (Operation Settings))
    (hfixed : ∀ operation ∈ operations, operation.Fixed configured)
    (hspare : Runs.Each step Spare new operations) :
    Runs.Always step (Unique configured) new operations :=
  Runs.always_of_each (I := Distinct configured) (fun _ h => h.unique)
    (fun _ operation h hstep => h.step operation hstep.1 hstep.2) distinct_new
    ((Runs.each_of_mem hfixed _).and hspare)

end Commands

/-! ## Two logins on one phone -/

/-- Two lines are logged in on two buttons of one phone; both logins are prepared before the
    first of them commits. -/
def overlappingLogins (phone : DeviceId) : List (Operation Unit) :=
  let first : RoamingAppearance Unit := roamingAppearance ⟨phone, 1⟩ ⟨"1001", "One", ()⟩ 1
  let second : RoamingAppearance Unit := roamingAppearance ⟨phone, 2⟩ ⟨"1002", "Two", ()⟩ 1
  [.prepareLogin first.slot first.binding.line [], .prepareLogin second.slot second.binding.line [],
    .commit ⟨⟨1⟩, none, some first⟩, .commit ⟨⟨2⟩, none, some second⟩]

/-- Both get the first line instance, and that names the first button alone. -/
theorem overlapping_logins_share_an_instance : let phone : DeviceId := ⟨"SEP001122334455"⟩
    let second : RoamingAppearance Unit := roamingAppearance ⟨phone, 2⟩ ⟨"1002", "Two", ()⟩ 1
    let r := Runs.run step (new : MobilityRegistry Unit) (overlappingLogins phone)
    (∀ operation ∈ overlappingLogins phone, operation.Fixed fun _ => [])
      ∧ ¬ Runs.Always step (Unique fun _ => []) (new : MobilityRegistry Unit)
        (overlappingLogins phone) ∧ r.Carried second
      ∧ (r.bindingForDevice phone 1).map (·.line.number) = some "1001" := by
  refine ⟨?_, fun halways => ?_, rfl, by decide⟩
  · simp [overlappingLogins, Operation.Fixed]
  have hunique := halways.2.2.2.2
  have hnamed := hunique.named
    (roamingAppearance ⟨⟨"SEP001122334455"⟩, 2⟩ ⟨"1002", "Two", ()⟩ 1) rfl
  exact absurd hnamed (by decide)

/-- A third login is admitted while the second one is pending: the first one has been logged
    out, and its line instance is below the pending one. -/
theorem line_instances_unique_two_buttons : let phone : DeviceId := ⟨"SEP001122334455"⟩
    let first : RoamingAppearance Unit := roamingAppearance ⟨phone, 1⟩ ⟨"1001", "One", ()⟩ 2
    let second : RoamingAppearance Unit := roamingAppearance ⟨phone, 2⟩ ⟨"1002", "Two", ()⟩ 3
    let third : RoamingAppearance Unit := roamingAppearance ⟨phone, 1⟩ ⟨"1003", "Three", ()⟩ 2
    Runs.Always step (Unique fun _ => [1]) (new : MobilityRegistry Unit)
      [.prepareLogin first.slot first.binding.line [1], .commit ⟨⟨1⟩, none, some first⟩,
        .prepareLogin second.slot second.binding.line [1], .prepareLogout first.slot,
        .commit ⟨⟨3⟩, some first, none⟩, .prepareLogin third.slot third.binding.line [1],
        .commit ⟨⟨4⟩, none, some third⟩, .commit ⟨⟨2⟩, none, some second⟩] := by
  intro phone first second third
  -- what is pending when the third login comes
  have hcoming : ∀ i n, (Runs.run step (new : MobilityRegistry Unit)
      [.prepareLogin first.slot first.binding.line [1], .commit ⟨⟨1⟩, none, some first⟩,
        .prepareLogin second.slot second.binding.line [1], .prepareLogout first.slot,
        .commit ⟨⟨3⟩, some first, none⟩]).Coming i n → n = second := by
    rintro i n ⟨t, ht, hnext⟩
    have hentries : (Runs.run step (new : MobilityRegistry Unit)
        [.prepareLogin first.slot first.binding.line [1], .commit ⟨⟨1⟩, none, some first⟩,
          .prepareLogin second.slot second.binding.line [1], .prepareLogout first.slot,
          .commit ⟨⟨3⟩, some first, none⟩]).pending.entries
        = [(⟨2⟩, ⟨⟨2⟩, none, some second⟩)] := by decide
    rw [Table.get?_eq_some, hentries] at ht
    obtain ⟨-, rfl⟩ := Prod.mk.inj (List.mem_singleton.mp ht)
    exact (Option.some.inj hnext).symm
  refine line_instances_unique _ ?_ ⟨?_, trivial, ?_, trivial, trivial, ?_, trivial, trivial,
    trivial⟩
  · simp [Operation.Fixed]
  · rintro - i n ⟨t, ht, -⟩
    cases ht
  · rintro - i n ⟨t, ht, -⟩
    cases ht
  · intro _ i n hn _
    obtain rfl := hcoming i n hn
    exact ⟨2, by decide, by decide, by decide⟩

end MobilityRegistry

end Sccp.Mobility
