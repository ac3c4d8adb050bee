/-
  Sccp.Lib.Occupancy

  Slots that owners take one after another, as in a table of what is occupied by whom.
  The owner that finds a slot taken fails, and names the one that has it.
-/

import Mathlib.Data.List.Pairwise
import Mathlib.Logic.Function.Basic

namespace Sccp

namespace Occupancy

variable {I K ε : Type*} [DecidableEq K] (clash : I → I → K → ε)

/-- Take one slot. -/
def mark (owner : I) (occupied : K → Option I) (slot : K) : Except ε (K → Option I) :=
  match occupied slot with
  | some previous => .error (clash previous owner slot)
  | none => .ok (Function.update occupied slot (some owner))

/-- Take the slots of an owner, in order. -/
def markAll (occupied : K → Option I) (entry : List K × I) : Except ε (K → Option I) :=
  entry.1.foldlM (mark clash entry.2) occupied

variable {clash}

/-- An owner takes all its slots, or meets one that is taken. -/
theorem markAll_cases {slots : List K} (hn : slots.Nodup) (owner : I) (occupied : K → Option I) :
    (∃ occupied', markAll clash occupied (slots, owner) = .ok occupied'
      ∧ (∀ k ∈ slots, occupied k = none)
      ∧ ∀ k j, occupied' k = some j ↔ occupied k = some j ∨ k ∈ slots ∧ j = owner)
    ∨ ∃ k j, markAll clash occupied (slots, owner) = .error (clash j owner k)
      ∧ k ∈ slots ∧ occupied k = some j := by
  unfold markAll
  induction slots generalizing occupied with
  | nil => exact .inl ⟨occupied, rfl, nofun, fun k j => by simp⟩
  | cons slot rest ih =>
    obtain ⟨hslot, hn⟩ := List.nodup_cons.mp hn
    cases htaken : occupied slot with
    | some previous =>
      refine .inr ⟨slot, previous, ?_, List.mem_cons_self, htaken⟩
      rw [List.foldlM_cons, mark, htaken]
      rfl
    | none =>
      have hstep : (slot :: rest).foldlM (mark clash owner) occupied
          = rest.foldlM (mark clash owner) (Function.update occupied slot (some owner)) := by
        rw [List.foldlM_cons, mark, htaken]
        rfl
      have hother : ∀ k, k ≠ slot → Function.update occupied slot (some owner) k = occupied k :=
        fun k hk => Function.update_of_ne hk ..
      rw [hstep]
      rcases ih hn (Function.update occupied slot (some owner)) with
        ⟨occupied', hok, hfree, htakes⟩ | ⟨k, j, herror, hk, hj⟩
      · refine .inl ⟨occupied', hok, fun k hk => ?_, fun k j => (htakes k j).trans ?_⟩
        · rcases List.mem_cons.mp hk with rfl | hk
          · exact htaken
          · exact hother k (fun heq => hslot (heq ▸ hk)) ▸ hfree k hk
        · by_cases hk : k = slot
          · subst hk
            rw [Function.update_self, htaken, Option.some_inj]
            simp [eq_comm]
          · rw [hother k hk, List.mem_cons, or_iff_right hk]
      · have hne : k ≠ slot := fun heq => hslot (heq ▸ hk)
        exact .inr ⟨k, j, herror, List.mem_cons_of_mem _ hk, hother k hne ▸ hj⟩

/-- The slots taken are those of some owners. -/
def Takes (owners : List (List K × I)) (occupied : K → Option I) : Prop :=
  ∀ k j, occupied k = some j ↔ ∃ a ∈ owners, k ∈ a.1 ∧ a.2 = j

/-- Owners take their slots one after another, until one of them meets a slot that an
    earlier one has. -/
theorem foldlM_markAll_cases {owners : List (List K × I)} (hn : ∀ a ∈ owners, a.1.Nodup)
    (first : List (List K × I)) (occupied : K → Option I) (htakes : Takes first occupied) :
    (∃ occupied', owners.foldlM (markAll clash) occupied = .ok occupied'
      ∧ owners.Pairwise (fun a b => ∀ k ∈ a.1, k ∉ b.1)
      ∧ ∀ a ∈ first, ∀ b ∈ owners, ∀ k ∈ a.1, k ∉ b.1)
    ∨ ∃ a b k, owners.foldlM (markAll clash) occupied = .error (clash a.2 b.2 k)
      ∧ k ∈ a.1 ∧ k ∈ b.1 ∧ (a ∈ first ∧ b ∈ owners ∨ List.Sublist [a, b] owners) := by
  induction owners generalizing first occupied with
  | nil => exact .inl ⟨occupied, rfl, List.Pairwise.nil, fun _ _ _ hb => nomatch hb⟩
  | cons owner rest ih =>
    obtain ⟨slots, i⟩ := owner
    rcases markAll_cases (hn _ List.mem_cons_self) i occupied with
      ⟨occupied', hok, hfree, hmarks⟩ | ⟨k, j, herror, hk, hj⟩
    · have hstep : List.foldlM (markAll clash) occupied ((slots, i) :: rest)
          = rest.foldlM (markAll clash) occupied' := by
        rw [List.foldlM_cons, hok]
        rfl
      have htakes' : Takes (first ++ [(slots, i)]) occupied' := by
        intro k j
        rw [hmarks, htakes]
        simp [or_and_right, exists_or, eq_comm]
      rw [hstep]
      rcases ih (fun a ha => hn a (List.mem_cons_of_mem _ ha)) _ occupied' htakes' with
        ⟨occupied'', hok', hpairs, hfirst⟩ | ⟨a, b, k, herror, ha, hb, hwhere⟩
      · refine .inl ⟨occupied'', hok', List.pairwise_cons.mpr ⟨fun b hb => ?_, hpairs⟩,
          fun a ha b hb k hka hkb => ?_⟩
        · exact hfirst (slots, i) (by simp) b hb
        · rcases List.mem_cons.mp hb with rfl | hb
          · have hnone := hfree k hkb
            rw [(htakes k a.2).mpr ⟨a, ha, hka, rfl⟩] at hnone
            cases hnone
          · exact hfirst a (List.mem_append_left _ ha) b hb k hka hkb
      refine .inr ⟨a, b, k, herror, ha, hb, ?_⟩
      rcases hwhere with ⟨hafirst, hbrest⟩ | hsub
      · rcases List.mem_append.mp hafirst with hafirst | haowner
        · exact .inl ⟨hafirst, List.mem_cons_of_mem _ hbrest⟩
        · obtain rfl := List.mem_singleton.mp haowner
          exact .inr (List.Sublist.cons_cons _ (List.singleton_sublist.mpr hbrest))
      · exact .inr (hsub.cons _)
    · obtain ⟨a, ha, hka, rfl⟩ := (htakes k j).mp hj
      refine .inr ⟨a, (slots, i), k, ?_, hka, hk, .inl ⟨ha, List.mem_cons_self⟩⟩
      rw [List.foldlM_cons, herror]
      rfl

/-- Starting from an empty table: all slots are taken, by owners that share none, or two
    owners share the slot that is named. -/
theorem foldlM_markAll_empty {owners : List (List K × I)} (hn : ∀ a ∈ owners, a.1.Nodup) :
    (∃ occupied, owners.foldlM (markAll clash) (fun _ => none) = .ok occupied
      ∧ owners.Pairwise fun a b => ∀ k ∈ a.1, k ∉ b.1)
    ∨ ∃ a b k, owners.foldlM (markAll clash) (fun _ => none) = .error (clash a.2 b.2 k)
      ∧ k ∈ a.1 ∧ k ∈ b.1 ∧ List.Sublist [a, b] owners := by
  have hempty : Takes ([] : List (List K × I)) fun _ => none := fun k j => by simp
  rcases foldlM_markAll_cases hn [] _ hempty with
    ⟨occupied, hok, hpairs, -⟩ | ⟨a, b, k, herror, ha, hb, hwhere⟩
  · exact .inl ⟨occupied, hok, hpairs⟩
  · exact .inr ⟨a, b, k, herror, ha, hb, hwhere.resolve_left fun h => nomatch h.1⟩

end Occupancy

end Sccp
