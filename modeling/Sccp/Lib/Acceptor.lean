/-
  Sccp.Lib.Acceptor

  Partial deterministic acceptors and what their accepted words can contain.

  A letter that needs a state from some set and leaves the set for good occurs at
  most once; nothing follows a letter that leads to a dead state; and a letter that
  needs a state from a set which only other letters enter has one of them before it.
-/

import Mathlib.Data.List.Basic

namespace Sccp

namespace Acceptor

variable {S E : Type*} (next : S → E → Option S)

/-- The state after a word, if every letter of it is accepted. -/
def accept : S → List E → Option S
  | s, [] => some s
  | s, e :: rest =>
    match next s e with
    | none => none
    | some s' => accept s' rest

variable {next}
variable {s s' : S} {word : List E}

theorem accept_cons {e : E} (h : accept next s (e :: word) = some s') :
    ∃ mid, next s e = some mid ∧ accept next mid word = some s' := by
  rw [accept] at h
  split at h
  · cases h
  · next mid hmid => exact ⟨mid, hmid, h⟩

theorem accept_append {first second : List E} : accept next s (first ++ second) = some s' ↔
      ∃ mid, accept next s first = some mid ∧ accept next mid second = some s' := by
  induction first generalizing s with
  | nil => simp [accept]
  | cons e first ih =>
    rw [List.cons_append, accept, accept]
    cases next s e with
    | none => simp
    | some mid => exact ih

/-- A letter that is spent does not occur. -/
theorem countP_eq_zero {P : E → Bool} (Open : S → Prop)
    (hneeds : ∀ s e s', next s e = some s' → P e = true → Open s)
    (hback : ∀ s e s', next s e = some s' → Open s' → Open s) (hs : ¬ Open s)
    (h : accept next s word = some s') : word.countP P = 0 := by
  induction word generalizing s with
  | nil => rfl
  | cons e word ih =>
    obtain ⟨mid, hmid, hword⟩ := accept_cons h
    have hP : ¬ P e = true := fun hP => hs (hneeds s e mid hmid hP)
    rw [List.countP_cons_of_neg hP]
    exact ih (fun hopen => hs (hback s e mid hmid hopen)) hword

/-- A letter that spends what it needs occurs at most once. -/
theorem countP_le_one {P : E → Bool} (Open : S → Prop)
    (hneeds : ∀ s e s', next s e = some s' → P e = true → Open s)
    (hspends : ∀ s e s', next s e = some s' → P e = true → ¬ Open s')
    (hback : ∀ s e s', next s e = some s' → Open s' → Open s) (h : accept next s word = some s') :
    word.countP P ≤ 1 := by
  induction word generalizing s with
  | nil => exact Nat.zero_le _
  | cons e word ih =>
    obtain ⟨mid, hmid, hword⟩ := accept_cons h
    by_cases hP : P e = true
    · have hrest := countP_eq_zero Open hneeds hback (hspends s e mid hmid hP) hword
      rw [List.countP_cons_of_pos hP]
      omega
    · rw [List.countP_cons_of_neg hP]
      exact ih hword

theorem accept_keeps {I : S → Prop} (hI : ∀ s e s', next s e = some s' → I s → I s') (hs : I s)
    (h : accept next s word = some s') : I s' := by
  induction word generalizing s with
  | nil =>
    cases h
    exact hs
  | cons e word ih =>
    obtain ⟨mid, hmid, hword⟩ := accept_cons h
    exact ih (hI s e mid hmid hs) hword

/-- A letter that leads into states that are never left did not occur on the way to
    any other state. -/
theorem countP_eq_zero_of_last (next : S → E → Option S) {P : E → Bool} {Spent : S → Prop}
    (hleads : ∀ s e s', next s e = some s' → P e = true → Spent s')
    (hstays : ∀ s e s', next s e = some s' → Spent s → Spent s') (hs' : ¬ Spent s')
    (h : accept next s word = some s') : word.countP P = 0 := by
  induction word generalizing s with
  | nil => rfl
  | cons e word ih =>
    obtain ⟨mid, hmid, hword⟩ := accept_cons h
    have hP : ¬ P e = true :=
      fun hP => hs' (accept_keeps hstays (hleads s e mid hmid hP) hword)
    rw [List.countP_cons_of_neg hP]
    exact ih hword

/-- Nothing follows a letter that leads to a dead state. -/
theorem eq_nil_of_dead {before after : List E} {e : E}
    (hdead : ∀ s s', next s e = some s' → ∀ e', next s' e' = none)
    (h : accept next s (before ++ e :: after) = some s') : after = [] := by
  obtain ⟨mid, -, hrest⟩ := accept_append.mp h
  obtain ⟨last, hlast, hafter⟩ := accept_cons hrest
  cases after with
  | nil => rfl
  | cons e' after =>
    obtain ⟨_, hnext, -⟩ := accept_cons hafter
    rw [hdead mid last hlast e'] at hnext
    cases hnext

/-- A letter that needs an entered state comes after a letter that enters. -/
theorem exists_before (next : S → E → Option S) {Q : E → Prop} (Entered : S → Prop)
    (henter : ∀ s e s', next s e = some s' → Entered s' → Entered s ∨ Q e) {before after : List E}
    {e : E} (hneeds : ∀ s s', next s e = some s' → Entered s) (hs : ¬ Entered s)
    (h : accept next s (before ++ e :: after) = some s') : ∃ q ∈ before, Q q := by
  obtain ⟨mid, hbefore, hrest⟩ := accept_append.mp h
  obtain ⟨last, hlast, -⟩ := accept_cons hrest
  have hmid := hneeds mid last hlast
  clear h hrest hlast
  induction before generalizing s with
  | nil =>
    cases hbefore
    exact absurd hmid hs
  | cons e' before ih =>
    obtain ⟨s'', hnext, hword⟩ := accept_cons hbefore
    by_cases hentered : Entered s''
    · rcases henter s e' s'' hnext hentered with hold | hQ
      · exact absurd hold hs
      · exact ⟨e', List.mem_cons_self, hQ⟩
    · obtain ⟨q, hq, hQ⟩ := ih hentered hword
      exact ⟨q, List.mem_cons_of_mem _ hq, hQ⟩

end Acceptor

end Sccp
