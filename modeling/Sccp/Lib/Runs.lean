/-
  Sccp.Lib.Runs

  Runs of a transition function.  What every step keeps, a run keeps; and what a
  run gives out is given out once, if each thing given out was there to be given
  and is gone for good afterwards.
-/

import Mathlib.Data.List.Nodup

namespace Sccp

namespace Runs

variable {S E O : Type*} (step : S → E → S) (out : S → E → List O)

/-- The state after a sequence of events. -/
def run (s : S) (events : List E) : S := events.foldl step s

/-- Everything given out along a sequence of events, in order. -/
def outputs : S → List E → List O
  | _, [] => []
  | s, e :: rest => out s e ++ outputs (step s e) rest

variable {step out}
variable {s : S} {events : List E} {C D : S → E → Prop} {I P : S → Prop}

theorem run_append (s : S) (events later : List E) :
    run step s (events ++ later) = run step (run step s events) later :=
  List.foldl_append ..

theorem outputs_append (s : S) (events later : List E) : outputs step out s (events ++ later)
    = outputs step out s events ++ outputs step out (run step s events) later := by
  induction events generalizing s with
  | nil => rfl
  | cons e rest ih =>
    rw [List.cons_append, outputs, outputs, ih, List.append_assoc]
    rfl

theorem map_outputs {P : Type*} (f : O → P) (s : S) (events : List E) :
    (outputs step out s events).map f = outputs step (fun s e => (out s e).map f) s events := by
  induction events generalizing s with
  | nil => rfl
  | cons e rest ih => rw [outputs, outputs, List.map_append, ih]

/-- What every step keeps holds after a run. -/
theorem run_induction (hstep : ∀ s e, I s → I (step s e)) (h : I s) (events : List E) :
    I (run step s events) := by
  induction events generalizing s with
  | nil => exact h
  | cons e rest ih => exact ih (hstep s e h)

/-- A property of every state of a run, the first and the last included. -/
def Always (step : S → E → S) (P : S → Prop) : S → List E → Prop
  | s, [] => P s
  | s, e :: rest => P s ∧ Always step P (step s e) rest

/-- A condition on every step of a run and the state it is taken in. -/
def Each (step : S → E → S) (C : S → E → Prop) : S → List E → Prop
  | _, [] => True
  | s, e :: rest => C s e ∧ Each step C (step s e) rest

instance decidableAlways {P : S → Prop} [DecidablePred P] :
    ∀ (s : S) (events : List E), Decidable (Always step P s events)
  | s, [] => inferInstanceAs (Decidable (P s))
  | s, e :: rest =>
    have := decidableAlways (P := P) (step s e) rest
    inferInstanceAs (Decidable (P s ∧ Always step P (step s e) rest))

instance decidableEach {C : S → E → Prop} [∀ s e, Decidable (C s e)] :
    ∀ (s : S) (events : List E), Decidable (Each step C s events)
  | _, [] => inferInstanceAs (Decidable True)
  | s, e :: rest =>
    have := decidableEach (C := C) (step s e) rest
    inferInstanceAs (Decidable (C s e ∧ Each step C (step s e) rest))

/-- If steps that meet a condition keep an invariant, the invariant's consequences
    hold along every run of such steps. -/
theorem always_of_each (hP : ∀ s, I s → P s) (hstep : ∀ s e, I s → C s e → I (step s e)) (h : I s)
    (heach : Each step C s events) : Always step P s events := by
  induction events generalizing s with
  | nil => exact hP s h
  | cons e rest ih => exact ⟨hP s h, ih (hstep s e h heach.1) heach.2⟩

theorem Each.and (hC : Each step C s events) (hD : Each step D s events) :
    Each step (fun s e => C s e ∧ D s e) s events := by
  induction events generalizing s with
  | nil => trivial
  | cons e rest ih => exact ⟨⟨hC.1, hD.1⟩, ih hC.2 hD.2⟩

theorem each_append {later : List E} : Each step C s (events ++ later)
      ↔ Each step C s events ∧ Each step C (run step s events) later := by
  induction events generalizing s with
  | nil => exact (and_iff_right trivial).symm
  | cons e rest ih => exact (and_congr_right fun _ => ih).trans (and_assoc).symm

theorem Each.mono (h : ∀ s e, C s e → D s e) (hC : Each step C s events) :
    Each step D s events := by
  induction events generalizing s with
  | nil => trivial
  | cons e rest ih => exact ⟨h s e hC.1, ih hC.2⟩

/-- If steps that meet a condition keep an invariant, what the invariant says of such a
    step holds of every step of a run. -/
theorem each_of_invariant (hD : ∀ s e, I s → C s e → D s e)
    (hstep : ∀ s e, I s → C s e → I (step s e)) (h : I s) (heach : Each step C s events) :
    Each step D s events := by
  induction events generalizing s with
  | nil => trivial
  | cons e rest ih => exact ⟨hD s e h heach.1, ih (hstep s e h heach.1) heach.2⟩

/-- Conditions that an invariant makes equivalent hold along the same runs. -/
theorem each_congr (hstep : ∀ s e, I s → I (step s e)) (hiff : ∀ s e, I s → (C s e ↔ D s e))
    (h : I s) (events : List E) : Each step C s events ↔ Each step D s events := by
  induction events generalizing s with
  | nil => exact Iff.rfl
  | cons e rest ih => exact and_congr (hiff s e h) (ih (hstep s e h))

theorem each_true (s : S) (events : List E) : Each step (fun _ _ => True) s events := by
  induction events generalizing s with
  | nil => trivial
  | cons e rest ih => exact ⟨trivial, ih _⟩

theorem each_of_mem {C : E → Prop} (h : ∀ e ∈ events, C e) (s : S) :
    Each step (fun _ => C) s events := by
  induction events generalizing s with
  | nil => trivial
  | cons e rest ih =>
    exact ⟨h e List.mem_cons_self, ih (fun e' he => h e' (List.mem_cons_of_mem e he)) _⟩

theorem each_of_prefix (h : ∀ before e after, events = before ++ e :: after →
    C (run step s before) e) : Each step C s events := by
  induction events generalizing s with
  | nil => trivial
  | cons e rest ih =>
    exact ⟨h [] e rest rfl, ih fun before e' after heq =>
      h (e :: before) e' after (congrArg (e :: ·) heq)⟩

/-- If moreover a step that does not meet the condition breaks the property, the
    property holds along a run just when every step meets the condition.  The runs
    in question are those whose steps are of a kind `D`. -/
theorem always_iff_each_within (hP : ∀ s, I s → P s)
    (hstep : ∀ s e, I s → D s e → C s e → I (step s e))
    (hback : ∀ s e, I s → D s e → P (step s e) → C s e) (h : I s) (hD : Each step D s events) :
    Always step P s events ↔ Each step C s events := by
  refine ⟨fun halways => ?_, fun heach =>
    always_of_each hP (fun s e hI hDC => hstep s e hI hDC.1 hDC.2) h (hD.and heach)⟩
  induction events generalizing s with
  | nil => trivial
  | cons e rest ih =>
    have hnext : P (step s e) := by
      cases rest with
      | nil => exact halways.2
      | cons _ _ => exact halways.2.1
    have hC := hback s e h hD.1 hnext
    exact ⟨hC, ih (hstep s e h hD.1 hC) hD.2 halways.2⟩

theorem always_iff_each (hP : ∀ s, I s → P s) (hstep : ∀ s e, I s → C s e → I (step s e))
    (hback : ∀ s e, I s → P (step s e) → C s e) (h : I s) (events : List E) :
    Always step P s events ↔ Each step C s events :=
  always_iff_each_within hP (fun s e hI _ => hstep s e hI) (fun s e hI _ => hback s e hI) h
    (each_true s events)

/-- What holds at the end of a run, but not all along it, has held since some step. -/
theorem exists_origin (h : P (run step s events)) (hnot : ¬ Always step P s events) :
    ∃ earlier e later, events = earlier ++ e :: later
      ∧ ¬ P (run step s earlier) ∧ Always step P (step (run step s earlier) e) later := by
  induction events generalizing s with
  | nil => exact absurd h hnot
  | cons e rest ih =>
    by_cases hrest : Always step P (step s e) rest
    · exact ⟨[], e, rest, rfl, fun hs => hnot ⟨hs, hrest⟩, hrest⟩
    · obtain ⟨earlier, e', later, hsplit, hbefore, hafter⟩ := ih h hrest
      exact ⟨e :: earlier, e', later, congrArg (e :: ·) hsplit, hbefore, hafter⟩

theorem Always.head (h : Always step P s events) : P s := by
  cases events with
  | nil => exact h
  | cons e rest => exact h.1

theorem Always.last (h : Always step P s events) : P (run step s events) := by
  induction events generalizing s with
  | nil => exact h
  | cons e rest ih => exact ih h.2

theorem Always.split {later : List E} (h : Always step P s (events ++ later)) :
    Always step P s events ∧ Always step P (run step s events) later := by
  induction events generalizing s with
  | nil => exact ⟨h.head, h⟩
  | cons e rest ih =>
    obtain ⟨hs, hrest⟩ := h
    exact ⟨⟨hs, (ih hrest).1⟩, (ih hrest).2⟩

/-- Outputs that are in store before they are given out and gone afterwards. -/
structure OneShot (step : S → E → S) (out : S → E → List O) (I : S → Prop)
    (Stored : S → O → Prop) : Prop where
  keeps : ∀ s e, I s → I (step s e)
  nodup : ∀ s e, I s → (out s e).Nodup
  stored : ∀ s e o, I s → o ∈ out s e → Stored s o
  spent : ∀ s e o, I s → o ∈ out s e → ¬ Stored (step s e) o
  back : ∀ s e o, I s → Stored (step s e) o → Stored s o

variable {I : S → Prop} {Stored : S → O → Prop}

/-- What a run gives out was in store when the run began. -/
theorem OneShot.stored_of_mem (h : OneShot step out I Stored) (hs : I s) {o : O}
    (ho : o ∈ outputs step out s events) : Stored s o := by
  induction events generalizing s with
  | nil => cases ho
  | cons e rest ih =>
    rcases List.mem_append.mp ho with ho | ho
    · exact h.stored s e o hs ho
    · exact h.back s e o hs (ih (h.keeps s e hs) ho)

/-- What is in store after a run was in store when it began. -/
theorem OneShot.back_run (h : OneShot step out I Stored) (hs : I s) {o : O}
    (ho : Stored (run step s events) o) : Stored s o := by
  induction events generalizing s with
  | nil => exact ho
  | cons e rest ih => exact h.back s e o hs (ih (h.keeps s e hs) ho)

/-- What a run gives out is not in store after it. -/
theorem OneShot.spent_of_mem (h : OneShot step out I Stored) (hs : I s) {o : O}
    (ho : o ∈ outputs step out s events) : ¬ Stored (run step s events) o := by
  induction events generalizing s with
  | nil => cases ho
  | cons e rest ih =>
    rcases List.mem_append.mp ho with ho | ho
    · exact fun hstored => h.spent s e o hs ho (h.back_run (h.keeps s e hs) hstored)
    · exact ih (h.keeps s e hs) ho

/-- A run gives nothing out twice. -/
theorem OneShot.outputs_nodup (h : OneShot step out I Stored) (hs : I s) (events : List E) :
    (outputs step out s events).Nodup := by
  induction events generalizing s with
  | nil => exact List.nodup_nil
  | cons e rest ih =>
    have hs' := h.keeps s e hs
    rw [outputs, List.nodup_append']
    refine ⟨h.nodup s e hs, ih hs', ?_⟩
    intro o ho ho'
    exact h.spent s e o hs ho (h.stored_of_mem hs' ho')

end Runs

end Sccp
