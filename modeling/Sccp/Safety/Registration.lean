/-
  Sccp.Safety.Registration

  Publication in the dialplan as a transaction.

  A call of `reconcile` works through operations on different targets and notes what each target
  held before.  So the notes, taken back one by one, lead to the dialplan as it was; and while
  they stand, the registry acts on targets of its own alone.
-/

import Sccp.Pbx.Registration
import Sccp.Lib.Runs

namespace Sccp.Pbx

open Sccp

/-! ## Single operations -/

namespace Dialplan

variable {d : Dialplan} {target : RegistrationTarget}

/-- Nobody else edits the dialplan while the script is played. -/
def Undisturbed (d : Dialplan) : Prop := ∀ turn ∈ d.script, turn.edits = []

/-- The targets of others are as they were, but for the edits of others. -/
structure Spared (d d' : Dialplan) : Prop where
  taken : d'.taken = d.taken
  spares : d'.spares = d.spares
  undisturbed : d.Undisturbed → d'.Undisturbed ∧ d'.theirs = d.theirs

theorem Spared.refl (d : Dialplan) : Spared d d := ⟨rfl, rfl, fun h => ⟨h, rfl⟩⟩

theorem Spared.trans {d' d'' : Dialplan} (h : Spared d d') (h' : Spared d' d'') : Spared d d'' where
  taken := h'.taken.trans h.taken
  spares := h'.spares.trans h.spares
  undisturbed := fun hcalm => by
    obtain ⟨hcalm', htheirs⟩ := h.undisturbed hcalm
    obtain ⟨hcalm'', htheirs'⟩ := h'.undisturbed hcalm'
    exact ⟨hcalm'', htheirs'.trans htheirs⟩

/-- What edits of others leave alone. -/
theorem foldl_edit (edits : List (RegistrationTarget × Option String)) (d : Dialplan) :
    (edits.foldl edit d).ours = d.ours ∧ (edits.foldl edit d).taken = d.taken
      ∧ (edits.foldl edit d).spares = d.spares ∧ (edits.foldl edit d).script = d.script := by
  induction edits generalizing d with
  | nil => exact ⟨rfl, rfl, rfl, rfl⟩
  | cons e rest ih =>
    obtain ⟨hours, htaken, hspares, hscript⟩ := ih (d.edit e)
    have hone : (d.edit e).ours = d.ours ∧ (d.edit e).taken = d.taken
        ∧ (d.edit e).spares = d.spares ∧ (d.edit e).script = d.script := by
      unfold edit
      dsimp only
      split <;> exact ⟨rfl, rfl, rfl, rfl⟩
    exact ⟨hours.trans hone.1, htaken.trans hone.2.1, hspares.trans hone.2.2.1,
      hscript.trans hone.2.2.2⟩

theorem begin_ours (d : Dialplan) (call : BackendCall) : (d.begin call).ours = d.ours :=
  (foldl_edit _ d).1

theorem begin_spared (d : Dialplan) (call : BackendCall) : Spared d (d.begin call) where
  taken := (foldl_edit _ d).2.1
  spares := (foldl_edit _ d).2.2.1
  undisturbed := fun hcalm => by
    refine ⟨fun turn hturn => hcalm turn (List.mem_of_mem_tail hturn), ?_⟩
    unfold begin
    dsimp only
    rcases hscript : d.script with _ | ⟨turn, rest⟩
    · rfl
    · have hnone := hcalm turn (hscript ▸ List.mem_cons_self)
      simp only [List.head?_cons, Option.elim_some, hnone, List.foldl_nil]

/-- An operation on the registry's own targets fails and changes nothing, or gives a target a
    value. -/
structure Outcome (d : Dialplan) (target : RegistrationTarget)
    (value : Option RegistrationExtensionSpec)
    (result : Except RegistrationExtensionBackendError Unit × Dialplan) : Prop where
  spared : Spared d result.2
  failed : ∀ error, result.1 = .error error → result.2.ours = d.ours
  done : result.1 = .ok () → ∀ k, result.2.ours.get? k = if k = target then value else d.ours.get? k

/-- The operation has failed. -/
theorem Outcome.of_error {d' : Dialplan} {value : Option RegistrationExtensionSpec}
    {error : RegistrationExtensionBackendError} (hspared : Spared d d') (hours : d'.ours = d.ours) :
    Outcome d target value (.error error, d') :=
  ⟨hspared, fun _ _ => hours, nofun⟩

theorem publish_outcome (d : Dialplan) (extension : RegistrationExtensionSpec) :
    Outcome d extension.target (some extension) (d.publish extension) := by
  have hours := begin_ours d (.publish extension)
  have hspared := begin_spared d (.publish extension)
  unfold publish
  dsimp only
  split
  · exact .of_error hspared hours
  split
  · exact .of_error hspared hours
  · refine ⟨⟨hspared.taken, hspared.spares, hspared.undisturbed⟩, fun _ h => (by cases h),
      fun _ k => ?_⟩
    dsimp only
    rw [Table.get?_insert, hours]

theorem replace_outcome {extension : RegistrationExtensionSpec}
    (hown : d.ours.contains extension.target = true) :
    Outcome d extension.target (some extension) (d.replace extension) := by
  have hours := begin_ours d (.replace extension)
  have hspared := begin_spared d (.replace extension)
  unfold replace
  dsimp only
  split
  · exact .of_error hspared hours
  · rw [hours, if_pos hown]
    refine ⟨⟨hspared.taken, hspared.spares, hspared.undisturbed⟩, nofun, fun _ k => ?_⟩
    exact Table.get?_insert ..

/-- A removal fails, and not for want of the target; or it succeeds, whatever it has found. -/
theorem removeTarget_cases (d : Dialplan) (target : RegistrationTarget) :
    (∃ error, d.removeTarget target = (.error error, d.begin (.unpublish target)))
    ∨ d.removeTarget target = (.ok (), if d.ours.contains target then
          { d.begin (.unpublish target) with ours := d.ours.erase target }
        else if (d.begin (.unpublish target)).theirs.contains target && !d.spares then
          { d.begin (.unpublish target) with
            theirs := (d.begin (.unpublish target)).theirs.erase target
            taken := (d.begin (.unpublish target)).taken ++ [target] }
        else d.begin (.unpublish target)) := by
  have hours := begin_ours d (.unpublish target)
  have hspares := (begin_spared d (.unpublish target)).spares
  have hcases : (∃ error, error ≠ .notFound
        ∧ d.unpublish target = (.error error, d.begin (.unpublish target)))
      ∨ d.fault.filter (· ≠ .notFound) = none := by
    unfold unpublish
    dsimp only
    split
    · next error herror =>
      exact .inl ⟨error, by simpa using (Option.filter_eq_some_iff.mp herror).2, rfl⟩
    · next hnone => exact .inr hnone
  rcases hcases with ⟨error, hne, heq⟩ | hnone
  · refine .inl ⟨error, ?_⟩
    unfold removeTarget
    rw [heq]
    cases error with
    | notFound => exact absurd rfl hne
    | _ => rfl
  right
  unfold removeTarget unpublish
  rw [hnone]
  dsimp only
  rw [hours, hspares]
  by_cases hown : d.ours.contains target = true
  · rw [if_pos hown, if_pos hown]
  · rw [if_neg hown, if_neg hown]
    generalize ((d.begin (.unpublish target)).theirs.contains target && !d.spares) = foreign
    cases foreign <;> rfl

theorem removeTarget_outcome (hown : d.ours.contains target = true) :
    Outcome d target none (d.removeTarget target) := by
  have hours := begin_ours d (.unpublish target)
  have hspared := begin_spared d (.unpublish target)
  rcases removeTarget_cases d target with ⟨error, heq⟩ | heq
  · rw [heq]
    exact .of_error hspared hours
  · rw [heq, if_pos hown]
    refine ⟨⟨hspared.taken, hspared.spares, hspared.undisturbed⟩, nofun, fun _ k => ?_⟩
    exact Table.get?_erase ..

/-- No target of others, now or by an edit that is to come. -/
def Unclaimed (d : Dialplan) (target : RegistrationTarget) : Prop :=
  d.theirs.contains target = false ∧ ∀ turn ∈ d.script, ∀ e ∈ turn.edits, e.1 ≠ target

theorem foldl_edit_unclaimed {edits : List (RegistrationTarget × Option String)}
    (h : ∀ e ∈ edits, e.1 ≠ target) (d : Dialplan) :
    (edits.foldl edit d).theirs.contains target = d.theirs.contains target := by
  induction edits generalizing d with
  | nil => rfl
  | cons e rest ih =>
    rw [List.foldl_cons, ih fun e he => h e (List.mem_cons_of_mem _ he)]
    obtain ⟨key, value⟩ := e
    have hne : target ≠ key := fun heq => h _ List.mem_cons_self heq.symm
    unfold edit
    dsimp only
    split
    · rfl
    · cases value with
      | none => rw [Option.elim_none, Table.contains_erase, decide_eq_true hne, Bool.true_and]
      | some v => rw [Option.elim_some, Table.contains_insert, decide_eq_false hne, Bool.false_or]

theorem Unclaimed.begin (h : d.Unclaimed target) (call : BackendCall) :
    (d.begin call).Unclaimed target := by
  refine ⟨?_, fun turn hturn => h.2 turn (List.mem_of_mem_tail hturn)⟩
  refine (foldl_edit_unclaimed ?_ d).trans h.1
  rcases hscript : d.script with _ | ⟨turn, rest⟩
  · exact fun e he => absurd he List.not_mem_nil
  · exact h.2 turn (hscript ▸ List.mem_cons_self)

/-- The removal of a target of the registry or of nobody, or from a dialplan that spares others. -/
theorem removeTarget_safe
    (hsafe : d.ours.contains target = true ∨ d.spares = true ∨ d.Unclaimed target) :
    (d.removeTarget target).2.theirs = (d.begin (.unpublish target)).theirs
      ∧ (d.removeTarget target).2.taken = d.taken := by
  have htaken := (begin_spared d (.unpublish target)).taken
  rcases removeTarget_cases d target with ⟨error, heq⟩ | heq
  · rw [heq]
    exact ⟨rfl, htaken⟩
  rw [heq]
  dsimp only
  split
  · exact ⟨rfl, htaken⟩
  next hnot =>
  have hkept : ((d.begin (.unpublish target)).theirs.contains target && !d.spares) = false := by
    rcases hsafe with hsafe | hsafe | hsafe
    · exact absurd hsafe hnot
    · rw [hsafe, Bool.not_true, Bool.and_false]
    · rw [(hsafe.begin _).1, Bool.false_and]
  rw [if_neg (Bool.eq_false_iff.mp hkept)]
  exact ⟨rfl, htaken⟩

/-- What a removal makes of the registry's own targets. -/
theorem removeTarget_own (d : Dialplan) (target : RegistrationTarget) :
    (∀ k, k ≠ target → (d.removeTarget target).2.ours.get? k = d.ours.get? k)
      ∧ ((d.removeTarget target).1 = .ok () →
          (d.removeTarget target).2.ours.contains target = false)
      ∧ (d.removeTarget target).2.script = (d.begin (.unpublish target)).script
      ∧ (d.removeTarget target).2.spares = d.spares := by
  have hours := begin_ours d (.unpublish target)
  have hspares := (begin_spared d (.unpublish target)).spares
  rcases removeTarget_cases d target with ⟨error, heq⟩ | heq
  · rw [heq, hours]
    exact ⟨fun _ _ => rfl, nofun, rfl, hspares⟩
  rw [heq]
  dsimp only
  split
  · refine ⟨fun k hk => ?_, fun _ => ?_, rfl, hspares⟩
    · rw [Table.get?_erase, if_neg hk]
    · simp [Table.contains_erase]
  next hnot =>
  have hnone : d.ours.contains target = false := Bool.eq_false_iff.mpr hnot
  split
  · exact ⟨fun k _ => by rw [hours], fun _ => by rw [hours]; exact hnone, rfl, hspares⟩
  · exact ⟨fun k _ => by rw [hours], fun _ => by rw [hours]; exact hnone, rfl, hspares⟩

end Dialplan

/-! ## Operations that are noted -/

namespace AppliedOperation

def target : AppliedOperation → RegistrationTarget
  | .published extension => extension.target
  | .replaced previous => previous.target
  | .unpublished previous => previous.target

/-- What the target held before. -/
def previous : AppliedOperation → Option RegistrationExtensionSpec
  | .published _ => none
  | .replaced previous => some previous
  | .unpublished previous => some previous

/-- Whether the target is published after the operation. -/
def stays : AppliedOperation → Bool
  | .published _ | .replaced _ => true
  | .unpublished _ => false

end AppliedOperation

namespace NeededOperation

def target : NeededOperation → RegistrationTarget
  | .publish extension => extension.target
  | .replace extension _ => extension.target
  | .unpublish target _ => target

/-- What the target holds when the operation is needed, and what it is to hold. -/
def previous : NeededOperation → Option RegistrationExtensionSpec
  | .publish _ => none
  | .replace _ previous => some previous
  | .unpublish _ previous => some previous

def value : NeededOperation → Option RegistrationExtensionSpec
  | .publish extension => some extension
  | .replace extension _ => some extension
  | .unpublish _ _ => none

/-- The operation is about a target that holds what it is said to hold. -/
structure Fits (before : RegistrationTarget → Option RegistrationExtensionSpec)
    (needed : NeededOperation) : Prop where
  held : before needed.target = needed.previous
  own : ∀ previous, needed.previous = some previous → previous.target = needed.target

variable {before : RegistrationTarget → Option RegistrationExtensionSpec} {needed : NeededOperation}

theorem run_outcome {d : Dialplan} (hheld : d.ours.get? needed.target = needed.previous) :
    d.Outcome needed.target needed.value (needed.run d) := by
  cases needed with
  | publish extension => exact d.publish_outcome extension
  | replace extension previous =>
    exact Dialplan.replace_outcome (Table.contains_iff.mpr ⟨previous, hheld⟩)
  | unpublish target previous =>
    exact Dialplan.removeTarget_outcome (Table.contains_iff.mpr ⟨previous, hheld⟩)

theorem Fits.applied (h : needed.Fits before) :
    needed.applied.target = needed.target ∧ needed.applied.previous = before needed.target := by
  rw [h.held]
  cases needed with
  | publish extension => exact ⟨rfl, rfl⟩
  | replace extension previous => exact ⟨h.own previous rfl, rfl⟩
  | unpublish target previous => exact ⟨h.own previous rfl, rfl⟩

theorem applied_stays (needed : NeededOperation) : needed.applied.stays = needed.value.isSome := by
  cases needed <;> rfl

/-- A repair is about the target that could not be replaced. -/
theorem Fits.repair (h : needed.Fits before) {source : RegistrationExtensionBackendError}
    {applied : AppliedOperation} (hmem : applied ∈ needed.repair source) :
    applied.target = needed.target ∧ applied.previous = before needed.target
      ∧ applied.stays = false := by
  rw [h.held]
  cases needed with
  | replace extension previous =>
    cases source with
    | notFound =>
      rw [List.mem_singleton.mp hmem]
      exact ⟨h.own previous rfl, rfl, rfl⟩
    | _ => exact absurd hmem List.not_mem_nil
  | _ => exact absurd hmem List.not_mem_nil

theorem repair_length (needed : NeededOperation) (source : RegistrationExtensionBackendError) :
    needed.repair source = [] ∨ ∃ applied, needed.repair source = [applied] := by
  cases needed with
  | replace extension previous =>
    cases source with
    | notFound => exact .inr ⟨_, rfl⟩
    | _ => exact .inl rfl
  | _ => exact .inl rfl

end NeededOperation

/-- The notes: what their targets held, and that nothing else has changed. -/
structure Logged (before : RegistrationTarget → Option RegistrationExtensionSpec)
    (log : List AppliedOperation) (d : Dialplan) : Prop where
  previous : ∀ applied ∈ log, applied.previous = before applied.target
  rest : ∀ k, k ∉ log.map (·.target) → d.ours.get? k = before k
  stands : ∀ applied ∈ log, applied.stays = true → d.ours.contains applied.target = true
  nodup : (log.map (·.target)).Nodup

namespace Logged

variable {before : RegistrationTarget → Option RegistrationExtensionSpec}
  {log : List AppliedOperation} {d : Dialplan} {needed : NeededOperation}

theorem cons (h : Logged before log d) (hfits : needed.Fits before)
    (hnew : needed.target ∉ log.map (·.target)) {d' : Dialplan}
    (hdone : ∀ k, d'.ours.get? k = if k = needed.target then needed.value else d.ours.get? k) :
    Logged before (needed.applied :: log) d' := by
  obtain ⟨htarget, hprevious⟩ := hfits.applied
  refine ⟨fun applied hmem => ?_, fun k hk => ?_, fun applied hmem hstays => ?_, ?_⟩
  · rcases List.mem_cons.mp hmem with rfl | hmem
    · rw [htarget, hprevious]
    · exact h.previous applied hmem
  · rw [List.map_cons, List.mem_cons, not_or, htarget] at hk
    rw [hdone, if_neg hk.1]
    exact h.rest k hk.2
  · rcases List.mem_cons.mp hmem with rfl | hmem
    · rw [needed.applied_stays] at hstays
      obtain ⟨value, hvalue⟩ := Option.isSome_iff_exists.mp hstays
      exact Table.contains_iff.mpr ⟨value, by rw [hdone, htarget, if_pos rfl, hvalue]⟩
    · have hother : applied.target ≠ needed.target := fun heq =>
        hnew (List.mem_map.mpr ⟨applied, hmem, heq⟩)
      unfold Table.contains
      rw [hdone, if_neg hother]
      exact h.stands applied hmem hstays
  · rw [List.map_cons, htarget]
    exact List.nodup_cons.mpr ⟨hnew, h.nodup⟩

/-- A failure changes nothing, and its repair is noted. -/
theorem fail (h : Logged before log d) (hfits : needed.Fits before)
    (hnew : needed.target ∉ log.map (·.target)) {d' : Dialplan} (hours : d'.ours = d.ours)
    (source : RegistrationExtensionBackendError) :
    Logged before (needed.repair source ++ log) d' := by
  have hsame : Logged before log d' :=
    ⟨h.previous, by rw [hours]; exact h.rest, by rw [hours]; exact h.stands, h.nodup⟩
  rcases needed.repair_length source with hrepair | ⟨applied, hrepair⟩
  · rw [hrepair]
    exact hsame
  obtain ⟨htarget, hprevious, hstays⟩ := hfits.repair (hrepair ▸ List.mem_singleton.mpr rfl)
  rw [hrepair]
  refine ⟨fun a hmem => ?_, fun k hk => ?_, fun a hmem ha => ?_, ?_⟩
  · rcases List.mem_cons.mp hmem with rfl | hmem
    · rw [htarget, hprevious]
    · exact hsame.previous a hmem
  · exact hsame.rest k fun hmem => hk (List.mem_cons_of_mem _ hmem)
  · rcases List.mem_cons.mp hmem with rfl | hmem
    · rw [hstays] at ha
      cases ha
    · exact hsame.stands a hmem ha
  · refine List.nodup_cons.mpr ⟨?_, h.nodup⟩
    show applied.target ∉ _
    rw [htarget]
    exact hnew

end Logged

variable {log : List AppliedOperation} {d : Dialplan}
  {before : RegistrationTarget → Option RegistrationExtensionSpec}

/-! ## Working through a list -/

/-- Operations on different targets, none of which has been touched. -/
structure Pending (before : RegistrationTarget → Option RegistrationExtensionSpec)
    (needed : List NeededOperation) (log : List AppliedOperation) : Prop where
  fits : ∀ n ∈ needed, n.Fits before
  nodup : (needed.map (·.target)).Nodup
  fresh : ∀ n ∈ needed, n.target ∉ log.map (·.target)

theorem Pending.tail {first : NeededOperation} {rest : List NeededOperation}
    (h : Pending before (first :: rest) log) : Pending before rest (first.applied :: log) where
  fits := fun n hn => h.fits n (List.mem_cons_of_mem _ hn)
  nodup := (List.nodup_cons.mp h.nodup).2
  fresh := fun n hn => by
    rw [List.map_cons, List.mem_cons, not_or, (h.fits first List.mem_cons_self).applied.1]
    refine ⟨fun heq => ?_, h.fresh n (List.mem_cons_of_mem _ hn)⟩
    exact (List.nodup_cons.mp h.nodup).1 (List.mem_map.mpr ⟨n, hn, heq⟩)

/-- What becomes of a list of operations: all of them are done, or there are notes about the ones
    that were. -/
inductive Worked (before : RegistrationTarget → Option RegistrationExtensionSpec)
    (needed : List NeededOperation) (log : List AppliedOperation) (d : Dialplan) :
    Option (RegistrationRegistryOperation × RegistrationExtensionBackendError)
      × List AppliedOperation × Dialplan → Prop where
  | done {log' : List AppliedOperation} {d' : Dialplan} (hspared : d.Spared d')
      (hvalues : ∀ n ∈ needed, d'.ours.get? n.target = n.value)
      (hrest : ∀ k, k ∉ needed.map (·.target) → d'.ours.get? k = d.ours.get? k) :
      Worked before needed log d (none, log', d')
  | failed {operation : RegistrationRegistryOperation}
      {source : RegistrationExtensionBackendError} {log' : List AppliedOperation} {d' : Dialplan}
      (hspared : d.Spared d') (hlogged : Logged before log' d')
      (htargets : ∀ k ∈ log'.map (·.target), k ∈ needed.map (·.target) ∨ k ∈ log.map (·.target)) :
      Worked before needed log d (some (operation, source), log', d')

theorem performAll_worked (needed : List NeededOperation) (hlogged : Logged before log d)
    (hpending : Pending before needed log) :
    Worked before needed log d (performAll needed log d) := by
  induction needed generalizing log d with
  | nil =>
    exact .done (.refl d) (fun n hn => absurd hn List.not_mem_nil) fun _ _ => rfl
  | cons first rest ih =>
    have hfits := hpending.fits first List.mem_cons_self
    have hnew := hpending.fresh first List.mem_cons_self
    have houtcome := first.run_outcome (d := d) ((hlogged.rest _ hnew).trans hfits.held)
    unfold performAll
    rcases hrun : first.run d with ⟨answer, d'⟩
    rw [hrun] at houtcome
    rcases answer with source | _
    · refine .failed houtcome.spared (hlogged.fail hfits hnew (houtcome.failed source rfl) _) ?_
      intro k hk
      rw [List.map_append, List.mem_append] at hk
      rcases hk with hk | hk
      · obtain ⟨applied, hmem, rfl⟩ := List.mem_map.mp hk
        exact .inl ((hfits.repair hmem).1 ▸ List.mem_cons_self)
      · exact .inr hk
    have hdone := houtcome.done rfl
    have hnext := ih (hlogged.cons hfits hnew hdone) hpending.tail
    dsimp only at hdone ⊢
    generalize performAll rest (first.applied :: log) d' = result at hnext
    cases hnext with
    | done hspared hvalues hrest =>
      have hfirst : first.target ∉ rest.map (·.target) :=
        (List.nodup_cons.mp hpending.nodup).1
      refine .done (houtcome.spared.trans hspared) (fun n hn => ?_) fun k hk => ?_
      · rcases List.mem_cons.mp hn with rfl | hn
        · rw [hrest _ hfirst, hdone, if_pos rfl]
        · exact hvalues n hn
      · rw [List.map_cons, List.mem_cons, not_or] at hk
        rw [hrest k hk.2, hdone, if_neg hk.1]
    | failed hspared hlogged' htargets =>
      refine .failed (houtcome.spared.trans hspared) hlogged' fun k hk => ?_
      rcases htargets k hk with hk | hk
      · exact .inl (List.mem_cons_of_mem _ hk)
      rw [List.map_cons, List.mem_cons, hfits.applied.1] at hk
      rcases hk with rfl | hk
      · exact .inl List.mem_cons_self
      · exact .inr hk

/-! ## Taking back -/

theorem undo_outcome {applied : AppliedOperation}
    (hstands : applied.stays = true → d.ours.contains applied.target = true) :
    d.Outcome applied.target applied.previous (applied.undo d) := by
  cases applied with
  | published extension => exact Dialplan.removeTarget_outcome (hstands rfl)
  | replaced previous => exact Dialplan.replace_outcome (hstands rfl)
  | unpublished previous => exact d.publish_outcome previous

/-- A failure that has been seen is reported. -/
theorem undoAll_failure {failure : Option RegistrationExtensionBackendError}
    (h : (undoAll log failure d).1 = none) : failure = none := by
  induction log generalizing failure d with
  | nil => exact h
  | cons applied rest ih =>
    unfold undoAll at h
    split at h
    · exact ih h
    · have hseen := ih h
      cases failure <;> cases hseen

/-- An undo acts on targets of the registry alone; what it publishes was there before. -/
theorem undoAll_spared (failure : Option RegistrationExtensionBackendError)
    (hstands : ∀ applied ∈ log, applied.stays = true → d.ours.contains applied.target = true)
    (hnodup : (log.map (·.target)).Nodup) : d.Spared (undoAll log failure d).2
      ∧ ∀ k, (undoAll log failure d).2.ours.contains k = true →
          d.ours.contains k = true ∨ k ∈ log.map (·.target) := by
  induction log generalizing failure d with
  | nil => exact ⟨.refl d, fun _ => .inl⟩
  | cons applied rest ih =>
    have houtcome := undo_outcome (hstands applied List.mem_cons_self)
    obtain ⟨hnew, hnodup⟩ := List.nodup_cons.mp hnodup
    -- the other targets are not touched
    have hother : ∀ k, k ≠ applied.target → (applied.undo d).2.ours.get? k = d.ours.get? k := by
      intro k hk
      rcases hanswer : (applied.undo d).1 with error | _
      · rw [houtcome.failed error hanswer]
      · rw [houtcome.done hanswer, if_neg hk]
    have hnext : ∀ failure', (applied.undo d).2.Spared (undoAll rest failure' (applied.undo d).2).2
        ∧ ∀ k, (undoAll rest failure' (applied.undo d).2).2.ours.contains k = true →
          (applied.undo d).2.ours.contains k = true ∨ k ∈ rest.map (·.target) := by
      refine fun failure' => ih failure' (fun a ha hstays => ?_) hnodup
      have hne : a.target ≠ applied.target := fun heq =>
        hnew (List.mem_map.mpr ⟨a, ha, heq⟩)
      unfold Table.contains
      rw [hother _ hne]
      exact hstands a (List.mem_cons_of_mem _ ha) hstays
    have hall : ∀ failure', d.Spared (undoAll rest failure' (applied.undo d).2).2
        ∧ ∀ k, (undoAll rest failure' (applied.undo d).2).2.ours.contains k = true →
          d.ours.contains k = true ∨ k ∈ (applied :: rest).map (·.target) := by
      intro failure'
      obtain ⟨hspared, hkeys⟩ := hnext failure'
      refine ⟨houtcome.spared.trans hspared, fun k hk => ?_⟩
      rcases hkeys k hk with hk | hk
      · by_cases hk' : k = applied.target
        · exact .inr (hk' ▸ List.mem_cons_self)
        · unfold Table.contains at hk ⊢
          rw [hother k hk'] at hk
          exact .inl hk
      · exact .inr (List.mem_cons_of_mem _ hk)
    unfold undoAll
    rcases hrun : applied.undo d with ⟨answer, d'⟩
    rw [hrun] at hall
    rcases answer with error | _
    · exact hall _
    · exact hall _

/-- An undo that reports no failure has put everything back. -/
theorem undoAll_restores {before : RegistrationTarget → Option RegistrationExtensionSpec}
    {log : List AppliedOperation} (failure : Option RegistrationExtensionBackendError)
    {d : Dialplan} (hlogged : Logged before log d) (h : (undoAll log failure d).1 = none)
    (k : RegistrationTarget) : (undoAll log failure d).2.ours.get? k = before k := by
  induction log generalizing failure d with
  | nil => exact hlogged.rest k List.not_mem_nil
  | cons applied rest ih =>
    have houtcome := undo_outcome (hlogged.stands applied List.mem_cons_self)
    obtain ⟨hnew, hnodup⟩ := List.nodup_cons.mp hlogged.nodup
    unfold undoAll at h ⊢
    rcases hrun : applied.undo d with ⟨answer, d'⟩
    rw [hrun] at houtcome h
    rcases answer with error | _
    · -- the failure would be reported
      have hseen := undoAll_failure h
      cases failure <;> cases hseen
    have hdone := houtcome.done rfl
    refine ih _ ⟨fun a ha => hlogged.previous a (List.mem_cons_of_mem _ ha), fun k hk => ?_,
      fun a ha hstays => ?_, hnodup⟩ h
    · rw [hdone]
      split
      · next hk' =>
        rw [hk']
        exact hlogged.previous applied List.mem_cons_self
      · next hk' => exact hlogged.rest k (by simp [hk', hk])
    have hne : a.target ≠ applied.target := fun heq =>
    hnew (List.mem_map.mpr ⟨a, ha, heq⟩)
    unfold Table.contains
    rw [hdone, if_neg hne]
    exact hlogged.stands a (List.mem_cons_of_mem _ ha) hstays

/-! ## What is wanted -/

namespace Registrations

/-- What each target is to hold. -/
def held (registrations : Registrations) (target : RegistrationTarget) :
    Option RegistrationExtensionSpec :=
  (registrations.get? target).map (·.extension)

/-- A registration is found under its own target. -/
def Keyed (registrations : Registrations) : Prop :=
  ∀ target registration, registrations.get? target = some registration →
    registration.extension.target = target

theorem mem_sorted {registrations : Registrations} {target : RegistrationTarget}
    {registration : DesiredRegistration} : (target, registration) ∈ registrations.sorted
      ↔ registrations.get? target = some registration := by
  unfold sorted
  rw [List.mem_insertionSort, Table.get?_eq_some]

theorem nodup_sorted (registrations : Registrations) : (registrations.sorted.map Prod.fst).Nodup :=
  ((List.perm_insertionSort _ _).map Prod.fst).nodup_iff.mpr registrations.nodup

end Registrations

/-- The table holds just the extensions seen so far. -/
structure Collected (desired : Registrations)
    (seen : List (RegistrationAppearanceOwner × RegistrationExtensionSpec)) : Prop where
  keyed : desired.Keyed
  sound : ∀ target registration, desired.get? target = some registration →
    ∃ owner, (owner, registration.extension) ∈ seen
  complete : ∀ owner extension, (owner, extension) ∈ seen →
    desired.held extension.target = some extension

theorem desire_collected {desired desired' : Registrations}
    {seen : List (RegistrationAppearanceOwner × RegistrationExtensionSpec)}
    {owner : RegistrationAppearanceOwner} {extension : RegistrationExtensionSpec}
    (h : Collected desired seen) (hdesire : desire desired owner extension = some desired') :
    Collected desired' (seen ++ [(owner, extension)]) := by
  have hsplit : ∀ {o e}, (o, e) ∈ seen ++ [(owner, extension)] → (o, e) ∈ seen ∨ e = extension := by
    intro o e hmem
    rcases List.mem_append.mp hmem with hmem | hmem
    · exact .inl hmem
    · exact .inr (Prod.mk.inj (List.mem_singleton.mp hmem)).2
  unfold desire at hdesire
  split at hdesire
  · next hnone =>
    obtain rfl := Option.some.inj hdesire
    refine ⟨fun target registration hget => ?_, fun target registration hget => ?_,
      fun o e hmem => ?_⟩
    · rw [Table.get?_insert] at hget
      split at hget
      · next htarget => rw [← Option.some.inj hget, htarget]
      · exact h.keyed target registration hget
    · rw [Table.get?_insert] at hget
      split at hget
      · rw [← Option.some.inj hget]
        exact ⟨owner, List.mem_append_right _ List.mem_cons_self⟩
      · obtain ⟨o, ho⟩ := h.sound target registration hget
        exact ⟨o, List.mem_append_left _ ho⟩
    unfold Registrations.held
    rw [Table.get?_insert]
    rcases hsplit hmem with hmem | rfl
    · have hheld := h.complete o e hmem
      split
      · next htarget =>
        unfold Registrations.held at hheld
        rw [htarget, hnone] at hheld
        cases hheld
      · exact hheld
    · rw [if_pos rfl]
      rfl
  · next entry hentry =>
    split at hdesire
    · cases hdesire
    next hsame =>
    simp only [ne_eq, not_or, Decidable.not_not] at hsame
    -- the same target, line and policy: the same extension
    have heq : entry.extension = extension := by
      have htarget := h.keyed _ entry hentry
      cases hext : entry.extension
      cases extension
      simp only [hext] at htarget hsame
      simp_all
    obtain rfl := Option.some.inj hdesire
    have hheld : ∀ target, Registrations.held (desired.modify extension.target fun entry =>
        { entry with owners := insert owner entry.owners }) target = desired.held target := by
      intro target
      unfold Registrations.held
      rw [Table.get?_modify]
      split
      · next htarget =>
        rw [Option.map_map, htarget]
        rfl
      · rfl
    have hkeep : ∀ target registration, (desired.modify extension.target fun entry =>
        { entry with owners := insert owner entry.owners }).get? target = some registration →
        ∃ old, desired.get? target = some old ∧ registration.extension = old.extension := by
      intro target registration hget
      have hmap := hheld target
      unfold Registrations.held at hmap
      rw [hget] at hmap
      obtain ⟨old, hold, hext⟩ := Option.map_eq_some_iff.mp hmap.symm
      exact ⟨old, hold, hext.symm⟩
    refine ⟨fun target registration hget => ?_, fun target registration hget => ?_,
      fun o e hmem => ?_⟩
    · obtain ⟨old, hold, hext⟩ := hkeep target registration hget
      rw [hext]
      exact h.keyed target old hold
    · obtain ⟨old, hold, hext⟩ := hkeep target registration hget
      obtain ⟨o, ho⟩ := h.sound target old hold
      rw [hext]
      exact ⟨o, List.mem_append_left _ ho⟩
    rw [hheld]
    rcases hsplit hmem with hmem | rfl
    · exact h.complete o e hmem
    · unfold Registrations.held
      rw [hentry, Option.map_some, heq]

theorem desireAll_collected
    {pairs seen : List (RegistrationAppearanceOwner × RegistrationExtensionSpec)}
    {desired desired' : Registrations} (h : Collected desired seen)
    (hall : desireAll desired pairs = some desired') : Collected desired' (seen ++ pairs) := by
  induction pairs generalizing desired seen with
  | nil =>
    obtain rfl := Option.some.inj hall
    rw [List.append_nil]
    exact h
  | cons first rest ih =>
    obtain ⟨owner, extension⟩ := first
    unfold desireAll at hall
    split at hall
    · cases hall
    · next hdesire =>
      have hnext := ih (desire_collected h hdesire) hall
      rwa [List.append_assoc] at hnext

/-- The wanted targets are those of the appearances, each with its line and policy. -/
theorem held_desired {appearances : List RegistrationAppearance} {desired : Registrations}
    (h : desiredRegistrations appearances = .ok desired) :
    desired.Keyed ∧ ∀ target extension, desired.held target = some extension
      ↔ extension.target = target ∧ ∃ appearance ∈ appearances,
          extension ∈ appearance.extensions := by
  unfold desiredRegistrations at h
  split at h
  · cases h
  next hall =>
  obtain rfl := Except.ok.inj h
  have hempty : Collected ∅ [] := {
    keyed := fun _ _ hget => by cases hget
    sound := fun _ _ hget => by cases hget
    complete := fun _ _ hmem => absurd hmem List.not_mem_nil }
  have hcollected := desireAll_collected hempty hall
  rw [List.nil_append] at hcollected
  have hmem : ∀ extension : RegistrationExtensionSpec, (∃ owner, (owner, extension)
      ∈ appearances.flatMap fun appearance => appearance.extensions.map (appearance.owner, ·))
      ↔ ∃ appearance ∈ appearances, extension ∈ appearance.extensions := by
    intro extension
    simp only [List.mem_flatMap, List.mem_map, Prod.mk.injEq]
    constructor
    · rintro ⟨owner, appearance, happearance, e, he, _, rfl⟩
      exact ⟨appearance, happearance, he⟩
    · rintro ⟨appearance, happearance, he⟩
      exact ⟨appearance.owner, appearance, happearance, extension, he, rfl, rfl⟩
  refine ⟨hcollected.keyed, fun target extension => ?_⟩
  rw [← hmem]
  constructor
  · intro hheld
    obtain ⟨registration, hget, rfl⟩ := Option.map_eq_some_iff.mp hheld
    exact ⟨hcollected.keyed target registration hget, hcollected.sound target registration hget⟩
  · rintro ⟨rfl, owner, howner⟩
    exact hcollected.complete owner extension howner

theorem Registrations.mem_keys_of_held {registrations : Registrations}
    {target : RegistrationTarget} {extension : RegistrationExtensionSpec}
    (h : registrations.held target = some extension) : target ∈ registrations.keys := by
  obtain ⟨registration, hget, _⟩ := Option.map_eq_some_iff.mp h
  exact Table.mem_keys.mpr ⟨registration, hget⟩

theorem error_desired {appearances : List RegistrationAppearance}
    {error : RegistrationRegistryError} (h : desiredRegistrations appearances = .error error) :
    error = .conflictingTarget := by
  unfold desiredRegistrations at h
  split at h
  · exact (Except.error.inj h).symm
  · cases h

/-! ## What is needed -/

/-- A part of a list, picked with a name for each pick, keeps the names in order. -/
theorem map_filterMap_sublist {α β K : Type*} {f : α → Option β} {name : α → K} {name' : β → K}
    {l : List α} (h : ∀ x ∈ l, ∀ y, f x = some y → name' y = name x) :
    ((l.filterMap f).map name').Sublist (l.map name) := by
  induction l with
  | nil => exact .slnil
  | cons x rest ih =>
    have hrest := ih fun y hy => h y (List.mem_cons_of_mem _ hy)
    rw [List.filterMap_cons, List.map_cons]
    split
    · exact hrest.cons _
    · next y hy =>
      rw [List.map_cons, h x List.mem_cons_self y hy]
      exact hrest.cons_cons _

section Plan

variable {active desired : Registrations}
variable {needed : NeededOperation}

theorem mem_publications : needed ∈ publications active desired
    ↔ ∃ target registration, desired.get? target = some registration
      ∧ active.get? target = none ∧ needed = .publish registration.extension := by
  simp only [publications, List.mem_filterMap, Prod.exists, Registrations.mem_sorted]
  refine exists_congr fun target => exists_congr fun registration => and_congr_right fun _ => ?_
  split
  · next hactive =>
    refine iff_of_false (fun h => by cases h) fun h => ?_
    rw [Table.not_contains_iff.mpr h.1] at hactive
    cases hactive
  · next hactive =>
    rw [Option.some.injEq, eq_comm]
    exact (and_iff_right (Table.not_contains_iff.mp (Bool.eq_false_iff.mpr hactive))).symm

theorem mem_replacements : needed ∈ replacements active desired
    ↔ ∃ target registration previous, desired.get? target = some registration
      ∧ active.get? target = some previous ∧ previous.extension ≠ registration.extension
      ∧ needed = .replace registration.extension previous.extension := by
  simp only [replacements, List.mem_filterMap, Prod.exists, Registrations.mem_sorted]
  constructor
  · rintro ⟨target, registration, hdesired, hneeded⟩
    split at hneeded
    · cases hneeded
    next previous hactive =>
    split at hneeded
    · cases hneeded
    · next hne =>
      exact ⟨target, registration, previous, hdesired, hactive, hne, (Option.some.inj hneeded).symm⟩
  · rintro ⟨target, registration, previous, hdesired, hactive, hne, rfl⟩
    refine ⟨target, registration, hdesired, ?_⟩
    rw [hactive]
    exact if_neg hne

theorem mem_removals : needed ∈ removals active desired
    ↔ ∃ target registration, active.get? target = some registration
      ∧ desired.get? target = none ∧ needed = .unpublish target registration.extension := by
  simp only [removals, List.mem_filterMap, Prod.exists, Registrations.mem_sorted]
  refine exists_congr fun target => exists_congr fun registration => and_congr_right fun _ => ?_
  split
  · next hdesired =>
    refine iff_of_false (fun h => by cases h) fun h => ?_
    rw [Table.not_contains_iff.mpr h.1] at hdesired
    cases hdesired
  · next hdesired =>
    rw [Option.some.injEq, eq_comm]
    exact (and_iff_right (Table.not_contains_iff.mp (Bool.eq_false_iff.mpr hdesired))).symm

/-- What a call of `reconcile` finds to do. -/
abbrev plan (active desired : Registrations) : List NeededOperation :=
  publications active desired ++ replacements active desired ++ removals active desired

/-- An operation that is needed, its target and what that is to hold. -/
theorem plan_cases (hactive : active.Keyed) (hdesired : desired.Keyed)
    (h : needed ∈ plan active desired) : needed.Fits active.held
      ∧ needed.value = desired.held needed.target
      ∧ (needed.target ∈ active.keys ∨ needed.target ∈ desired.keys) := by
  rw [plan, List.mem_append, List.mem_append] at h
  unfold Registrations.held
  rcases h with (h | h) | h
  · obtain ⟨target, registration, hget, hnone, rfl⟩ := mem_publications.mp h
    obtain rfl := hdesired target registration hget
    refine ⟨⟨?_, nofun⟩, ?_, .inr (Table.mem_keys.mpr ⟨registration, hget⟩)⟩
    · show (active.get? registration.extension.target).map _ = none
      rw [hnone, Option.map_none]
    · show some registration.extension = (desired.get? registration.extension.target).map _
      rw [hget, Option.map_some]
  · obtain ⟨target, registration, previous, hget, hactive', _, rfl⟩ := mem_replacements.mp h
    obtain rfl := hdesired target registration hget
    refine ⟨⟨?_, fun p hp => ?_⟩, ?_, .inr (Table.mem_keys.mpr ⟨registration, hget⟩)⟩
    · show (active.get? registration.extension.target).map _ = some previous.extension
      rw [hactive', Option.map_some]
    · rw [← Option.some.inj hp]
      exact hactive _ previous hactive'
    · show some registration.extension = (desired.get? registration.extension.target).map _
      rw [hget, Option.map_some]
  · obtain ⟨target, registration, hget, hnone, rfl⟩ := mem_removals.mp h
    refine ⟨⟨?_, fun p hp => ?_⟩, ?_, .inl (Table.mem_keys.mpr ⟨registration, hget⟩)⟩
    · show (active.get? target).map _ = some registration.extension
      rw [hget, Option.map_some]
    · rw [← Option.some.inj hp]
      exact hactive target registration hget
    · show none = (desired.get? target).map _
      rw [hnone, Option.map_none]

/-- No target is worked on twice. -/
theorem plan_nodup (hdesired : desired.Keyed) : ((plan active desired).map (·.target)).Nodup := by
  have hpublish : ((publications active desired).map (·.target)).Nodup := by
    refine (map_filterMap_sublist fun e he needed hneeded => ?_).nodup desired.nodup_sorted
    obtain ⟨target, registration⟩ := e
    dsimp only at hneeded
    split at hneeded
    · cases hneeded
    · rw [← Option.some.inj hneeded]
      exact hdesired target registration (Registrations.mem_sorted.mp he)
  have hreplace : ((replacements active desired).map (·.target)).Nodup := by
    refine (map_filterMap_sublist fun e he needed hneeded => ?_).nodup desired.nodup_sorted
    obtain ⟨target, registration⟩ := e
    dsimp only at hneeded
    split at hneeded
    · cases hneeded
    split at hneeded
    · cases hneeded
    · rw [← Option.some.inj hneeded]
      exact hdesired target registration (Registrations.mem_sorted.mp he)
  have hremove : ((removals active desired).map (·.target)).Nodup := by
    refine (map_filterMap_sublist fun e _ needed hneeded => ?_).nodup active.nodup_sorted
    obtain ⟨target, registration⟩ := e
    dsimp only at hneeded
    split at hneeded
    · cases hneeded
    · rw [← Option.some.inj hneeded]
      rfl
  rw [plan, List.map_append, List.map_append, List.nodup_append', List.nodup_append']
  refine ⟨⟨hpublish, hreplace, ?_⟩, hremove, ?_⟩
  · -- a target that is published is not active, one that is replaced is
    intro k hk hk'
    obtain ⟨n, hn, rfl⟩ := List.mem_map.mp hk
    obtain ⟨n', hn', heq⟩ := List.mem_map.mp hk'
    obtain ⟨target, registration, hget, hnone, rfl⟩ := mem_publications.mp hn
    obtain ⟨target', registration', previous, hget', hactive', _, rfl⟩ := mem_replacements.mp hn'
    obtain rfl := hdesired target registration hget
    obtain rfl := hdesired target' registration' hget'
    have hsame : registration'.extension.target = registration.extension.target := heq
    rw [hsame, hnone] at hactive'
    cases hactive'
  · -- one that is removed is not wanted
    intro k hk hk'
    obtain ⟨n', hn', rfl⟩ := List.mem_map.mp hk'
    obtain ⟨target', registration', _, hnone, rfl⟩ := mem_removals.mp hn'
    rcases List.mem_append.mp hk with hk | hk
    · obtain ⟨n, hn, heq⟩ := List.mem_map.mp hk
      obtain ⟨target, registration, hget, _, rfl⟩ := mem_publications.mp hn
      obtain rfl := hdesired target registration hget
      have hsame : registration.extension.target = target' := heq
      rw [hsame, hnone] at hget
      cases hget
    obtain ⟨n, hn, heq⟩ := List.mem_map.mp hk
    obtain ⟨target, registration, previous, hget, _, _, rfl⟩ := mem_replacements.mp hn
    obtain rfl := hdesired target registration hget
    have hsame : registration.extension.target = target' := heq
    rw [hsame, hnone] at hget
    cases hget

/-- A target that is not worked on holds what it is to hold. -/
theorem held_of_not_planned (hdesired : desired.Keyed) {k : RegistrationTarget}
    (hk : k ∉ (plan active desired).map (·.target)) : active.held k = desired.held k := by
  unfold Registrations.held
  have hnot : ∀ n ∈ plan active desired, n.target ≠ k := fun n hn heq =>
    hk (List.mem_map.mpr ⟨n, hn, heq⟩)
  rcases hold : active.get? k with _ | previous <;> rcases hnew : desired.get? k with _ | wanted
  · rfl
  · have hmem := mem_publications.mpr ⟨k, wanted, hnew, hold, rfl⟩
    exact absurd (hdesired k wanted hnew)
      (hnot _ (List.mem_append_left _ (List.mem_append_left _ hmem)))
  · have hmem := mem_removals.mpr ⟨k, previous, hold, hnew, rfl⟩
    exact absurd rfl (hnot _ (List.mem_append_right _ hmem))
  by_cases heq : previous.extension = wanted.extension
  · rw [Option.map_some, Option.map_some, heq]
  · have hmem := mem_replacements.mpr ⟨k, wanted, previous, hnew, hold, heq, rfl⟩
    exact absurd (hdesired k wanted hnew)
      (hnot _ (List.mem_append_left _ (List.mem_append_right _ hmem)))

end Plan

/-! ## The registry -/

namespace RegistrationContextRegistry

variable {r : RegistrationContextRegistry}

/-- The registry knows what it has published; after a rollback that has failed it knows at least
    where to look. -/
structure Sound (r : RegistrationContextRegistry) : Prop where
  keyed : r.active.Keyed
  untaken : r.backend.taken = []
  agrees : r.diverged = false →
    (∀ target, r.backend.ours.get? target = r.active.held target) ∧ r.cleanup = []
  covered : ∀ target, r.backend.ours.contains target = true →
    target ∈ r.active.keys ∨ target ∈ r.cleanup
  listed : r.diverged = true → ∀ target ∈ r.active.keys, target ∈ r.cleanup

/-- What a call has put back before it reports a failure. -/
structure Restored (r : RegistrationContextRegistry) (script : List Turn)
    (r' : RegistrationContextRegistry) : Prop where
  ours : ∀ target, r'.backend.ours.get? target = r.backend.ours.get? target
  theirs : (∀ turn ∈ script, turn.edits = []) → r'.backend.theirs = r.backend.theirs
  active : r'.active = r.active
  cleanup : r'.cleanup = r.cleanup
  diverged : r'.diverged = r.diverged

/-- What the answer to a call says about the dialplan and the registry. -/
structure Settled (r : RegistrationContextRegistry) (appearances : List RegistrationAppearance)
    (script : List Turn)
    (result : Except RegistrationRegistryError Unit × RegistrationContextRegistry) : Prop where
  published : result.1 = .ok () → ∀ target extension,
    result.2.backend.ours.get? target = some extension
      ↔ extension.target = target ∧ ∃ appearance ∈ appearances, extension ∈ appearance.extensions
  refused : result.1 = .error .conflictingTarget → result.2 = r.withScript script
  restored : ∀ operation source, result.1 = .error (.backend operation source) →
    Restored r script result.2
  poisoned : ∀ operation source rollbackSource,
    result.1 = .error (.rollbackFailed operation source rollbackSource) → result.2.diverged = true
  closed : r.diverged = true → result = (.error .diverged, r.withScript script)

/-- A failed call takes back what it has done. -/
theorem Sound.rollback (h : r.Sound) (hdiverged : r.diverged = false) {script : List Turn}
    {appearances : List RegistrationAppearance} {desired : Registrations} {backend : Dialplan}
    {log : List AppliedOperation} (operation : RegistrationRegistryOperation)
    (source : RegistrationExtensionBackendError)
    (hspared : Dialplan.Spared { r.backend with script } backend)
    (hlogged : Logged r.active.held log backend)
    (htargets : ∀ k ∈ log.map (·.target), k ∈ r.active.keys ∨ k ∈ desired.keys) :
    Sound ({ r with backend : RegistrationContextRegistry }.rollback operation source log
        desired).2
      ∧ Settled r appearances script
        ({ r with backend : RegistrationContextRegistry }.rollback operation source log
          desired) := by
  obtain ⟨hundone, hkeys⟩ := undoAll_spared none hlogged.stands hlogged.nodup
  have hrestores := undoAll_restores none hlogged
  have hall := hspared.trans hundone
  obtain ⟨hagrees, hcleanup⟩ := h.agrees hdiverged
  have hcovered : ∀ k, (undoAll log none backend).2.ours.contains k = true →
      k ∈ r.active.keys ∨ k ∈ desired.keys := by
    intro k hk
    by_cases hmem : k ∈ log.map (·.target)
    · exact htargets k hmem
    rcases hkeys k hk with hk | hk
    · obtain ⟨extension, hget⟩ := Table.contains_iff.mp hk
      rw [hlogged.rest k hmem] at hget
      exact .inl (Registrations.mem_keys_of_held hget)
    · exact absurd hk hmem
  unfold RegistrationContextRegistry.rollback
  dsimp only
  rcases hundo : undoAll log none backend with ⟨failure, restored⟩
  rw [hundo] at hall hrestores hcovered
  rcases failure with _ | rollbackSource
  · -- everything is as it was
    have hsame : ∀ k, restored.ours.get? k = r.active.held k := hrestores rfl
    refine ⟨⟨h.keyed, hall.taken.trans h.untaken, fun _ => ⟨hsame, hcleanup⟩, fun k hk => ?_,
      fun hd => ?_⟩, ⟨nofun, nofun, fun operation source _ => ?_, nofun, fun hd => ?_⟩⟩
    · obtain ⟨extension, hget⟩ := Table.contains_iff.mp hk
      rw [hsame] at hget
      exact .inl (Registrations.mem_keys_of_held hget)
    · rw [hdiverged] at hd
      cases hd
    · exact ⟨fun k => (hsame k).trans (hagrees k).symm, fun hcalm => (hall.undisturbed hcalm).2,
        rfl, rfl, rfl⟩
    · rw [hdiverged] at hd
      cases hd
  · refine ⟨⟨h.keyed, hall.taken.trans h.untaken, nofun, fun k hk => ?_, fun _ k hk => ?_⟩,
      ⟨nofun, nofun, nofun, fun _ _ _ _ => rfl, fun hd => ?_⟩⟩
    · rcases hcovered k hk with hk | hk
      · exact .inl hk
      · exact .inr (List.mem_append_right _ hk)
    · exact List.mem_append_left _ (List.mem_append_right _ hk)
    · rw [hdiverged] at hd
      cases hd

theorem Sound.reconcile (h : r.Sound) (appearances : List RegistrationAppearance)
    (script : List Turn) : Sound ((r.withScript script).reconcile appearances).2
      ∧ Settled r appearances script ((r.withScript script).reconcile appearances) := by
  have hscript : (r.withScript script).Sound := ⟨h.keyed, h.untaken, h.agrees, h.covered, h.listed⟩
  unfold RegistrationContextRegistry.reconcile
  rcases hdiverged : r.diverged with _ | _
  · have hopen : ¬ (r.withScript script).diverged = true := Bool.eq_false_iff.mp hdiverged
    have hnot : ∀ {p : Prop}, r.diverged = true → p := fun hd => by
      rw [hdiverged] at hd
      cases hd
    rw [if_neg hopen]
    rcases hdesired : desiredRegistrations appearances with error | desired
    · obtain rfl := error_desired hdesired
      exact ⟨hscript, nofun, fun _ => rfl, nofun, nofun, hnot⟩
    obtain ⟨hkeyed, hheld⟩ := held_desired hdesired
    have hagrees := (h.agrees hdiverged).1
    have hlogged : Logged r.active.held [] { r.backend with script } :=
      ⟨fun _ ha => absurd ha List.not_mem_nil, fun k _ => hagrees k,
        fun _ ha => absurd ha List.not_mem_nil, List.nodup_nil⟩
    have hpending : Pending r.active.held (plan r.active desired) [] :=
      ⟨fun n hn => (plan_cases h.keyed hkeyed hn).1, plan_nodup hkeyed, fun _ _ => List.not_mem_nil⟩
    have hworked := performAll_worked (plan r.active desired) hlogged hpending
    dsimp only [withScript]
    generalize performAll (plan r.active desired) [] { r.backend with script } = result
      at hworked
    cases hworked with
    | done hspared hvalues hrest =>
      rename_i log' d'
      -- every target holds what it is to hold
      have hfinal : ∀ k, d'.ours.get? k = desired.held k := by
        intro k
        by_cases hk : k ∈ (plan r.active desired).map (·.target)
        · obtain ⟨n, hn, rfl⟩ := List.mem_map.mp hk
          exact (hvalues n hn).trans (plan_cases h.keyed hkeyed hn).2.1
        · exact (hrest k hk).trans ((hagrees k).trans (held_of_not_planned hkeyed hk))
      refine ⟨⟨hkeyed, hspared.taken.trans h.untaken,
        fun _ => ⟨hfinal, (h.agrees hdiverged).2⟩, fun k hk => ?_, hnot⟩,
        ⟨fun _ target extension => ?_, nofun, nofun, nofun, hnot⟩⟩
      · obtain ⟨extension, hget⟩ := Table.contains_iff.mp hk
        exact .inl (Registrations.mem_keys_of_held ((hfinal k).symm.trans hget))
      · exact (iff_of_eq (congrArg (· = some extension) (hfinal target))).trans
          (hheld target extension)
    | failed hspared hlogged' htargets =>
      refine h.rollback hdiverged _ _ hspared hlogged' fun k hk => ?_
      rcases htargets k hk with hk | hk
      · obtain ⟨n, hn, rfl⟩ := List.mem_map.mp hk
        exact (plan_cases h.keyed hkeyed hn).2.2
      · exact absurd hk List.not_mem_nil
  · have hclosed : (r.withScript script).diverged = true := hdiverged
    rw [if_pos hclosed]
    exact ⟨hscript, nofun, nofun, nofun, nofun, fun _ => rfl⟩

/-! ## The end of the registry -/

/-- A target of the registry is left only if its removal has failed. -/
theorem removeAll_own (targets : List RegistrationTarget) (d : Dialplan) (k : RegistrationTarget)
    (hk : (removeAll targets d).2.ours.contains k = true) :
    d.ours.contains k = true ∧ (k ∈ targets → k ∈ (removeAll targets d).1) := by
  induction targets generalizing d with
  | nil => exact ⟨hk, fun hmem => absurd hmem List.not_mem_nil⟩
  | cons target rest ih =>
    obtain ⟨hothers, hgone, _, _⟩ := d.removeTarget_own target
    unfold removeAll at hk ⊢
    rcases hremove : d.removeTarget target with ⟨answer, d'⟩
    rw [hremove] at hothers hgone hk
    rcases answer with error | _
    · obtain ⟨hbefore, hfailed⟩ := ih d' hk
      dsimp only
      by_cases htarget : k = target
      · refine ⟨?_, fun _ => htarget ▸ List.mem_cons_self⟩
        rcases d.removeTarget_cases target with ⟨e, heq⟩ | heq
        · rw [hremove] at heq
          rw [(Prod.mk.inj heq).2, Dialplan.begin_ours] at hbefore
          exact hbefore
        · rw [hremove] at heq
          cases (Prod.mk.inj heq).1
      · refine ⟨?_, fun hmem => List.mem_cons_of_mem _ (hfailed ?_)⟩
        · unfold Table.contains at hbefore ⊢
          rw [hothers k htarget] at hbefore
          exact hbefore
        · exact (List.mem_cons.mp hmem).resolve_left htarget
    · obtain ⟨hbefore, hfailed⟩ := ih d' hk
      have htarget : k ≠ target := by
        rintro rfl
        rw [hgone rfl] at hbefore
        cases hbefore
      refine ⟨?_, fun hmem => hfailed ((List.mem_cons.mp hmem).resolve_left htarget)⟩
      unfold Table.contains at hbefore ⊢
      rw [hothers k htarget] at hbefore
      exact hbefore

/-- The removals take nothing from others, if they spare these or meet none. -/
theorem removeAll_untaken {targets : List RegistrationTarget} (hnodup : targets.Nodup)
    {d : Dialplan} (hsafe : ∀ target ∈ targets, d.ours.contains target = true
      ∨ d.spares = true ∨ d.Unclaimed target) : (removeAll targets d).2.taken = d.taken := by
  induction targets generalizing d with
  | nil => rfl
  | cons target rest ih =>
    obtain ⟨hnew, hnodup⟩ := List.nodup_cons.mp hnodup
    obtain ⟨hothers, _, hscript, hspares⟩ := d.removeTarget_own target
    obtain ⟨htheirs, htaken⟩ :=
      Dialplan.removeTarget_safe (hsafe target List.mem_cons_self)
    have hnext := ih hnodup (d := (d.removeTarget target).2) fun t ht => by
      have hne : t ≠ target := fun heq => hnew (heq ▸ ht)
      rcases hsafe t (List.mem_cons_of_mem _ ht) with hown | hspare | hclaim
      · left
        unfold Table.contains
        rw [hothers t hne]
        exact hown
      · exact .inr (.inl (hspares.trans hspare))
      have hbegun := hclaim.begin (.unpublish target)
      right
      right
      unfold Dialplan.Unclaimed
      rw [htheirs, hscript]
      exact hbegun
    unfold removeAll
    rcases hremove : d.removeTarget target with ⟨answer, d'⟩
    rw [hremove] at hnext htaken
    rcases answer with error | _
    · exact hnext.trans htaken
    · exact hnext.trans htaken

theorem mem_targets {target : RegistrationTarget} :
    target ∈ r.targets ↔ target ∈ r.active.keys ∨ target ∈ r.cleanup := by
  unfold targets
  rw [List.mem_insertionSort, List.mem_dedup, List.mem_append]

theorem nodup_targets (r : RegistrationContextRegistry) : r.targets.Nodup :=
  (List.perm_insertionSort _ _).nodup_iff.mpr (List.nodup_dedup _)

/-! ## Runs -/

/-- A call keeps its word, whichever its answer is. -/
def Settles (r : RegistrationContextRegistry) : Command → Prop
  | .reconcile appearances script =>
    Settled r appearances script ((r.withScript script).reconcile appearances)
  | .clear script => Settled r [] script (r.withScript script).clear
  | .others _ => True

theorem Sound.step (h : r.Sound) (command : Command) : (r.step command).Sound := by
  cases command with
  | reconcile appearances script => exact (h.reconcile appearances script).1
  | clear script => exact (h.reconcile [] script).1
  | others edits =>
    obtain ⟨hours, htaken, _, _⟩ := Dialplan.foldl_edit edits r.backend
    refine ⟨h.keyed, htaken.trans h.untaken, fun hd => ?_, fun target hmem => ?_, h.listed⟩
    · refine ⟨fun target => ?_, (h.agrees hd).2⟩
      exact (congrArg (·.get? target) hours).trans ((h.agrees hd).1 target)
    · exact h.covered target ((congrArg (·.contains target) hours).symm.trans hmem)

theorem Sound.settles (h : r.Sound) (command : Command) : r.Settles command := by
  cases command with
  | reconcile appearances script => exact (h.reconcile appearances script).2
  | clear script => exact (h.reconcile [] script).2
  | others edits => trivial

/-- A registry that has published nothing. -/
def fresh (theirs : Table RegistrationTarget String) (spares : Bool) :
    RegistrationContextRegistry where
  backend := { theirs, spares }

theorem fresh_sound (theirs : Table RegistrationTarget String) (spares : Bool) :
    (fresh theirs spares).Sound where
  keyed := fun _ _ hget => by cases hget
  untaken := rfl
  agrees := fun _ => ⟨fun _ => rfl, rfl⟩
  covered := fun _ hmem => by cases hmem
  listed := fun hd => by cases hd

/-- What is promised of the calls of a run and of the end of the registry, which meets `script`. -/
structure Faithful (r : RegistrationContextRegistry) (commands : List Command)
    (script : List Turn) : Prop where
  settles : Runs.Each step Settles r commands
  /-- No target of others is replaced or removed. -/
  untaken : Runs.Always step (fun r => r.backend.taken = []) r commands
  /-- What is left of the registry's targets could not be removed. -/
  dropped : ∀ target,
    ((Runs.run step r commands).withScript script).drop.2.ours.contains target = true →
      target ∈ ((Runs.run step r commands).withScript script).drop.1
  dropUntaken : ((Runs.run step r commands).withScript script).drop.2.taken = []

/-- The dialplan removes what the registry has published alone, or nothing on the list that a
    failed rollback has left belongs to others. -/
def Unclaimed (r : RegistrationContextRegistry) : Prop :=
  r.backend.spares = true ∨ ∀ target ∈ r.cleanup, r.backend.Unclaimed target

/-- Publication is transactional, and targets of others are safe but from the end of a registry
    whose rollback has failed. -/
theorem publication_transactional (theirs : Table RegistrationTarget String) (spares : Bool)
    (commands : List Command) (script : List Turn)
    (hdrop : ((Runs.run step (fresh theirs spares) commands).withScript script).Unclaimed) :
    Faithful (fresh theirs spares) commands script := by
  have hsound : (Runs.run step (fresh theirs spares) commands).Sound :=
    Runs.run_induction (fun _ command h => h.step command) (fresh_sound theirs spares) commands
  refine ⟨?_, ?_, fun target hmem => ?_, ?_⟩
  · exact Runs.each_of_invariant (I := Sound) (C := fun _ _ => True)
      (fun _ command h _ => h.settles command) (fun _ command h _ => h.step command)
      (fresh_sound theirs spares) (Runs.each_true _ _)
  · exact Runs.always_of_each (I := Sound) (C := fun _ _ => True) (fun _ h => h.untaken)
      (fun _ command h _ => h.step command) (fresh_sound theirs spares) (Runs.each_true _ _)
  · generalize Runs.run step (fresh theirs spares) commands = r at hsound hmem
    obtain ⟨hown, hfailed⟩ := removeAll_own _ _ target hmem
    exact hfailed (mem_targets.mpr (hsound.covered target hown))
  generalize Runs.run step (fresh theirs spares) commands = r at hsound hdrop
  refine (removeAll_untaken (nodup_targets _) fun target hmem => ?_).trans hsound.untaken
  rcases hdrop with hspares | hclaim
  · exact .inr (.inl hspares)
  rcases mem_targets.mp hmem with hactive | hcleanup
  · rcases hdiverged : r.diverged with _ | _
    · -- the active targets are the registry's own
      obtain ⟨registration, hget⟩ := Table.mem_keys.mp hactive
      refine .inl (Table.contains_iff.mpr ⟨registration.extension, ?_⟩)
      rw [show (r.withScript script).backend.ours = r.backend.ours from rfl,
        (hsound.agrees hdiverged).1]
      unfold Registrations.held
      rw [show r.active.get? target = some registration from hget, Option.map_some]
    · exact .inr (.inr (hclaim target (hsound.listed hdiverged target hactive)))
  · exact .inr (.inr (hclaim target hcleanup))

/-! ### Two extensions of a line -/

def lineExtension (context : String) : RegistrationExtensionSpec where
  target := ⟨"1001", context⟩
  line := "1001"
  contextPolicy := .createIfMissing

def lineAppearance : RegistrationAppearance where
  owner := ⟨⟨"SEP001122334455"⟩, 1⟩
  extensions := [lineExtension "one", lineExtension "two"]

/-- The second publication fails, and the first is not taken back. -/
def failedRollback : List Command :=
  [.reconcile [lineAppearance] [{}, { fault := some .unavailable }, { fault := some .failed }],
    .clear []]

/-- A registry whose rollback has failed leaves alone what it never wanted. -/
theorem publication_transactional_failed : Faithful
    (fresh ((∅ : Table RegistrationTarget String).insert ⟨"1002", "two"⟩ "Dial") false)
    failedRollback [] := by
  refine publication_transactional _ _ _ _ (.inr fun target hmem => ⟨?_, nofun⟩)
  have hlist : ∀ target ∈ (Runs.run step
      (fresh ((∅ : Table RegistrationTarget String).insert ⟨"1002", "two"⟩ "Dial") false)
      failedRollback).cleanup, (Runs.run step
      (fresh ((∅ : Table RegistrationTarget String).insert ⟨"1002", "two"⟩ "Dial") false)
      failedRollback).backend.theirs.contains target = false := by
    decide
  exact hlist target hmem

/-- But the target that somebody else has, and whose publication was refused for it, is removed. -/
theorem foreign_target_removed : ¬ Faithful
    (fresh ((∅ : Table RegistrationTarget String).insert ⟨"1001", "two"⟩ "Dial") false)
    [.reconcile [lineAppearance] [{}, {}, { fault := some .failed }]] [] := by
  intro h
  have htaken : ((Runs.run step
      (fresh ((∅ : Table RegistrationTarget String).insert ⟨"1001", "two"⟩ "Dial") false)
      [.reconcile [lineAppearance] [{}, {}, { fault := some .failed }]]).withScript []).drop.2.taken
      = [⟨"1001", "two"⟩] := by
    decide
  rw [h.dropUntaken] at htaken
  cases htaken

end RegistrationContextRegistry

end Sccp.Pbx
