/-
  Sccp.Safety.ResourceBinding

  The gate of a shared resource.

  In whatever order threads call, sleep, wake and drop their permits, the count of active
  operations is that of the permits that are out, and all of them are for the current
  resource until the binding is closed.  Between a suspension and the next resumption no
  permit is given, and no thread sleeps through the change that it waits for.
-/

import Mathlib.Logic.Relation
import Sccp.Lib.Runs
import Sccp.Runtime.ResourceBinding

namespace Sccp

namespace ResourceBinding

variable {T : Type} {b b' s : ResourceBinding T} {resumes : Prop}

/-! ## Moves -/

/-- One change of the binding, and when it happens. -/
inductive Move (resumes : Prop) : ResourceBinding T → ResourceBinding T → Prop
  | sleep {b : ResourceBinding T} {thread wait} (hblocks : b.state.blocks wait = true) :
      Move resumes b { b with sleeping := b.sleeping.insert thread (wait, false) }
  | goOn {b : ResourceBinding T} (thread) :
      Move resumes b { b with sleeping := b.sleeping.erase thread }
  | grant {b : ResourceBinding T} {resource} (hactive : b.state.phase = .active)
      (hcurrent : b.state.current = some resource) :
      Move resumes b { b with
        state.activeOperations := b.state.activeOperations + 1
        permits := b.permits ++ [resource] }
  | answer {b : ResourceBinding T} {thread suspended}
      (hquiet : suspended = true → b.state.activeOperations = 0) :
      Move resumes b (b.answer thread suspended)
  | suspend {b : ResourceBinding T} (hopen : b.state.phase ≠ .closed) :
      Move resumes b { b with state.phase := .suspended }
  | resume {b : ResourceBinding T} (hresumes : resumes) (hsuspended : b.state.phase = .suspended) :
      Move resumes b { b with state.phase := .active }.notifyAll
  | replace {b : ResourceBinding T} {resource} (hopen : b.state.phase ≠ .closed)
      (hquiet : b.state.activeOperations = 0) :
      Move resumes b { b with state.current := some resource }
  | close {b : ResourceBinding T} : Move resumes b b.close
  | notify {b : ResourceBinding T} : Move resumes b b.notifyAll
  | drop {b : ResourceBinding T} {index : Nat} (hlt : index < b.permits.length)
      (hnotified : b.state.activeOperations - 1 = 0 →
        ∀ thread wait, b.sleeping.get? thread ≠ some (wait, false)) :
      Move resumes b { b with
        state.activeOperations := b.state.activeOperations - 1
        permits := b.permits.eraseIdx index }

/-- What every move keeps, a sequence of moves keeps. -/
theorem kept {I : ResourceBinding T → Prop} (hmove : ∀ b b', I b → Move resumes b b' → I b')
    (h : I b) (hmoves : Relation.ReflTransGen (Move resumes) b b') : I b' := by
  induction hmoves with
  | refl => exact h
  | tail _ hstep ih => exact hmove _ _ ih hstep

/-- Every thread that sleeps has been notified. -/
theorem notified (b : ResourceBinding T) (thread : ThreadId) (wait : BindingWait) :
    b.notifyAll.sleeping.get? thread ≠ some (wait, false) := by
  intro h
  have hmap : (b.sleeping.get? thread).map (fun sleep => (sleep.1, true)) = some (wait, false) :=
    (Table.get?_mapValues ..).symm.trans h
  obtain ⟨_, _, heq⟩ := Option.map_eq_some_iff.mp hmap
  cases heq

theorem moves_grant (hactive : b.state.phase = .active) :
    Relation.ReflTransGen (Move resumes) b b.grant := by
  unfold grant
  split
  · exact .refl
  next resource hcurrent => exact .single (.grant hactive hcurrent)

theorem moves_look (b : ResourceBinding T) (thread : ThreadId) (wait : BindingWait) :
    Relation.ReflTransGen (Move resumes) b (b.look thread wait) := by
  unfold look
  split
  next hblocks => exact .single (.sleep hblocks)
  next hfree =>
  refine .head (.goOn thread) ?_
  cases wait with
  | enter =>
    dsimp only
    split
    · exact .refl
    next hopen =>
    -- neither suspended nor closed
    refine moves_grant ?_
    have hsuspended : ¬ b.state.phase = .suspended := by simpa [BindingState.blocks] using hfree
    show b.state.phase = .active
    cases hphase : b.state.phase with
    | active => rfl
    | suspended => exact absurd hphase hsuspended
    | closed => exact absurd hphase hopen
  | suspend =>
    refine .single (.answer fun hopen => ?_)
    show b.state.activeOperations = 0
    by_contra hne
    refine hfree ?_
    simpa [BindingState.blocks, hne] using hopen

/-- Every method is a sequence of moves, and only `resume` resumes. -/
theorem moves_handle (b : ResourceBinding T) (event : BindingEvent T) :
    Relation.ReflTransGen (Move (∃ thread, event = .call thread .resume)) b (b.handle event) := by
  cases event with
  | call thread call =>
    show Relation.ReflTransGen _ b (if _ then _ else _)
    split
    · exact .refl
    cases call with
    | enter => exact moves_look b thread .enter
    | tryEnter =>
      unfold ResourceBinding.call tryEnter
      dsimp only
      split
      · exact .refl
      next hactive => exact moves_grant (not_not.mp hactive)
    | suspend =>
      unfold ResourceBinding.call suspend
      dsimp only
      split
      · exact .single (.answer (by simp))
      next hopen => exact .head (.suspend hopen) (moves_look _ thread .suspend)
    | trySuspend =>
      unfold ResourceBinding.call trySuspend
      dsimp only
      split
      · exact .single (.answer (by simp))
      next hquiet =>
      rw [not_or, not_not, not_not] at hquiet
      exact .head (.suspend (by rw [hquiet.1]; simp)) (.single (.answer fun _ => hquiet.2))
    | resume =>
      unfold ResourceBinding.call resume
      dsimp only
      split
      · exact .refl
      next hsuspended => exact .single (.resume ⟨thread, rfl⟩ (not_not.mp hsuspended))
    | replaceQuiescent resource =>
      unfold ResourceBinding.call replaceQuiescent
      dsimp only
      split
      · exact .refl
      next hquiet =>
      rw [not_or, not_not] at hquiet
      exact .single (.replace hquiet.1 hquiet.2)
    | close => exact .single .close
  | wake thread =>
    unfold handle
    dsimp only
    split
    · exact .refl
    · exact moves_look b thread _
  | dropPermit index =>
    unfold handle dropPermit
    dsimp only
    split
    next hlt =>
      split
      · -- under the lock it does not matter that the threads are notified before the drop
        exact .head .notify (.single (.drop (b := b.notifyAll) hlt fun _ => notified b))
      next hbusy => exact .single (.drop hlt fun hlast => absurd hlast hbusy)
    · exact .refl

/-! ## The permits -/

/-- What the binding keeps count of. -/
structure Sound (b : ResourceBinding T) : Prop where
  counted : b.state.activeOperations = b.permits.length
  shared : ∀ current, b.state.current = some current → ∀ permit ∈ b.permits, permit = current
  closed : b.state.phase = .closed ↔ b.state.current = none
  once : b.handedBack.length + b.state.current.toList.length = 1

theorem sound_new (resource : T) : Sound (new resource) where
  counted := rfl
  shared _ _ _ hmem := absurd hmem List.not_mem_nil
  closed := by simp [new]
  once := rfl

theorem Sound.move (h : Sound b) (hmove : Move resumes b b') : Sound b' := by
  cases hmove with
  | sleep | goOn | answer | notify => exact ⟨h.counted, h.shared, h.closed, h.once⟩
  | @grant resource hactive hcurrent =>
    refine ⟨?_, fun c hc permit hmem => ?_, h.closed, h.once⟩
    · show b.state.activeOperations + 1 = (b.permits ++ [resource]).length
      rw [List.length_append, h.counted]
      rfl
    · rcases List.mem_append.mp hmem with hold | hnew
      · exact h.shared c hc permit hold
      · rw [List.mem_singleton.mp hnew]
        exact Option.mem_unique hcurrent hc
  | suspend hopen =>
    exact ⟨h.counted, h.shared, iff_of_false (by simp) (mt h.closed.mpr hopen), h.once⟩
  | resume hresumes hsuspended =>
    have hopen : b.state.phase ≠ .closed := by rw [hsuspended]; simp
    exact ⟨h.counted, h.shared, iff_of_false (by simp [notifyAll]) (mt h.closed.mpr hopen), h.once⟩
  | replace hopen hquiet =>
    -- no permit is left that could be for the resource replaced
    have hnone : b.permits = [] := List.length_eq_zero_iff.mp (h.counted.symm.trans hquiet)
    obtain ⟨current, hcurrent⟩ := Option.ne_none_iff_exists'.mp (mt h.closed.mpr hopen)
    have honce := h.once
    rw [hcurrent] at honce
    refine ⟨h.counted, fun _ _ permit hmem => ?_, iff_of_false hopen (by simp), honce⟩
    rw [hnone] at hmem
    exact absurd hmem List.not_mem_nil
  | close =>
    refine ⟨h.counted, fun _ hc => (by cases hc), iff_of_true rfl rfl, ?_⟩
    show (b.handedBack ++ b.state.current.toList).length + 0 = 1
    rw [List.length_append]
    exact h.once
  | @drop index hlt =>
    refine ⟨?_, fun c hc permit hmem => ?_, h.closed, h.once⟩
    · show b.state.activeOperations - 1 = (b.permits.eraseIdx index).length
      rw [List.length_eraseIdx_of_lt hlt, h.counted]
    · exact h.shared c hc permit (List.mem_of_mem_eraseIdx hmem)

theorem Sound.handle (h : Sound b) (event : BindingEvent T) : Sound (b.handle event) :=
  kept (fun _ _ h hmove => h.move hmove) h (moves_handle b event)

/-- In every interleaving, each permit that is out is counted, and is for the resource that
    is current as long as there is one; and the binding hands back exactly one resource, when
    it is closed. -/
theorem binding_sound (resource : T) (events : List (BindingEvent T)) :
    Runs.Always handle Sound (new resource) events :=
  Runs.always_of_each (fun _ h => h) (fun _ event h _ => h.handle event) (sound_new resource)
    (Runs.each_true _ _)

/-! ## Suspensions -/

/-- No permit has been given since a state, and a suspension that has succeeded since has
    left no permit out. -/
structure Quiet (s b : ResourceBinding T) : Prop where
  phase : b.state.phase ≠ .active
  permits : b.permits.Sublist s.permits
  answers : ∃ later, b.suspensions = s.suspensions ++ later
    ∧ ((∃ a ∈ later, a.2 = true) → b.permits = [])

theorem Quiet.refl (h : b.state.phase ≠ .active) : Quiet b b where
  phase := h
  permits := .refl _
  answers := ⟨[], (List.append_nil _).symm, fun h => absurd h.choose_spec.1 List.not_mem_nil⟩

theorem Quiet.move (hsound : Sound b) (h : Quiet s b) (hmove : Move resumes b b')
    (hresumes : ¬ resumes) : Quiet s b' := by
  cases hmove with
  | sleep | goOn | replace | notify => exact ⟨h.phase, h.permits, h.answers⟩
  | grant hactive => exact absurd hactive h.phase
  | @answer thread suspended hquiet =>
    obtain ⟨later, hlater, hdone⟩ := h.answers
    refine ⟨h.phase, h.permits, later ++ [(thread, suspended)], ?_, ?_⟩
    · show b.suspensions ++ _ = _
      rw [hlater, List.append_assoc]
    rintro ⟨a, ha, htrue⟩
    rcases List.mem_append.mp ha with hold | hnew
    · exact hdone ⟨a, hold, htrue⟩
    · rw [List.mem_singleton.mp hnew] at htrue
      exact List.length_eq_zero_iff.mp (hsound.counted.symm.trans (hquiet htrue))
  | suspend => exact ⟨by simp, h.permits, h.answers⟩
  | resume hresumes' => exact absurd hresumes' hresumes
  | close => exact ⟨by simp [close, notifyAll], h.permits, h.answers⟩
  | @drop index =>
    obtain ⟨later, hlater, hdone⟩ := h.answers
    refine ⟨h.phase, (List.eraseIdx_sublist ..).trans h.permits, later, hlater, fun hended => ?_⟩
    show b.permits.eraseIdx index = []
    rw [hdone hended]
    rfl

/-- From any state of any run in which the binding is suspended or closed, as long as nobody
    resumes it: it does not become active, no new permit is given, and once a suspension has
    answered that it succeeded no permit is out. -/
theorem suspension_quiet (resource : T) (before later : List (BindingEvent T))
    (hstopped : (Runs.run handle (new resource) before).state.phase ≠ .active)
    (hresume : ∀ thread, .call thread .resume ∉ later) :
    Runs.Always handle (Quiet (Runs.run handle (new resource) before))
      (Runs.run handle (new resource) before) later := by
  have hsound : Sound (Runs.run handle (new resource) before) :=
    Runs.run_induction (fun _ event h => h.handle event) (sound_new resource) before
  refine Runs.always_of_each (I := fun b => Sound b ∧ Quiet _ b)
    (C := fun _ event => ¬ ∃ thread, event = .call thread .resume) (fun _ h => h.2)
    (fun b event h hevent => kept (I := fun b => Sound b ∧ Quiet _ b)
      (fun _ _ h hmove => ⟨h.1.move hmove, h.2.move h.1 hmove hevent⟩) h (moves_handle b event))
    ⟨hsound, .refl hstopped⟩ (Runs.each_of_mem (fun event hmem hcall => ?_) _)
  obtain ⟨thread, rfl⟩ := hcall
  exact hresume thread hmem

theorem suspension_quiet_trySuspend :
    Runs.Always handle (Quiet (Runs.run handle (new 7) [.call ⟨0⟩ .trySuspend]))
      (Runs.run handle (new 7) [.call ⟨0⟩ .trySuspend]) [.call ⟨1⟩ .tryEnter] :=
  suspension_quiet 7 _ _ (by decide) (by simp)

/-! ## The condition variable -/

/-- A thread sleeps without having been notified only as long as it has to wait. -/
def Awake (b : ResourceBinding T) : Prop :=
  ∀ thread wait, b.sleeping.get? thread = some (wait, false) → b.state.blocks wait = true

/-- As long as nobody is notified, a change may make more threads wait, but not fewer. -/
theorem Awake.mono (h : Awake b) (hsleeping : b'.sleeping = b.sleeping)
    (hblocks : ∀ wait, b.state.blocks wait = true → b'.state.blocks wait = true) : Awake b' := by
  intro thread wait hsleep
  rw [hsleeping] at hsleep
  exact hblocks wait (h thread wait hsleep)

theorem Awake.move (h : Awake b) (hmove : Move resumes b b') : Awake b' := by
  cases hmove with
  | sleep hblocks =>
    intro thread wait hsleep
    rw [Table.get?_insert] at hsleep
    split at hsleep
    · cases hsleep
      exact hblocks
    · exact h thread wait hsleep
  | goOn =>
    intro thread wait hsleep
    rw [Table.get?_erase] at hsleep
    split at hsleep
    · cases hsleep
    · exact h thread wait hsleep
  | answer | replace => exact h
  | grant =>
    refine h.mono rfl fun wait hblocks => ?_
    cases wait <;> simp_all [BindingState.blocks]
  | suspend hopen =>
    refine h.mono rfl fun wait hblocks => ?_
    cases wait with
    | enter => rfl
    | suspend => simpa [BindingState.blocks, hopen] using hblocks
  | resume | close | notify => exact fun thread wait h => absurd h (notified _ thread wait)
  | drop hlt hnotified =>
    intro thread wait hsleep
    -- a suspension still waits for the permits that are left
    have hbusy := fun hlast => hnotified hlast thread wait hsleep
    have hblocks := h thread wait hsleep
    cases wait <;> simp_all [BindingState.blocks]

/-- No wake-up is lost: in every interleaving, a thread that could go on has been notified. -/
theorem no_lost_wakeup (resource : T) (events : List (BindingEvent T)) :
    Runs.Always handle Awake (new resource) events :=
  Runs.always_of_each (fun _ h => h)
    (fun b event h _ => kept (fun _ _ h hmove => h.move hmove) h (moves_handle b event))
    (fun _ _ h => by cases h) (Runs.each_true _ _)

end ResourceBinding

end Sccp
