/-
  Sccp.Safety.CallbackUpdates

  Callback coalescing refines the raw stream.

  Beside the queue a chronicle keeps what the worker would have been told without
  coalescing: for each key, every update taken in since the key was last popped or
  discarded, and when the key became pending.  The entry of a key is a function of
  the key's raw updates, and the order queue is the pending keys by arrival.
-/

import Mathlib.Data.List.Induction
import Mathlib.Order.Lattice
import Sccp.Lib.Runs
import Sccp.Runtime.CallbackUpdates

namespace Sccp

namespace CallbackUpdates

variable {K V : Type*}
variable {update : CallbackUpdate V} {updates : List (CallbackUpdate V)} {key : K}
  {entry : PendingUpdate V}

/-! ## What a raw stream comes to -/

variable (updates)

/-- The newest generation among the updates. -/
def newest : Nat :=
  updates.foldl (fun generation update => max generation update.generation) 0

/-- The updates of the newest generation. -/
def current : List (CallbackUpdate V) :=
  updates.filter fun update => update.generation = newest updates

/-- The updates up to and including the first terminal one. -/
def upToTerminal : List (CallbackUpdate V) → List (CallbackUpdate V)
  | [] => []
  | update :: rest => if update.terminal then [update] else update :: upToTerminal rest

/-- The entry that stands for the updates. -/
def pending : Option (PendingUpdate V) :=
  match upToTerminal (current updates) with
  | [] => none
  | first :: rest => some {
      generation := newest updates
      first := first.value
      latest := rest.getLast?.map (·.value)
      terminal := (first :: rest).any (·.terminal) }

/-- What the worker is given for the updates: the first one of the newest
    generation, and the last later one up to the generation's first terminal one. -/
def coalesce : Option (V × Option V) :=
  match upToTerminal (current updates) with
  | [] => none
  | first :: rest => some (first.value, rest.getLast?.map (·.value))

theorem coalesce_eq_pending :
    coalesce updates = (pending updates).map fun entry => (entry.first, entry.latest) := by
  rw [coalesce, pending]
  cases upToTerminal (current updates) with
  | nil => rfl
  | cons first rest => rfl

theorem newest_append (update : CallbackUpdate V) :
    newest (updates ++ [update]) = max (newest updates) update.generation := by
  rw [newest, List.foldl_append]
  rfl

variable {updates}

theorem newest_append_of_lt (h : newest updates < update.generation) :
    newest (updates ++ [update]) = update.generation := by
  rw [newest_append]
  exact max_eq_right h.le

theorem newest_append_of_le (h : update.generation ≤ newest updates) :
    newest (updates ++ [update]) = newest updates := by
  rw [newest_append]
  exact max_eq_left h

theorem le_newest (h : update ∈ updates) : update.generation ≤ newest updates := by
  induction updates using List.reverseRecOn with
  | nil => exact absurd h List.not_mem_nil
  | append_singleton updates last ih =>
    rw [newest_append]
    rcases List.mem_append.mp h with h | h
    · exact (ih h).trans (le_max_left ..)
    · rw [List.mem_singleton.mp h]
      exact le_max_right ..

theorem current_append_newer (h : newest updates < update.generation) :
    current (updates ++ [update]) = [update] := by
  have hnewest := newest_append_of_lt h
  have hold : updates.filter (fun u => u.generation = update.generation) = [] := by
    refine List.filter_eq_nil_iff.mpr fun u hu => ?_
    have := le_newest hu
    simp only [decide_eq_true_eq]
    omega
  rw [current, hnewest, List.filter_append, hold]
  simp

theorem current_append_same (h : update.generation = newest updates) :
    current (updates ++ [update]) = current updates ++ [update] := by
  have hnewest := newest_append_of_le h.le
  rw [current, hnewest, List.filter_append, current]
  simp [h]

theorem current_append_older (h : update.generation < newest updates) :
    current (updates ++ [update]) = current updates := by
  have hnewest := newest_append_of_le h.le
  rw [current, hnewest, List.filter_append, current]
  simp [h.ne]

variable (updates)

theorem any_upToTerminal : (upToTerminal updates).any (·.terminal) = updates.any (·.terminal) := by
  induction updates with
  | nil => rfl
  | cons update rest ih =>
    rw [upToTerminal]
    split
    · next h => simp [h]
    · rw [List.any_cons, List.any_cons, ih]

/-- A later update counts unless a terminal one came before it. -/
theorem upToTerminal_append (update : CallbackUpdate V) :
    upToTerminal (updates ++ [update])
      = if updates.any (·.terminal) then upToTerminal updates
        else upToTerminal updates ++ [update] := by
  induction updates with
  | nil => simp [upToTerminal]
  | cons first rest ih =>
    rw [List.cons_append, upToTerminal, upToTerminal, List.any_cons, ih]
    by_cases hfirst : first.terminal = true
    · simp [hfirst]
    rw [if_neg hfirst, if_neg hfirst, eq_false_of_ne_true hfirst, Bool.false_or]
    split
    · rfl
    · rfl

variable {updates}

/-! ### The entry after one more update -/

variable [DecidableEq K]

theorem pending_singleton (update : CallbackUpdate V) :
    pending [update] = some (pendingUpdate update) := by
  simp [pending, current, newest, upToTerminal, pendingUpdate]

theorem pending_generation (h : pending updates = some entry) :
    entry.generation = newest updates := by
  rw [pending] at h
  split at h
  · exact absurd h (by simp)
  · rw [← Option.some.inj h]

theorem pending_append_newer (h : newest updates < update.generation) :
    pending (updates ++ [update]) = some (pendingUpdate update) := by
  have hnewest := newest_append_of_lt h
  rw [pending, current_append_newer h, hnewest]
  simp [upToTerminal, pendingUpdate]

theorem pending_append_older (h : update.generation < newest updates) :
    pending (updates ++ [update]) = pending updates := by
  have hnewest := newest_append_of_le h.le
  rw [pending, current_append_older h, hnewest, pending]

/-- An update of the entry's own generation is its latest, while none was terminal. -/
theorem pending_append_same (hentry : pending updates = some entry)
    (h : update.generation = newest updates) :
    pending (updates ++ [update]) = some (if !entry.terminal then
      { entry with latest := some update.value, terminal := update.terminal } else entry) := by
  have hnewest := newest_append_of_le h.le
  rw [pending] at hentry
  split at hentry
  · exact absurd hentry (by simp)
  next first rest hcurrent =>
  obtain rfl := Option.some.inj hentry
  have hany : (current updates).any (·.terminal) = (first :: rest).any (·.terminal) := by
    rw [← any_upToTerminal, hcurrent]
  rw [pending, current_append_same h, upToTerminal_append, hany, hcurrent, hnewest]
  by_cases hterminal : (first :: rest).any (·.terminal) = true
  · simp [hterminal]
  rw [if_neg hterminal, eq_false_of_ne_true hterminal]
  have hrest := eq_false_of_ne_true hterminal
  rw [List.any_cons, Bool.or_eq_false_iff] at hrest
  simp [List.any_append, hrest.1, hrest.2]

/-! ## The chronicle of a queue -/

/-- What is known about a queue beside its state.  `clock` counts the operations,
    `arrived` is when a key last became pending, and `updates` are the updates taken
    in for a key since it was last popped or discarded. -/
structure Chronicle (K V : Type*) where
  clock : Nat := 0
  arrived : K → Nat := fun _ => 0
  updates : K → List (CallbackUpdate V) := fun _ => []

/-- The chronicle after an operation on the queue `c`. -/
def Chronicle.record (h : Chronicle K V) (c : CallbackUpdates K V) :
    Operation K V → Chronicle K V
  | .push key update =>
    if (c.push key update).2 then {
      clock := h.clock + 1
      arrived := fun k => if k = key ∧ k ∉ c.order then h.clock else h.arrived k
      updates := fun k => if k = key then h.updates k ++ [update] else h.updates k }
    else { h with clock := h.clock + 1 }
  | .discard retired => { h with
      clock := h.clock + 1
      updates := fun k => if retired k then [] else h.updates k }
  | .pop => { h with
      clock := h.clock + 1
      updates := fun k => if c.order.head? = some k then [] else h.updates k }

/-- The chronicle of a run. -/
def chronicle : CallbackUpdates K V → Chronicle K V → List (Operation K V) → Chronicle K V
  | _, h, [] => h
  | c, h, operation :: rest => chronicle (c.step operation) (h.record c operation) rest

/-- The queue holds what its chronicle comes to. -/
structure Tells (c : CallbackUpdates K V) (h : Chronicle K V) : Prop where
  nodup : c.order.Nodup
  listed : ∀ key, key ∈ c.order ↔ c.entries.contains key = true
  told : ∀ key, c.entries.get? key = pending (h.updates key)
  quiet : ∀ key, key ∉ c.order → h.updates key = []
  sorted : c.order.Pairwise fun earlier later => h.arrived earlier < h.arrived later
  past : ∀ key ∈ c.order, h.arrived key < h.clock

theorem tells_new (capacity : Nat) : Tells (new capacity : CallbackUpdates K V) {} where
  nodup := List.nodup_nil
  listed key := by simp [new, Table.contains]
  told _ := rfl
  quiet _ _ := rfl
  sorted := List.Pairwise.nil
  past key h := absurd h List.not_mem_nil

variable {c : CallbackUpdates K V} {h : Chronicle K V}

theorem Tells.not_mem (t : Tells c h) : key ∉ c.order ↔ c.entries.get? key = none := by
  rw [t.listed, Bool.not_eq_true, Table.not_contains_iff]

/-- A key is in the order queue exactly while the chronicle has updates of it. -/
theorem Tells.mem_order_iff (t : Tells c h) : key ∈ c.order ↔ h.updates key ≠ [] := by
  constructor
  · intro hmem hnil
    obtain ⟨entry, hentry⟩ := Table.contains_iff.mp ((t.listed key).mp hmem)
    rw [t.told, hnil] at hentry
    cases hentry
  · intro hne
    by_contra hmem
    exact hne (t.quiet key hmem)

/-- The order queue and the entries have one length. -/
theorem Tells.size (t : Tells c h) : c.entries.size = c.order.length := by
  have hperm : c.entries.keys.Perm c.order := by
    refine (List.perm_ext_iff_of_nodup c.entries.nodup t.nodup).mpr fun key => ?_
    rw [t.listed, Table.contains_iff]
    exact Table.mem_keys
  rw [← hperm.length_eq, Table.keys, List.length_map, Table.size]

/-- An entry replaced in place, or left as it is, by a push that is taken in. -/
theorem Tells.replace (t : Tells c h) {entries : Table K (PendingUpdate V)} {wake : Bool}
    (hmem : key ∈ c.order) (hpush : (c.push key update).2 = true)
    (hother : ∀ k, k ≠ key → entries.get? k = c.entries.get? k)
    (hself : entries.get? key = pending (h.updates key ++ [update]))
    (hkept : entries.contains key = true) :
    Tells { c with entries := entries, wake := wake } (h.record c (.push key update)) := by
  rw [Chronicle.record, if_pos hpush]
  have harrived : ∀ k, (if k = key ∧ k ∉ c.order then h.clock else h.arrived k) = h.arrived k := by
    intro k
    refine if_neg ?_
    rintro ⟨rfl, hk⟩
    exact hk hmem
  refine ⟨t.nodup, fun k => ?_, fun k => ?_, fun k hk => ?_, ?_, fun k hk => ?_⟩
  · by_cases hk : k = key
    · subst hk
      exact iff_of_true hmem hkept
    · rw [Table.contains, hother k hk]
      exact t.listed k
  · dsimp only
    split
    · next hk => rw [hk, hself]
    · next hk => rw [hother k hk, t.told]
  · have hne : k ≠ key := by
      rintro rfl
      exact hk hmem
    dsimp only
    rw [if_neg hne]
    exact t.quiet k hk
  · simpa only [harrived] using t.sorted
  · dsimp only
    rw [harrived]
    exact Nat.lt_succ_of_lt (t.past k hk)

/-- A key becomes pending at the end of the queue. -/
theorem Tells.arrive (t : Tells c h) {wake : Bool} (hnew : key ∉ c.order)
    (hpush : (c.push key update).2 = true) :
    Tells { c with
        order := c.order ++ [key]
        entries := c.entries.insert key (pendingUpdate update)
        wake := wake } (h.record c (.push key update)) := by
  rw [Chronicle.record, if_pos hpush]
  have hne : ∀ k ∈ c.order, k ≠ key := by
    rintro k hk rfl
    exact hnew hk
  have harrived : ∀ k ∈ c.order,
      (if k = key ∧ k ∉ c.order then h.clock else h.arrived k) = h.arrived k :=
    fun k hk => if_neg fun hand => hand.2 hk
  refine ⟨?_, fun k => ?_, fun k => ?_, fun k hk => ?_, ?_, fun k hk => ?_⟩
  · exact List.nodup_append.mpr ⟨t.nodup, List.nodup_singleton key, by
      intro a ha b hb
      rw [List.mem_singleton.mp hb]
      exact hne a ha⟩
  · rw [List.mem_append, List.mem_singleton, t.listed, Table.contains_insert]
    simp [or_comm]
  · rw [Table.get?_insert]
    dsimp only
    by_cases hk : k = key
    · rw [if_pos hk, hk, if_pos rfl, t.quiet key hnew]
      exact (pending_singleton update).symm
    · rw [if_neg hk, if_neg hk, t.told]
  · rw [List.mem_append, List.mem_singleton, not_or] at hk
    dsimp only
    rw [if_neg hk.2]
    exact t.quiet k hk.1
  · -- every key that was waiting arrived before the clock's present reading
    refine List.pairwise_append.mpr ⟨?_, List.pairwise_singleton .., fun a ha b hb => ?_⟩
    · exact t.sorted.imp_of_mem fun ha hb hlt => by
        dsimp only
        rw [harrived _ ha, harrived _ hb]
        exact hlt
    · dsimp only
      rw [List.mem_singleton.mp hb, harrived a ha, if_pos ⟨rfl, hnew⟩]
      exact t.past a ha
  · dsimp only
    rcases List.mem_append.mp hk with hk | hk
    · rw [harrived k hk]
      exact Nat.lt_succ_of_lt (t.past k hk)
    · obtain rfl := List.mem_singleton.mp hk
      rw [if_pos ⟨rfl, hnew⟩]
      exact Nat.lt_succ_self _

theorem Tells.waited (t : Tells c h) : Tells c { h with clock := h.clock + 1 } :=
  { t with past := fun k hk => Nat.lt_succ_of_lt (t.past k hk) }

/-! ### One push, by what it finds -/

theorem push_full (hentry : c.entries.get? key = none) (hfull : c.capacity ≤ c.entries.size) :
    c.push key update = (c, false) := by
  simp only [push, hentry, if_pos hfull]

theorem push_new (update : CallbackUpdate V) (hentry : c.entries.get? key = none)
    (hfull : ¬ c.capacity ≤ c.entries.size) :
    c.push key update = ({ c with
      order := c.order ++ [key]
      entries := c.entries.insert key (pendingUpdate update)
      wake := true }, true) := by
  simp only [push, hentry, if_neg hfull]

/-- A push for a pending key is taken in, and puts an entry in its place. -/
theorem push_pending (update : CallbackUpdate V) (hentry : c.entries.get? key = some entry) :
    ∃ entries wake, c.push key update = ({ c with entries := entries, wake := wake }, true) ∧
      (∀ k, k ≠ key → entries.get? k = c.entries.get? k) ∧
      entries.get? key = some (
        if entry.generation = update.generation then
          if !entry.terminal then
            { entry with latest := some update.value, terminal := update.terminal }
          else entry
        else if entry.generation > update.generation then entry
        else pendingUpdate update) := by
  have hother : ∀ (e : PendingUpdate V) (k : K), k ≠ key →
      (c.entries.insert key e).get? k = c.entries.get? k := by
    intro e k hk
    rw [Table.get?_insert, if_neg hk]
  have hself : ∀ e : PendingUpdate V, (c.entries.insert key e).get? key = some e := by
    intro e
    rw [Table.get?_insert, if_pos rfl]
  by_cases hsame : entry.generation = update.generation
  · refine ⟨_, true, ?_, hother _, (hself _).trans (by rw [if_pos hsame])⟩
    simp only [push, hentry, if_pos hsame]
  by_cases holder : entry.generation > update.generation
  · refine ⟨c.entries, c.wake, ?_, fun _ _ => rfl, ?_⟩
    · simp only [push, hentry, if_neg hsame, if_pos holder]
    · rw [hentry, if_neg hsame, if_pos holder]
  · refine ⟨_, true, ?_, hother _, (hself _).trans (by rw [if_neg hsame, if_neg holder])⟩
    simp only [push, hentry, if_neg hsame, if_neg holder]

/-- The raw updates with one more come to the entry that the push leaves. -/
theorem pending_append (hentry : pending updates = some entry) :
    pending (updates ++ [update]) = some (
      if entry.generation = update.generation then
        if !entry.terminal then
          { entry with latest := some update.value, terminal := update.terminal }
        else entry
      else if entry.generation > update.generation then entry
      else pendingUpdate update) := by
  have hgeneration := pending_generation hentry
  by_cases hsame : entry.generation = update.generation
  · rw [if_pos hsame]
    exact pending_append_same hentry (hsame.symm.trans hgeneration)
  rw [if_neg hsame]
  by_cases holder : entry.generation > update.generation
  · rw [if_pos holder, pending_append_older (by omega), hentry]
  · rw [if_neg holder]
    exact pending_append_newer (by omega)

theorem Tells.step_push (t : Tells c h) (key : K) (update : CallbackUpdate V) :
    Tells (c.push key update).1 (h.record c (.push key update)) := by
  rcases hentry : c.entries.get? key with _ | entry
  · by_cases hfull : c.capacity ≤ c.entries.size
    · rw [Chronicle.record, push_full hentry hfull]
      exact t.waited
    · have hpush := push_new update hentry hfull
      rw [hpush]
      exact t.arrive (t.not_mem.mpr hentry) (by rw [hpush])
  obtain ⟨entries, wake, hpush, hother, hself⟩ := push_pending update hentry
  have hpending : pending (h.updates key) = some entry := by rw [← t.told, hentry]
  have hmem : key ∈ c.order := by
    rw [t.listed, Table.contains_iff]
    exact ⟨entry, hentry⟩
  have hkept : entries.contains key = true := by
    rw [Table.contains, hself]
    rfl
  rw [hpush]
  exact t.replace hmem (by rw [hpush]) hother (hself.trans (pending_append hpending).symm) hkept

/-! ### Discarding and popping -/

theorem Tells.step_discard (t : Tells c h) (retired : K → Bool) :
    Tells (c.discard retired) (h.record c (.discard retired)) := by
  have hcontains : ∀ k, (c.entries.filter fun key _ => !retired key).contains k = true ↔
      k ∈ c.order ∧ retired k = false := by
    intro k
    rw [t.listed, Table.contains, Table.get?_filter, Table.contains]
    cases c.entries.get? k with
    | none => simp
    | some entry => simp
  refine ⟨t.nodup.filter _, fun k => ?_, fun k => ?_, fun k hk => ?_, ?_, fun k hk => ?_⟩
  · dsimp only [discard]
    rw [List.mem_filter, hcontains]
    exact and_iff_right_of_imp And.left
  · dsimp only [discard, Chronicle.record]
    rw [Table.get?_filter, t.told]
    by_cases hk : retired k = true
    · rw [if_pos hk, hk]
      cases pending (h.updates k) with
      | none => rfl
      | some entry => rfl
    rw [if_neg hk, eq_false_of_ne_true hk]
    cases pending (h.updates k) with
    | none => rfl
    | some entry => rfl
  · dsimp only [discard, Chronicle.record] at hk ⊢
    split
    · rfl
    · next hretired =>
      refine t.quiet k fun hmem => hk (List.mem_filter.mpr ⟨hmem, ?_⟩)
      exact (hcontains k).mpr ⟨hmem, eq_false_of_ne_true hretired⟩
  · exact t.sorted.sublist List.filter_sublist
  · exact Nat.lt_succ_of_lt (t.past k (List.mem_of_mem_filter hk))

theorem Tells.step_pop (t : Tells c h) : Tells c.pop.1 (h.record c .pop) := by
  have hnodup := t.nodup
  have hlisted := t.listed
  have hsorted := t.sorted
  have hpast := t.past
  have hquiet := t.quiet
  unfold Chronicle.record pop
  split
  · next hempty =>
    rw [hempty]
    exact t.waited
  next key order horder =>
  rw [horder] at hnodup hlisted hsorted hpast hquiet ⊢
  obtain ⟨hkey, hnodup⟩ := List.nodup_cons.mp hnodup
  refine ⟨hnodup, fun k => ?_, fun k => ?_, fun k hk => ?_, hsorted.of_cons, fun k hk => ?_⟩
  · dsimp only
    rw [Table.contains_erase]
    by_cases hk : k = key
    · rw [hk]
      simp [hkey]
    · rw [decide_eq_true hk, Bool.true_and, ← hlisted k, List.mem_cons, or_iff_right hk]
  · dsimp only
    rw [Table.get?_erase, t.told]
    have hhead : (key :: order).head? = some k ↔ k = key := by
      rw [List.head?_cons, Option.some_inj, eq_comm]
    by_cases hk : k = key
    · rw [if_pos hk, if_pos (hhead.mpr hk)]
      rfl
    · rw [if_neg hk, if_neg fun heq => hk (hhead.mp heq)]
  · by_cases hkey : key = k
    · exact if_pos (congrArg some hkey)
    · refine (if_neg fun heq => hkey (Option.some.inj heq)).trans ?_
      exact hquiet k fun hmem => (List.mem_cons.mp hmem).elim (Ne.symm hkey) hk
  · exact Nat.lt_succ_of_lt (hpast k (List.mem_cons_of_mem _ hk))

theorem Tells.step (t : Tells c h) (operation : Operation K V) :
    Tells (c.step operation) (h.record c operation) := by
  cases operation with
  | push key update => exact t.step_push key update
  | discard retired => exact t.step_discard retired
  | pop => exact t.step_pop

theorem Tells.run (t : Tells c h) (operations : List (Operation K V)) :
    Tells (Runs.run CallbackUpdates.step c operations) (chronicle c h operations) := by
  induction operations generalizing c h with
  | nil => exact t
  | cons operation rest ih => exact ih (t.step operation)

/-! ## The queue against the raw stream -/

theorem step_capacity (c : CallbackUpdates K V) (operation : Operation K V) :
    (c.step operation).capacity = c.capacity := by
  cases operation with
  | push key update =>
    rw [step, push]
    split
    · split
      · rfl
      · split
        · rfl
        · rfl
    · split
      · rfl
      · rfl
  | discard retired => rfl
  | pop =>
    rw [step, pop]
    split
    · rfl
    · rfl

theorem run_capacity (c : CallbackUpdates K V) (operations : List (Operation K V)) :
    (Runs.run CallbackUpdates.step c operations).capacity = c.capacity :=
  Runs.run_induction (I := fun c' => c'.capacity = c.capacity)
    (fun c' operation h => (step_capacity c' operation).trans h) rfl operations

theorem pop_order (c : CallbackUpdates K V) : c.pop.1.order = c.order.tail := by
  unfold pop
  split
  · next hempty => rw [hempty]; rfl
  · next key order horder => rw [horder]; rfl

theorem Tells.pop_reply (t : Tells c h) :
    c.pop.2 = c.order.head?.bind fun key => coalesce (h.updates key) := by
  unfold pop
  split
  · next hempty => rw [hempty]; rfl
  · next key order horder =>
    rw [horder, t.told, List.head?_cons, Option.bind_some, coalesce_eq_pending]

theorem Tells.push_refused (t : Tells c h) (key : K) (update : CallbackUpdate V) :
    (c.push key update).2 = false ↔ c.capacity ≤ c.order.length ∧ key ∉ c.order := by
  rw [t.not_mem, ← t.size]
  rcases hentry : c.entries.get? key with _ | entry
  · by_cases hfull : c.capacity ≤ c.entries.size
    · rw [push_full hentry hfull]
      exact iff_of_true rfl ⟨hfull, rfl⟩
    · rw [push_new update hentry hfull]
      exact iff_of_false nofun fun hand => hfull hand.1
  · obtain ⟨entries, wake, hpush, -⟩ := push_pending update hentry
    rw [hpush]
    exact iff_of_false nofun fun hand => absurd hand.2 (by simp)

/-- After any operations the order queue lists the pending keys once each, by the
    time at which they became pending: the keys with an update that was taken in
    since they were last popped or discarded.  A pop takes the first of them and hands
    out what these updates come to, and a push is refused exactly if the queue is full
    and the key is not pending. -/
theorem coalesces (capacity : Nat) (operations : List (Operation K V)) :
    let c := Runs.run CallbackUpdates.step (new capacity) operations
    let h := chronicle (new capacity) {} operations
    c.order.Nodup ∧
    (∀ key, key ∈ c.order ↔ c.entries.contains key = true) ∧
    (∀ key, key ∈ c.order ↔ h.updates key ≠ []) ∧
    (c.order.Pairwise fun earlier later => h.arrived earlier < h.arrived later) ∧
    c.pop.1.order = c.order.tail ∧
    (c.pop.2 = c.order.head?.bind fun key => coalesce (h.updates key)) ∧
    ∀ key update, (c.push key update).2 = false ↔
      capacity ≤ c.order.length ∧ key ∉ c.order := by
  have t := (tells_new (K := K) (V := V) capacity).run operations
  have hcapacity := run_capacity (new capacity) operations
  refine ⟨t.nodup, t.listed, fun _ => t.mem_order_iff, t.sorted, pop_order _, t.pop_reply,
    fun key update => ?_⟩
  rw [t.push_refused, hcapacity]
  rfl

/-- The updates pushed for a key since it was last popped, whether or not the queue
    had room for them and whether or not the key was discarded meanwhile. -/
def pushedSincePop (key : K) :
    CallbackUpdates K V → List (Operation K V) → List (CallbackUpdate V) →
      List (CallbackUpdate V)
  | _, [], updates => updates
  | c, operation :: rest, updates => pushedSincePop key (c.step operation) rest <|
      match operation with
      | .push key' update => if key' = key then updates ++ [update] else updates
      | .discard _ => updates
      | .pop => if c.order.head? = some key then [] else updates

/-- A key that was discarded is not given out with what it was discarded for. -/
theorem not_coalesces_since_pop : ¬ ∀ (capacity : Nat) (operations : List (Operation Nat Nat)),
    let c := Runs.run CallbackUpdates.step (new capacity) operations
    c.pop.2 = c.order.head?.bind fun key =>
      coalesce (pushedSincePop key (new capacity) operations []) := by
  intro h
  exact absurd (h 1 [.push 7 ⟨1, 10, false⟩, .discard (· = 7), .push 7 ⟨1, 20, false⟩])
    (by decide)

end CallbackUpdates

end Sccp
