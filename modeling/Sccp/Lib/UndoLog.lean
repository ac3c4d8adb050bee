/-
  Sccp.Lib.UndoLog

  Transactions on a store whose operations may fail.

  A transaction reads what its keys hold, writes them one after the other, and when a write
  fails puts back what it has read, the key of the failed write included: that write may
  have been applied all the same.
-/

import Sccp.Lib.Table

namespace Sccp.UndoLog

/-- The failure of one operation; a write may have been applied nevertheless. -/
structure Fault (E : Type*) where
  error : E
  applied : Bool

/-- A store, and what its coming operations run into. -/
structure Store (K V E : Type*) where
  entries : Table K V
  faults : List (Option (Fault E)) := []

structure Write (K V : Type*) where
  key : K
  /-- What the key is to hold; nothing deletes it. -/
  value : Option V

inductive Failure (E : Type*) where
  | failed (source : E)
  | rollback (source rollback : E)

variable {K V E : Type*} [DecidableEq K]

namespace Store

def fault (s : Store K V E) : Option (Fault E) := s.faults.head?.join

/-- The store when the next operation is over. -/
def advance (s : Store K V E) : Store K V E := { s with faults := s.faults.tail }

def set (s : Store K V E) (key : K) (value : Option V) : Store K V E :=
  { s with entries := value.elim (s.entries.erase key) (s.entries.insert key) }

/-- What the store holds under each key. -/
def held (s : Store K V E) (key : K) : Option V := s.entries.get? key

@[simp] theorem held_advance (s : Store K V E) : s.advance.held = s.held := rfl

theorem held_set (s : Store K V E) (key k : K) (value : Option V) :
    (s.set key value).held k = if k = key then value else s.held k := by
  unfold held set
  cases value with
  | none => exact Table.get?_erase ..
  | some v => exact Table.get?_insert ..

end Store

variable {s s' : Store K V E} {log : List (K × Option V)} {before : K → Option V}
  {writes : List (Write K V × Option V)}

/-! ## Operations -/

def get (key : K) (s : Store K V E) : Except E (Option V) × Store K V E :=
  match s.fault with
  | some fault => (.error fault.error, s.advance)
  | none => (.ok (s.held key), s.advance)

/-- Puts or deletes a value.  Deleting an absent key succeeds. -/
def write (key : K) (value : Option V) (s : Store K V E) : Except E Unit × Store K V E :=
  match s.fault with
  | some fault => (.error fault.error, if fault.applied then s.advance.set key value else s.advance)
  | none => (.ok (), s.advance.set key value)

/-- Reads what the keys of the writes hold. -/
def readAll : List (Write K V) → Store K V E → Except E (List (Option V)) × Store K V E
  | [], s => (.ok [], s)
  | w :: rest, s =>
    match get w.key s with
    | (.error e, s) => (.error e, s)
    | (.ok value, s) =>
      match readAll rest s with
      | (.error e, s) => (.error e, s)
      | (.ok values, s) => (.ok (value :: values), s)

/-- Puts back the values of a log; the first failure is reported. -/
def undo : List (K × Option V) → Option E → Store K V E → Option E × Store K V E
  | [], failure, s => (failure, s)
  | (key, previous) :: rest, failure, s =>
    match write key previous s with
    | (.ok (), s) => undo rest failure s
    | (.error e, s) => undo rest (failure.or (some e)) s

/-- Carries the writes out; `log` is what has been overwritten, the latest first. -/
def perform : List (K × Option V) → List (Write K V × Option V) → Store K V E →
    Except (Failure E) Unit × Store K V E
  | _, [], s => (.ok (), s)
  | log, (w, previous) :: rest, s =>
    match write w.key w.value s with
    | (.ok (), s) => perform ((w.key, previous) :: log) rest s
    | (.error source, s) =>
      match undo ((w.key, previous) :: log) none s with
      | (none, s) => (.error (.failed source), s)
      | (some rollback, s) => (.error (.rollback source rollback), s)

def transact (writes : List (Write K V)) (s : Store K V E) :
    Except (Failure E) Unit × Store K V E :=
  match readAll writes s with
  | (.error e, s) => (.error (.failed e), s)
  | (.ok previous, s) => perform [] (writes.zip previous) s

/-! ## Single operations -/

theorem get_cases (key : K) (s : Store K V E) :
    (∃ e, get key s = (.error e, s.advance)) ∨ get key s = (.ok (s.held key), s.advance) := by
  unfold get
  split
  · exact .inl ⟨_, rfl⟩
  · exact .inr rfl

/-- A write is applied, or it fails and changes at most its key, to the new value. -/
theorem write_cases (key : K) (value : Option V) (s : Store K V E) :
    write key value s = (.ok (), s.advance.set key value)
    ∨ ∃ e s', write key value s = (.error e, s')
      ∧ (s'.held = s.held ∨ s'.held = (s.advance.set key value).held) := by
  unfold write
  split
  · next fault =>
    refine .inr ⟨_, _, rfl, ?_⟩
    split
    · exact .inr rfl
    · exact .inl rfl
  · exact .inl rfl

/-- Keys other than the written one keep their values. -/
theorem held_of_ne {key k : K} {value : Option V} (hne : k ≠ key)
    (h : s'.held = s.held ∨ s'.held = (s.advance.set key value).held) : s'.held k = s.held k := by
  rcases h with h | h
  · rw [h]
  · rw [h, Store.held_set, if_neg hne, Store.held_advance]

theorem readAll_cases (writes : List (Write K V)) (s : Store K V E) :
    (readAll writes s).2.held = s.held ∧ ((∃ e, (readAll writes s).1 = .error e)
        ∨ (readAll writes s).1 = .ok (writes.map fun w => s.held w.key)) := by
  induction writes generalizing s with
  | nil => exact ⟨rfl, .inr rfl⟩
  | cons w rest ih =>
    unfold readAll
    rcases get_cases w.key s with ⟨e, heq⟩ | heq
    · rw [heq]
      exact ⟨rfl, .inl ⟨e, rfl⟩⟩
    rw [heq]
    obtain ⟨hheld, hanswer⟩ := ih s.advance
    dsimp only
    rcases hrest : readAll rest s.advance with ⟨answer, s'⟩
    rw [hrest] at hheld hanswer
    rcases hanswer with ⟨e, he⟩ | hok
    · simp only at he
      subst he
      exact ⟨hheld, .inl ⟨e, rfl⟩⟩
    · simp only at hok
      subst hok
      exact ⟨hheld, .inr rfl⟩

/-! ## Undoing -/

/-- A log that holds the values of `before` for its keys. -/
def Logs (before : K → Option V) (log : List (K × Option V)) : Prop :=
  ∀ e ∈ log, e.2 = before e.1

/-- A failure that has been seen is reported. -/
theorem undo_failure {failure : Option E} (h : (undo log failure s).1 = none) : failure = none := by
  induction log generalizing failure s with
  | nil => exact h
  | cons e rest ih =>
    unfold undo at h
    split at h
    · exact ih h
    have hseen := ih h
    cases failure with
    | none => cases hseen
    | some e' => cases hseen

/-- An undo that reports no failure has put everything back. -/
theorem undo_none {before : K → Option V} {log : List (K × Option V)} (hlog : Logs before log)
    {failure : Option E} {s s' : Store K V E} (h : undo log failure s = (none, s'))
    (hrest : ∀ k, k ∉ log.map Prod.fst → s.held k = before k) : s'.held = before := by
  induction log generalizing failure s with
  | nil =>
    cases h
    funext k
    exact hrest k List.not_mem_nil
  | cons e rest ih =>
    obtain ⟨key, previous⟩ := e
    have hprevious : previous = before key := hlog _ List.mem_cons_self
    have hlogRest : Logs before rest := fun e he => hlog e (List.mem_cons_of_mem _ he)
    unfold undo at h
    rcases write_cases key previous s with heq | ⟨e, s₁, heq, hs₁⟩
    · rw [heq] at h
      refine ih hlogRest h fun k hk => ?_
      rw [Store.held_set]
      split
      · next hkey => rw [hkey, hprevious]
      · next hne => exact hrest k (by simp [hne, hk])
    · -- the failure is reported in the end
      rw [heq] at h
      have hreported : failure.or (some e) = none := undo_failure (congrArg Prod.fst h)
      cases failure <;> cases hreported

/-- Whatever fails, an undo leaves each key as it was or puts it back. -/
theorem undo_mixed (hlog : Logs before log) (failure : Option E) (s : Store K V E) (k : K) :
    (undo log failure s).2.held k = s.held k ∨ (undo log failure s).2.held k = before k := by
  induction log generalizing failure s with
  | nil => exact .inl rfl
  | cons e rest ih =>
    obtain ⟨key, previous⟩ := e
    have hprevious : previous = before key := hlog _ List.mem_cons_self
    have hlogRest : Logs before rest := fun e he => hlog e (List.mem_cons_of_mem _ he)
    have hset : ∀ s' : Store K V E,
        (s'.held = s.held ∨ s'.held = (s.advance.set key previous).held) →
          s'.held k = s.held k ∨ s'.held k = before k := by
      rintro s' (h | h)
      · exact .inl (by rw [h])
      rw [h, Store.held_set, Store.held_advance]
      split
      · next hkey => exact .inr (by rw [hkey, hprevious])
      · exact .inl rfl
    have hstep : ∀ failure (s' : Store K V E),
        (s'.held = s.held ∨ s'.held = (s.advance.set key previous).held) →
          (undo rest failure s').2.held k = s.held k
            ∨ (undo rest failure s').2.held k = before k := by
      intro failure s' hs'
      rcases ih hlogRest failure s' with h | h
      · rw [h]
        exact hset s' hs'
      · exact .inr h
    unfold undo
    rcases write_cases key previous s with heq | ⟨e, s₁, heq, hs₁⟩
    · rw [heq]
      exact hstep _ _ (.inr rfl)
    · rw [heq]
      exact hstep _ _ hs₁

omit [DecidableEq K] in
theorem Logs.cons {e : K × Option V} (h : Logs before log) (he : e.2 = before e.1) :
    Logs before (e :: log) := by
  intro e' he'
  rcases List.mem_cons.mp he' with rfl | he'
  · exact he
  · exact h e' he'

/-! ## Transactions -/

/-- A transaction that fails without a failure of its rollback has changed nothing. -/
theorem perform_failed {source : E} (hlog : Logs before log)
    (hwrites : ∀ w ∈ writes, w.2 = before w.1.key)
    (hrest : ∀ k, k ∉ log.map Prod.fst → s.held k = before k)
    (h : perform log writes s = (.error (.failed source), s')) : s'.held = before := by
  induction writes generalizing log s with
  | nil => cases h
  | cons first rest ih =>
    obtain ⟨w, previous⟩ := first
    have hlog' : Logs before ((w.key, previous) :: log) := hlog.cons (hwrites _ List.mem_cons_self)
    -- whether the write was applied or not, only its key can differ
    have hrest' : ∀ s₁ : Store K V E,
        (s₁.held = s.held ∨ s₁.held = (s.advance.set w.key w.value).held) →
          ∀ k, k ∉ ((w.key, previous) :: log).map Prod.fst → s₁.held k = before k := by
      intro s₁ hs₁ k hk
      rw [List.map_cons, List.mem_cons, not_or] at hk
      rw [held_of_ne hk.1 hs₁]
      exact hrest k hk.2
    unfold perform at h
    rcases write_cases w.key w.value s with heq | ⟨e, s₁, heq, hs₁⟩
    · rw [heq] at h
      exact ih hlog' (fun v hv => hwrites v (List.mem_cons_of_mem _ hv)) (hrest' _ (.inr rfl)) h
    rw [heq] at h
    dsimp only at h
    split at h
    · next s₂ hundo =>
      cases h
      exact undo_none hlog' hundo (hrest' s₁ hs₁)
    · cases h

/-- A completed transaction has carried every write out, and nothing else. -/
theorem perform_ok (hnodup : (writes.map fun w => w.1.key).Nodup)
    (h : perform log writes s = (.ok (), s')) : (∀ w ∈ writes, s'.held w.1.key = w.1.value)
      ∧ ∀ k, k ∉ writes.map (fun w => w.1.key) → s'.held k = s.held k := by
  induction writes generalizing log s with
  | nil =>
    cases h
    exact ⟨nofun, fun _ _ => rfl⟩
  | cons first rest ih =>
    obtain ⟨w, previous⟩ := first
    obtain ⟨hfirst, hrest⟩ := List.nodup_cons.mp hnodup
    unfold perform at h
    rcases write_cases w.key w.value s with heq | ⟨e, s₁, heq, -⟩
    · rw [heq] at h
      obtain ⟨hset, hkeep⟩ := ih hrest h
      refine ⟨fun v hv => ?_, fun k hk => ?_⟩
      · rcases List.mem_cons.mp hv with rfl | hv
        · rw [hkeep _ hfirst, Store.held_set, if_pos rfl]
        · exact hset v hv
      · rw [List.map_cons, List.mem_cons, not_or] at hk
        rw [hkeep k hk.2, Store.held_set, if_neg hk.1, Store.held_advance]
    · rw [heq] at h
      dsimp only at h
      split at h <;> cases h

/-- Whatever fails, each key holds what it held before or what a write gave it. -/
theorem perform_mixed (hlog : Logs before log) (hwrites : ∀ w ∈ writes, w.2 = before w.1.key)
    {P : K → Option V → Prop} (hgiven : ∀ w ∈ writes, P w.1.key w.1.value)
    (hs : ∀ k, s.held k = before k ∨ P k (s.held k)) (k : K) :
    (perform log writes s).2.held k = before k ∨ P k ((perform log writes s).2.held k) := by
  induction writes generalizing log s with
  | nil => exact hs k
  | cons first rest ih =>
    obtain ⟨w, previous⟩ := first
    have hlog' : Logs before ((w.key, previous) :: log) := hlog.cons (hwrites _ List.mem_cons_self)
    have hs' : ∀ s₁ : Store K V E,
        (s₁.held = s.held ∨ s₁.held = (s.advance.set w.key w.value).held) →
          ∀ k, s₁.held k = before k ∨ P k (s₁.held k) := by
      rintro s₁ (h | h) k
      · rw [h]
        exact hs k
      rw [h, Store.held_set, Store.held_advance]
      split
      · next hkey =>
        rw [hkey]
        exact .inr (hgiven _ List.mem_cons_self)
      · exact hs k
    unfold perform
    rcases write_cases w.key w.value s with heq | ⟨e, s₁, heq, hs₁⟩
    · rw [heq]
      exact ih hlog' (fun v hv => hwrites v (List.mem_cons_of_mem _ hv))
        (fun v hv => hgiven v (List.mem_cons_of_mem _ hv)) (hs' _ (.inr rfl))
    rw [heq]
    have hundone : ∀ failure s₂, undo ((w.key, previous) :: log) none s₁ = (failure, s₂) →
        s₂.held k = before k ∨ P k (s₂.held k) := by
      intro failure s₂ hundo
      have hmixed := undo_mixed hlog' (none : Option E) s₁ k
      rw [hundo] at hmixed
      rcases hmixed with h | h
      · dsimp only at h
        rw [h]
        exact hs' s₁ hs₁ k
      · exact .inl h
    dsimp only
    split
    · next s₂ hundo => exact hundone _ _ hundo
    · next s₂ hundo => exact hundone _ _ hundo

section Transact

variable {writes : List (Write K V)} {s s' : Store K V E}

/-- A transaction either cannot read its keys, or performs its writes with what they hold. -/
theorem transact_cases (writes : List (Write K V)) (s : Store K V E) :
    (∃ e s₁, transact writes s = (.error (.failed e), s₁) ∧ s₁.held = s.held)
    ∨ ∃ s₁ : Store K V E, s₁.held = s.held ∧ transact writes s
      = perform [] (writes.zip (writes.map fun w => s.held w.key)) s₁ := by
  unfold transact
  obtain ⟨hheld, hanswer⟩ := readAll_cases writes s
  rcases hread : readAll writes s with ⟨answer, s₁⟩
  rw [hread] at hheld hanswer
  rcases hanswer with ⟨e, he⟩ | hok
  · dsimp only at he
    subst he
    exact .inl ⟨e, s₁, rfl, hheld⟩
  · dsimp only at hok
    subst hok
    exact .inr ⟨s₁, hheld, rfl⟩

omit [DecidableEq K] in
theorem mem_zip_map {f : Write K V → Option V} {w : Write K V × Option V}
    (h : w ∈ writes.zip (writes.map f)) : w.1 ∈ writes ∧ w.2 = f w.1 := by
  rw [← List.map_prod_left_eq_zip, List.mem_map] at h
  obtain ⟨v, hv, rfl⟩ := h
  exact ⟨hv, rfl⟩

theorem transact_failed {source : E} (h : transact writes s = (.error (.failed source), s')) :
    s'.held = s.held := by
  rcases transact_cases writes s with ⟨e, s₁, heq, hheld⟩ | ⟨s₁, hheld, heq⟩
  · rw [heq] at h
    cases h
    exact hheld
  · rw [heq] at h
    exact perform_failed (List.forall_mem_nil _) (fun w hw => (mem_zip_map hw).2)
      (fun k _ => by rw [hheld]) h

theorem transact_ok (hnodup : (writes.map Write.key).Nodup) (h : transact writes s = (.ok (), s')) :
    (∀ w ∈ writes, s'.held w.key = w.value)
      ∧ ∀ k, k ∉ writes.map Write.key → s'.held k = s.held k := by
  rcases transact_cases writes s with ⟨e, s₁, heq, -⟩ | ⟨s₁, hheld, heq⟩
  · rw [heq] at h
    cases h
  rw [heq] at h
  have hkeys : (writes.zip (writes.map fun w => s.held w.key)).map (fun w => w.1.key)
      = writes.map Write.key := by
    rw [← List.map_prod_left_eq_zip, List.map_map]
    rfl
  obtain ⟨hset, hkeep⟩ := perform_ok (hkeys ▸ hnodup) h
  refine ⟨fun w hw => ?_, fun k hk => ?_⟩
  · refine hset (w, s.held w.key) ?_
    rw [← List.map_prod_left_eq_zip]
    exact List.mem_map_of_mem hw
  · rw [hkeep k (hkeys ▸ hk), hheld]

theorem transact_mixed (writes : List (Write K V)) (s : Store K V E) (k : K) :
    (transact writes s).2.held k = s.held k
      ∨ ∃ w ∈ writes, w.key = k ∧ (transact writes s).2.held k = w.value := by
  rcases transact_cases writes s with ⟨e, s₁, heq, hheld⟩ | ⟨s₁, hheld, heq⟩
  · rw [heq]
    exact .inl (by rw [hheld])
  rw [heq]
  exact perform_mixed (P := fun k value => ∃ w ∈ writes, w.key = k ∧ value = w.value)
    (List.forall_mem_nil _)
    (fun w hw => (mem_zip_map hw).2) (fun w hw => ⟨w.1, (mem_zip_map hw).1, rfl, rfl⟩)
    (fun k => .inl (by rw [hheld])) k

end Transact

end Sccp.UndoLog
