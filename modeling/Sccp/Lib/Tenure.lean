/-
  Sccp.Lib.Tenure

  Seats that change hands by tickets.

  A holder draws a ticket for a seat, and sits down later; it then replaces whom it finds in the
  seat.  Who rises leaves the seat empty only if nobody has replaced him, and is then said to
  have left.  If those who sit down in a seat do so in the order of their tickets, a seat always
  is the last comer's, and every ticket that is not replaced is closed once.
-/

import Mathlib.Data.List.Count
import Mathlib.Data.List.Induction
import Mathlib.Logic.Function.Basic

namespace Sccp

namespace Tenure

/-- Where a holder is with its ticket. -/
inductive Stage (K : Type*) where
  | outside
  | holding (k : K) (n : Nat)
  | seated (k : K) (n : Nat)
  | gone (k : K) (n : Nat)

/-- The ticket of a holder, and the seat it is for. -/
def Stage.ticket? {K : Type*} : Stage K → Option (K × Nat)
  | .outside => none
  | .holding k n | .seated k n | .gone k n => some (k, n)

inductive Entry (K : Type*) where
  | opened (k : K) (n : Nat)
  | closed (k : K) (n : Nat)
  /-- `n` has lost the seat to `m`. -/
  | replaced (k : K) (n m : Nat)
  deriving DecidableEq

/-- The ticket that an entry of the log opens for a seat. -/
def Entry.opens? {K : Type*} [DecidableEq K] (k : K) : Entry K → Option Nat
  | .opened k' n => if k' = k then some n else none
  | _ => none

inductive Act (C K : Type*) where
  | draw (c : C) (k : K)
  | discard (c : C)
  | sit (c : C)
  /-- A holder rises; `told` is whether it can be said. -/
  | rise (c : C) (told : Bool)

end Tenure

open Tenure in
@[ext]
structure Tenure (C K : Type*) where
  next : Nat
  stage : C → Stage K
  seat : K → Option (Nat × C)
  log : List (Entry K)

namespace Tenure

variable {C K : Type*} [DecidableEq C] [DecidableEq K] {t : Tenure C K} {c c' : C} {k k' : K}
  {n m : Nat}

/-- The tickets that have come to a seat, in order. -/
def openings (t : Tenure C K) (k : K) : List Nat := t.log.filterMap (Entry.opens? k)

/-- The entry that says who loses the seat, if there is anyone in it. -/
def replacement (t : Tenure C K) (k : K) (n : Nat) : List (Entry K) :=
  match t.seat k with
  | some (m, _) => [.replaced k m n]
  | none => []

def sit (t : Tenure C K) (c : C) (k : K) (n : Nat) : Tenure C K where
  next := t.next
  stage := Function.update t.stage c (.seated k n)
  seat := Function.update t.seat k (some (n, c))
  log := t.log ++ t.replacement k n ++ [.opened k n]

def rise (t : Tenure C K) (c : C) (k : K) (n : Nat) (told : Bool) : Tenure C K :=
  if (t.seat k).map Prod.fst = some n then
    { next := t.next
      stage := Function.update t.stage c (.gone k n)
      seat := Function.update t.seat k none
      log := if told then t.log ++ [.closed k n] else t.log }
  else { t with stage := Function.update t.stage c (.gone k n) }

def act (t : Tenure C K) : Act C K → Tenure C K
  | .draw c k =>
    match t.stage c with
    | .outside =>
      { t with next := t.next + 1, stage := Function.update t.stage c (.holding k t.next) }
    | _ => t
  | .discard c =>
    match t.stage c with
    | .holding _ _ => { t with stage := Function.update t.stage c .outside }
    | _ => t
  | .sit c =>
    match t.stage c with
    | .holding k n => t.sit c k n
    | _ => t
  | .rise c told =>
    match t.stage c with
    | .seated k n => t.rise c k n told
    | _ => t

/-- Who sits down comes after all who have sat there, and it can be said that the one in the seat
    rises. -/
def InOrder (t : Tenure C K) : Act C K → Prop
  | .sit c => ∀ k n, t.stage c = .holding k n → ∀ m, .opened k m ∈ t.log → m < n
  | .rise c told => ∀ k n, t.stage c = .seated k n → (∃ c', t.seat k = some (n, c')) →
      told = true
  | _ => True

/-- What holds after acts in order. -/
structure Sound (t : Tenure C K) : Prop where
  drawn : ∀ c k n, (t.stage c).ticket? = some (k, n) → n < t.next
  apart : ∀ c c' k k' n, (t.stage c).ticket? = some (k, n) →
    (t.stage c').ticket? = some (k', n) → c = c'
  opened : ∀ k n, .opened k n ∈ t.log ↔ ∃ c, t.stage c = .seated k n ∨ t.stage c = .gone k n
  seated : ∀ k n c, t.seat k = some (n, c) → t.stage c = .seated k n
  newest : ∀ k n c m, t.seat k = some (n, c) → .opened k m ∈ t.log → m ≤ n
  increasing : ∀ k, (t.openings k).Pairwise (· < ·)
  senior : ∀ k n m, .replaced k n m ∈ t.log → n < m ∧ .opened k n ∈ t.log ∧ .opened k m ∈ t.log
  kept : ∀ c k n, t.stage c = .seated k n → t.seat k = some (n, c) ∨ ∃ m, .replaced k n m ∈ t.log
  unreplaced : ∀ k n c m, t.seat k = some (n, c) → .replaced k n m ∉ t.log
  ended : ∀ c k n, t.stage c = .gone k n → (∃ m, .replaced k n m ∈ t.log) ∨ .closed k n ∈ t.log
  closed : ∀ k n, .closed k n ∈ t.log → ∃ c, t.stage c = .gone k n
  once : ∀ k n, t.log.count (.closed k n) ≤ 1
  after : ∀ k n before, before ++ [.closed k n] <+: t.log → .opened k n ∈ before

/-- What tenure is for. -/
structure Tidy (t : Tenure C K) : Prop where
  increasing : ∀ k, (t.openings k).Pairwise (· < ·)
  newest : ∀ k n, (∃ c, t.seat k = some (n, c)) ↔
    (t.openings k).getLast? = some n ∧ ∀ c, t.stage c ≠ .gone k n
  senior : ∀ k n m, .replaced k n m ∈ t.log → n < m
  ended : ∀ c k n, t.stage c = .gone k n → (∀ m, n < m → .replaced k n m ∉ t.log) →
    t.log.count (.closed k n) = 1
  once : ∀ k n, t.log.count (.closed k n) ≤ 1
  after : ∀ k n before, before ++ [.closed k n] <+: t.log → .opened k n ∈ before

theorem opens?_eq_some {entry : Entry K} : entry.opens? k = some n ↔ entry = .opened k n := by
  cases entry with
  | opened k' m =>
    by_cases hk : k' = k
    · simp [Entry.opens?, hk]
    · simp [Entry.opens?, hk]
  | closed | replaced => simp [Entry.opens?]

omit [DecidableEq C] in
theorem mem_openings : n ∈ t.openings k ↔ .opened k n ∈ t.log := by
  unfold openings
  rw [List.mem_filterMap]
  constructor
  · rintro ⟨entry, hentry, hopens⟩
    rw [opens?_eq_some] at hopens
    exact hopens ▸ hentry
  · exact fun h => ⟨_, h, opens?_eq_some.mpr rfl⟩

/-! ## What sound tenure gives -/

omit [DecidableEq C] in
/-- The last to come to a seat has the largest ticket. -/
theorem Sound.getLast_openings (h : t.Sound) (hlast : (t.openings k).getLast? = some n)
    (hm : .opened k m ∈ t.log) : m ≤ n := by
  obtain ⟨earlier, hearlier⟩ := List.getLast?_eq_some_iff.mp hlast
  have hincreasing := h.increasing k
  rw [hearlier, List.pairwise_append] at hincreasing
  have hmem : m ∈ t.openings k := mem_openings.mpr hm
  rw [hearlier, List.mem_append, List.mem_singleton] at hmem
  rcases hmem with hmem | rfl
  · exact Nat.le_of_lt (hincreasing.2.2 m hmem n (List.mem_singleton_self n))
  · exact Nat.le_refl _

omit [DecidableEq C] in
theorem Sound.tidy (h : t.Sound) : t.Tidy where
  increasing := h.increasing
  newest := fun k n => by
    constructor
    · rintro ⟨c, hseat⟩
      have hstage := h.seated k n c hseat
      have hopened : n ∈ t.openings k :=
        mem_openings.mpr ((h.opened k n).mpr ⟨c, .inl hstage⟩)
      refine ⟨?_, fun c' hgone => ?_⟩
      · obtain ⟨last, hlast⟩ := Option.ne_none_iff_exists'.mp
          (mt List.getLast?_eq_none_iff.mp (List.ne_nil_of_mem hopened))
        have hle := h.getLast_openings hlast (mem_openings.mp hopened)
        have hge := h.newest k n c last hseat (mem_openings.mp (List.mem_of_getLast? hlast))
        rw [hlast, Nat.le_antisymm hge hle]
      · have hsame := h.apart c c' k k n (congrArg Stage.ticket? hstage)
          (congrArg Stage.ticket? hgone)
        rw [hsame, hgone] at hstage
        cases hstage
    · rintro ⟨hlast, hstays⟩
      have hmem := mem_openings.mp (List.mem_of_getLast? hlast)
      obtain ⟨c, hstage | hstage⟩ := (h.opened k n).mp hmem
      · rcases h.kept c k n hstage with hseat | ⟨m, hm⟩
        · exact ⟨c, hseat⟩
        · -- a successor would have come later
          obtain ⟨hlt, -, hopened⟩ := h.senior k n m hm
          exact absurd hlt (Nat.not_lt_of_le (h.getLast_openings hlast hopened))
      · exact absurd hstage (hstays c)
  senior := fun k n m hm => (h.senior k n m hm).1
  ended := fun c k n hgone hstays => by
    rcases h.ended c k n hgone with ⟨m, hm⟩ | hclosed
    · exact absurd hm (hstays m (h.senior k n m hm).1)
    · exact Nat.le_antisymm (h.once k n) (List.one_le_count_iff.mpr hclosed)
  once := h.once
  after := h.after

/-! ## Acts in order keep it sound -/

omit [DecidableEq C] in
theorem sound_start (n : Nat) : (⟨n, fun _ => .outside, fun _ => none, []⟩ : Tenure C K).Sound where
  drawn := fun _ _ _ h => by cases h
  apart := fun _ _ _ _ _ h => by cases h
  opened := fun k n => by simp
  seated := fun _ _ _ h => by cases h
  newest := fun _ _ _ _ h => by cases h
  increasing := fun _ => List.Pairwise.nil
  senior := fun _ _ _ h => absurd h List.not_mem_nil
  kept := fun _ _ _ h => by cases h
  unreplaced := fun _ _ _ _ _ => List.not_mem_nil
  ended := fun _ _ _ h => by cases h
  closed := fun _ _ h => absurd h List.not_mem_nil
  once := fun _ _ => Nat.zero_le _
  after := fun _ _ _ h => by simp at h

/-- A holder that is not seated takes a new ticket, or puts the one that it has away. -/
theorem Sound.waiting (h : t.Sound) {st : Stage K} {next : Nat} (hnext : t.next ≤ next)
    (hold : ∀ k n, t.stage c ≠ .seated k n ∧ t.stage c ≠ .gone k n)
    (hnew : ∀ k n, st ≠ .seated k n ∧ st ≠ .gone k n)
    (hticket : ∀ k n, st.ticket? = some (k, n) → t.next ≤ n ∧ n < next) :
    { t with next := next, stage := Function.update t.stage c st : Tenure C K }.Sound := by
  have hseated : ∀ c' k n, Function.update t.stage c st c' = .seated k n ↔
      t.stage c' = .seated k n := fun c' k n => by
    by_cases hc : c' = c
    · rw [hc, Function.update_self]
      exact iff_of_false (hnew k n).1 (hold k n).1
    · rw [Function.update_of_ne hc]
  have hgone : ∀ c' k n, Function.update t.stage c st c' = .gone k n ↔
      t.stage c' = .gone k n := fun c' k n => by
    by_cases hc : c' = c
    · rw [hc, Function.update_self]
      exact iff_of_false (hnew k n).2 (hold k n).2
    · rw [Function.update_of_ne hc]
  refine ⟨fun c' k n htick => ?_, fun c' c'' k k' n htick htick' => ?_, fun k n => ?_,
    fun k n c' hseat => (hseated c' k n).mpr (h.seated k n c' hseat), h.newest, h.increasing,
    h.senior, fun c' k n hc' => h.kept c' k n ((hseated c' k n).mp hc'), h.unreplaced,
    fun c' k n hc' => h.ended c' k n ((hgone c' k n).mp hc'), fun k n hclosed => ?_, h.once,
    h.after⟩
  · dsimp only at htick
    by_cases hc : c' = c
    · rw [hc, Function.update_self] at htick
      exact (hticket k n htick).2
    · rw [Function.update_of_ne hc] at htick
      exact Nat.lt_of_lt_of_le (h.drawn c' k n htick) hnext
  · dsimp only at htick htick'
    by_cases hc : c' = c <;> by_cases hc' : c'' = c
    · rw [hc, hc']
    · rw [hc, Function.update_self] at htick
      rw [Function.update_of_ne hc'] at htick'
      exact absurd (h.drawn c'' k' n htick') (Nat.not_lt_of_le (hticket k n htick).1)
    · rw [Function.update_of_ne hc] at htick
      rw [hc', Function.update_self] at htick'
      exact absurd (h.drawn c' k n htick) (Nat.not_lt_of_le (hticket k' n htick').1)
    · rw [Function.update_of_ne hc] at htick
      rw [Function.update_of_ne hc'] at htick'
      exact h.apart c' c'' k k' n htick htick'
  · simp only [hseated, hgone]
    exact h.opened k n
  · simp only [hgone]
    exact h.closed k n hclosed

omit [DecidableEq C] in
/-- A ticket that is still held has not come to its seat. -/
theorem Sound.not_opened (h : t.Sound) (hstage : t.stage c = .holding k n) (k' : K) :
    .opened k' n ∉ t.log := fun hopened => by
  obtain ⟨c', hc'⟩ := (h.opened k' n).mp hopened
  have hsame := h.apart c c' k k' n (congrArg Stage.ticket? hstage)
    (by rcases hc' with hc' | hc' <;> rw [hc'] <;> rfl)
  rw [← hsame, hstage] at hc'
  rcases hc' with hc' | hc' <;> cases hc'

omit [DecidableEq C] [DecidableEq K] in
theorem mem_replacement {entry : Entry K} :
    entry ∈ t.replacement k n ↔ ∃ m c, t.seat k = some (m, c) ∧ entry = .replaced k m n := by
  unfold replacement
  rcases hseat : t.seat k with _ | ⟨m, c⟩
  · simp
  · simp

theorem mem_sit {entry : Entry K} : entry ∈ (t.sit c k n).log ↔ entry ∈ t.log ∨
    (∃ m c', t.seat k = some (m, c') ∧ entry = .replaced k m n) ∨ entry = .opened k n := by
  unfold sit
  rw [List.mem_append, List.mem_append, mem_replacement, List.mem_singleton, or_assoc]

theorem opened_sit : .opened k' m ∈ (t.sit c k n).log ↔ .opened k' m ∈ t.log ∨ k' = k ∧ m = n := by
  rw [mem_sit]
  simp

theorem closed_sit : .closed k' m ∈ (t.sit c k n).log ↔ .closed k' m ∈ t.log := by
  rw [mem_sit]
  simp

theorem replaced_sit {m' : Nat} : .replaced k' m m' ∈ (t.sit c k n).log ↔
    .replaced k' m m' ∈ t.log ∨ (∃ c', t.seat k = some (m, c')) ∧ k' = k ∧ m' = n := by
  rw [mem_sit]
  constructor
  · rintro (hold | ⟨m₀, c', hseat, heq⟩ | heq)
    · exact .inl hold
    · cases heq
      exact .inr ⟨⟨c', hseat⟩, rfl, rfl⟩
    · cases heq
  · rintro (hold | ⟨⟨c', hseat⟩, rfl, rfl⟩)
    · exact .inl hold
    · exact .inr (.inl ⟨m, c', hseat, rfl⟩)

theorem count_sit : (t.sit c k n).log.count (.closed k' m) = t.log.count (.closed k' m) := by
  have hnone : (t.replacement k n).count (.closed k' m) = 0 :=
    List.count_eq_zero.mpr fun hmem => by
      obtain ⟨_, _, _, heq⟩ := mem_replacement.mp hmem
      cases heq
  unfold sit
  rw [List.count_append, List.count_append, hnone]
  rfl

theorem openings_sit : (t.sit c k n).openings k' = t.openings k' ++ if k = k' then [n] else [] := by
  have hnone : (t.replacement k n).filterMap (Entry.opens? k') = [] :=
    List.filterMap_eq_nil_iff.mpr fun entry hmem => by
      obtain ⟨_, _, _, rfl⟩ := mem_replacement.mp hmem
      rfl
  unfold openings sit
  rw [List.filterMap_append, List.filterMap_append, hnone, List.append_nil]
  by_cases hk : k = k'
  · simp [Entry.opens?, hk]
  · simp [Entry.opens?, hk]

theorem seat_sit (h : (t.sit c k n).seat k' = some (m, c')) :
    k' = k ∧ m = n ∧ c' = c ∨ k' ≠ k ∧ t.seat k' = some (m, c') := by
  unfold sit at h
  dsimp only at h
  by_cases hk : k' = k
  · rw [hk, Function.update_self] at h
    cases h
    exact .inl ⟨hk, rfl, rfl⟩
  · rw [Function.update_of_ne hk] at h
    exact .inr ⟨hk, h⟩

theorem stage_sit_self : (t.sit c k n).stage c = .seated k n := Function.update_self ..

theorem stage_sit_of_ne (hc : c' ≠ c) : (t.sit c k n).stage c' = t.stage c' :=
  Function.update_of_ne hc ..

/-- The tickets stay with their holders as one of them sits down. -/
theorem ticket_sit (hstage : t.stage c = .holding k n) (c' : C) :
    ((t.sit c k n).stage c').ticket? = (t.stage c').ticket? := by
  by_cases hc : c' = c
  · rw [hc, stage_sit_self, hstage]
    rfl
  · rw [stage_sit_of_ne hc]

omit [DecidableEq K] in
/-- What comes before an entry comes before it in a longer log too. -/
theorem before_append {Q : List (Entry K) → Prop} {entry : Entry K} {log more : List (Entry K)}
    (h : ∀ before, before ++ [entry] <+: log → Q before) (hmore : entry ∉ more) :
    ∀ before, before ++ [entry] <+: log ++ more → Q before := by
  induction more using List.reverseRecOn with
  | nil => rwa [List.append_nil]
  | append_singleton more last ih =>
    intro before hbefore
    rw [← List.append_assoc, List.prefix_concat_iff] at hbefore
    rcases hbefore with heq | hbefore
    · obtain ⟨-, hlast⟩ := List.append_inj' heq rfl
      refine absurd (List.mem_append_right more ?_) hmore
      rw [← hlast]
      exact List.mem_singleton_self entry
    · exact ih (fun hmem => hmore (List.mem_append_left _ hmem)) before hbefore

theorem Sound.sit (h : t.Sound) (hstage : t.stage c = .holding k n)
    (horder : ∀ m, .opened k m ∈ t.log → m < n) : (t.sit c k n).Sound := by
  have hfresh := h.not_opened hstage
  have hcomer : .opened k n ∈ (t.sit c k n).log := opened_sit.mpr (.inr ⟨rfl, rfl⟩)
  have hbefore : ∀ m c', t.seat k = some (m, c') → .opened k m ∈ t.log := fun m c' hseat =>
    (h.opened k m).mpr ⟨c', .inl (h.seated k m c' hseat)⟩
  refine ⟨fun c' k' m htick => ?_, fun c' c'' k' k'' m htick htick' => ?_, fun k' m => ?_,
    fun k' m c' hseat => ?_, fun k' m c' m' hseat hm' => ?_, fun k' => ?_,
    fun k' m m' hm => ?_, fun c' k' m hc' => ?_, fun k' m c' m' hseat hm => ?_,
    fun c' k' m hc' => ?_, fun k' m hm => ?_, fun k' m => by rw [count_sit]; exact h.once k' m,
    fun k' m before hbefore => ?_⟩
  · rw [ticket_sit hstage] at htick
    exact h.drawn c' k' m htick
  · rw [ticket_sit hstage] at htick htick'
    exact h.apart c' c'' k' k'' m htick htick'
  · rw [opened_sit, h.opened]
    constructor
    · rintro (⟨c', hc'⟩ | ⟨rfl, rfl⟩)
      · refine ⟨c', ?_⟩
        have hne : c' ≠ c := by
          rintro rfl
          rw [hstage] at hc'
          rcases hc' with hc' | hc' <;> cases hc'
        rw [stage_sit_of_ne hne]
        exact hc'
      · exact ⟨c, .inl stage_sit_self⟩
    · rintro ⟨c', hc'⟩
      by_cases hc : c' = c
      · rw [hc, stage_sit_self] at hc'
        rcases hc' with hc' | hc'
        · cases hc'
          exact .inr ⟨rfl, rfl⟩
        · cases hc'
      · rw [stage_sit_of_ne hc] at hc'
        exact .inl ⟨c', hc'⟩
  · rcases seat_sit hseat with ⟨rfl, rfl, rfl⟩ | ⟨-, hseat⟩
    · exact stage_sit_self
    · have hc' := h.seated k' m c' hseat
      have hne : c' ≠ c := by
        rintro rfl
        rw [hstage] at hc'
        cases hc'
      rw [stage_sit_of_ne hne]
      exact hc'
  · rcases seat_sit hseat with ⟨rfl, rfl, rfl⟩ | ⟨hk, hseat⟩
    · rcases opened_sit.mp hm' with hm' | ⟨-, rfl⟩
      · exact Nat.le_of_lt (horder m' hm')
      · exact Nat.le_refl _
    · rcases opened_sit.mp hm' with hm' | ⟨hk', -⟩
      · exact h.newest k' m c' m' hseat hm'
      · exact absurd hk' hk
  · rw [openings_sit]
    split
    · next hk =>
      refine List.pairwise_append.mpr ⟨h.increasing k', List.pairwise_singleton .., ?_⟩
      intro m hm m' hm'
      rw [List.mem_singleton.mp hm']
      exact horder m (hk ▸ mem_openings.mp hm)
    · rw [List.append_nil]
      exact h.increasing k'
  · rcases replaced_sit.mp hm with hm | ⟨⟨c', hseat⟩, rfl, rfl⟩
    · obtain ⟨hlt, hfrom, hto⟩ := h.senior k' m m' hm
      exact ⟨hlt, opened_sit.mpr (.inl hfrom), opened_sit.mpr (.inl hto)⟩
    · have hopened := hbefore m c' hseat
      exact ⟨horder m hopened, opened_sit.mpr (.inl hopened), hcomer⟩
  · by_cases hc : c' = c
    · rw [hc, stage_sit_self] at hc'
      cases hc'
      exact .inl (by rw [hc]; exact Function.update_self ..)
    · rw [stage_sit_of_ne hc] at hc'
      rcases h.kept c' k' m hc' with hseat | ⟨m', hm'⟩
      · by_cases hk : k' = k
        · -- the newcomer takes the seat
          subst hk
          exact .inr ⟨n, replaced_sit.mpr (.inr ⟨⟨c', hseat⟩, rfl, rfl⟩)⟩
        · exact .inl ((Function.update_of_ne hk ..).trans hseat)
      · exact .inr ⟨m', replaced_sit.mpr (.inl hm')⟩
  · rcases seat_sit hseat with ⟨rfl, rfl, rfl⟩ | ⟨hk, hseat⟩
    · rcases replaced_sit.mp hm with hm | ⟨⟨c₀, hseat⟩, -⟩
      · exact hfresh k' (h.senior k' m m' hm).2.1
      · exact hfresh k' (hbefore m c₀ hseat)
    · rcases replaced_sit.mp hm with hm | ⟨-, hk', -⟩
      · exact h.unreplaced k' m c' m' hseat hm
      · exact hk hk'
  · have hne : c' ≠ c := by
      rintro rfl
      rw [stage_sit_self] at hc'
      cases hc'
    rw [stage_sit_of_ne hne] at hc'
    rcases h.ended c' k' m hc' with ⟨m', hm'⟩ | hm
    · exact .inl ⟨m', replaced_sit.mpr (.inl hm')⟩
    · exact .inr (closed_sit.mpr hm)
  · obtain ⟨c', hc'⟩ := h.closed k' m (closed_sit.mp hm)
    have hne : c' ≠ c := by
      rintro rfl
      rw [hstage] at hc'
      cases hc'
    exact ⟨c', (stage_sit_of_ne hne).trans hc'⟩
  · unfold Tenure.sit at hbefore
    rw [List.append_assoc] at hbefore
    refine before_append (h.after k' m) (fun hmem => ?_) before hbefore
    rcases List.mem_append.mp hmem with hmem | hmem
    · obtain ⟨_, _, _, heq⟩ := mem_replacement.mp hmem
      cases heq
    · cases List.mem_singleton.mp hmem

/-! ## Rising -/

section Rising

variable (hstage : t.stage c = .seated k n)
include hstage

omit [DecidableEq K] in
theorem ticket_rise (c' : C) :
    (Function.update t.stage c (.gone k n) c').ticket? = (t.stage c').ticket? := by
  by_cases hc : c' = c
  · rw [hc, Function.update_self, hstage]
    rfl
  · rw [Function.update_of_ne hc]

omit [DecidableEq K] hstage in
theorem seated_rise : Function.update t.stage c (.gone k n) c' = .seated k' m ↔
    c' ≠ c ∧ t.stage c' = .seated k' m := by
  by_cases hc : c' = c
  · rw [hc, Function.update_self]
    simp
  · rw [Function.update_of_ne hc]
    simp [hc]

omit [DecidableEq K] in
theorem gone_rise : Function.update t.stage c (.gone k n) c' = .gone k' m ↔
    t.stage c' = .gone k' m ∨ c' = c ∧ k' = k ∧ m = n := by
  by_cases hc : c' = c
  · rw [hc, Function.update_self, hstage]
    simp [eq_comm]
  · rw [Function.update_of_ne hc]
    simp [hc]

omit [DecidableEq K] in
/-- Who has come to a seat stays among those who have. -/
theorem come_rise : (∃ c', Function.update t.stage c (.gone k n) c' = .seated k' m
      ∨ Function.update t.stage c (.gone k n) c' = .gone k' m)
    ↔ ∃ c', t.stage c' = .seated k' m ∨ t.stage c' = .gone k' m := by
  simp only [seated_rise, gone_rise hstage]
  constructor
  · rintro ⟨c', ⟨-, hc'⟩ | hc' | ⟨rfl, rfl, rfl⟩⟩
    · exact ⟨c', .inl hc'⟩
    · exact ⟨c', .inr hc'⟩
    · exact ⟨c', .inl hstage⟩
  rintro ⟨c', hc' | hc'⟩
  · by_cases hc : c' = c
    · rw [hc, hstage] at hc'
      cases hc'
      exact ⟨c, .inr (.inr ⟨rfl, rfl, rfl⟩)⟩
    · exact ⟨c', .inl ⟨hc, hc'⟩⟩
  · exact ⟨c', .inr (.inl hc')⟩

/-- Who has been replaced rises, and nobody is told. -/
theorem Sound.rise_replaced (h : t.Sound) (hseat : (t.seat k).map Prod.fst ≠ some n) :
    { t with stage := Function.update t.stage c (.gone k n) : Tenure C K }.Sound := by
  refine ⟨fun c' k' m htick => ?_, fun c' c'' k' k'' m htick htick' => ?_, fun k' m => ?_,
    fun k' m c' hseat' => ?_, h.newest, h.increasing, h.senior, fun c' k' m hc' => ?_,
    h.unreplaced, fun c' k' m hc' => ?_, fun k' m hm => ?_, h.once, h.after⟩
  · exact h.drawn c' k' m ((ticket_rise hstage c').symm.trans htick)
  · exact h.apart c' c'' k' k'' m ((ticket_rise hstage c').symm.trans htick)
      ((ticket_rise hstage c'').symm.trans htick')
  · exact (h.opened k' m).trans (come_rise hstage).symm
  · refine seated_rise.mpr ⟨?_, h.seated k' m c' hseat'⟩
    rintro rfl
    have hc' := h.seated k' m c' hseat'
    rw [hstage] at hc'
    cases hc'
    exact hseat (by rw [hseat']; rfl)
  · exact h.kept c' k' m (seated_rise.mp hc').2
  · rcases (gone_rise hstage).mp hc' with hc' | ⟨rfl, rfl, rfl⟩
    · exact h.ended c' k' m hc'
    · rcases h.kept c' k' m hstage with hkept | hreplaced
      · exact absurd (by rw [hkept]; rfl) hseat
      · exact .inl hreplaced
  · obtain ⟨c', hc'⟩ := h.closed k' m hm
    exact ⟨c', (gone_rise hstage).mpr (.inl hc')⟩

/-- Who is in the seat rises, and it is said. -/
theorem Sound.rise_current (h : t.Sound) (hseat : (t.seat k).map Prod.fst = some n) :
    (⟨t.next, Function.update t.stage c (.gone k n), Function.update t.seat k none,
      t.log ++ [.closed k n]⟩ : Tenure C K).Sound := by
  have hopened : .opened k n ∈ t.log := (h.opened k n).mpr ⟨c, .inl hstage⟩
  have hseats : ∀ k' m c', Function.update t.seat k none k' = some (m, c') →
      k' ≠ k ∧ t.seat k' = some (m, c') := fun k' m c' hseat' => by
    by_cases hk : k' = k
    · rw [hk, Function.update_self] at hseat'
      cases hseat'
    · rw [Function.update_of_ne hk] at hseat'
      exact ⟨hk, hseat'⟩
  have hopens : ∀ k' m, .opened k' m ∈ t.log ++ [.closed k n] ↔ .opened k' m ∈ t.log :=
    fun k' m => by simp
  have hreplaced : ∀ k' m m', .replaced k' m m' ∈ t.log ++ [.closed k n] ↔
      .replaced k' m m' ∈ t.log := fun k' m m' => by simp
  -- it has not been said before
  have hnot : .closed k n ∉ t.log := fun hclosed => by
    obtain ⟨c', hc'⟩ := h.closed k n hclosed
    have hsame := h.apart c c' k k n (congrArg Stage.ticket? hstage) (congrArg Stage.ticket? hc')
    rw [← hsame, hstage] at hc'
    cases hc'
  refine ⟨fun c' k' m htick => ?_, fun c' c'' k' k'' m htick htick' => ?_, fun k' m => ?_,
    fun k' m c' hseat' => ?_, fun k' m c' m' hseat' hm' => ?_, fun k' => ?_,
    fun k' m m' hm => ?_, fun c' k' m hc' => ?_, fun k' m c' m' hseat' hm => ?_,
    fun c' k' m hc' => ?_, fun k' m hm => ?_, fun k' m => ?_, fun k' m before hbefore => ?_⟩
  · exact h.drawn c' k' m ((ticket_rise hstage c').symm.trans htick)
  · exact h.apart c' c'' k' k'' m ((ticket_rise hstage c').symm.trans htick)
      ((ticket_rise hstage c'').symm.trans htick')
  · exact (hopens k' m).trans ((h.opened k' m).trans (come_rise hstage).symm)
  · obtain ⟨hk, hseat'⟩ := hseats k' m c' hseat'
    have hc' := h.seated k' m c' hseat'
    refine seated_rise.mpr ⟨?_, hc'⟩
    rintro rfl
    rw [hstage] at hc'
    cases hc'
    exact hk rfl
  · exact h.newest k' m c' m' (hseats k' m c' hseat').2 ((hopens k' m').mp hm')
  · unfold openings
    rw [List.filterMap_append]
    exact (List.append_nil _).symm ▸ h.increasing k'
  · obtain ⟨hlt, hfrom, hto⟩ := h.senior k' m m' ((hreplaced k' m m').mp hm)
    exact ⟨hlt, (hopens k' m).mpr hfrom, (hopens k' m').mpr hto⟩
  · obtain ⟨hc, hseated⟩ := seated_rise.mp hc'
    rcases h.kept c' k' m hseated with hkept | ⟨m', hm'⟩
    · refine .inl ((Function.update_of_ne (fun hk => hc ?_) ..).trans hkept)
      -- the seat has only one holder
      rw [hk] at hkept
      rw [hkept] at hseat
      obtain rfl : m = n := Option.some.inj hseat
      exact h.apart c' c k' k m (congrArg Stage.ticket? hseated) (congrArg Stage.ticket? hstage)
    · exact .inr ⟨m', (hreplaced k' m m').mpr hm'⟩
  · exact h.unreplaced k' m c' m' (hseats k' m c' hseat').2 ((hreplaced k' m m').mp hm)
  · rcases (gone_rise hstage).mp hc' with hc' | ⟨rfl, rfl, rfl⟩
    · rcases h.ended c' k' m hc' with ⟨m', hm'⟩ | hclosed
      · exact .inl ⟨m', (hreplaced k' m m').mpr hm'⟩
      · exact .inr (List.mem_append_left _ hclosed)
    · exact .inr (List.mem_append_right _ (List.mem_singleton_self _))
  · rcases List.mem_append.mp hm with hm | hm
    · obtain ⟨c', hc'⟩ := h.closed k' m hm
      exact ⟨c', (gone_rise hstage).mpr (.inl hc')⟩
    · cases List.mem_singleton.mp hm
      exact ⟨c, (gone_rise hstage).mpr (.inr ⟨rfl, rfl, rfl⟩)⟩
  · rw [List.count_append]
    by_cases heq : k' = k ∧ m = n
    · obtain ⟨rfl, rfl⟩ := heq
      rw [List.count_eq_zero.mpr hnot]
      simp
    have hnone : [Entry.closed k n].count (.closed k' m) = 0 :=
      List.count_eq_zero.mpr fun hmem => by
        cases List.mem_singleton.mp hmem
        exact heq ⟨rfl, rfl⟩
    rw [hnone]
    exact h.once k' m
  · rcases List.prefix_concat_iff.mp hbefore with heq | hbefore
    · obtain ⟨hlog, hlast⟩ := List.append_inj' heq rfl
      cases List.singleton_inj.mp hlast
      rw [hlog]
      exact hopened
    · exact h.after k' m before hbefore

end Rising

theorem Sound.rise (h : t.Sound) (hstage : t.stage c = .seated k n) {told : Bool}
    (htold : (∃ c', t.seat k = some (n, c')) → told = true) : (t.rise c k n told).Sound := by
  unfold Tenure.rise
  split
  · next hseat =>
    obtain ⟨⟨_, c'⟩, hc', rfl⟩ := Option.map_eq_some_iff.mp hseat
    rw [if_pos (htold ⟨c', hc'⟩)]
    exact h.rise_current hstage hseat
  · next hseat => exact h.rise_replaced hstage hseat

/-! ## Runs -/

theorem Sound.act (h : t.Sound) {a : Act C K} (horder : t.InOrder a) : (t.act a).Sound := by
  cases a with
  | draw c k =>
    simp only [Tenure.act]
    split
    · next hstage =>
      refine h.waiting (Nat.le_succ _) (fun _ _ => ?_) (fun _ _ => ?_) fun _ _ htick => ?_
      · rw [hstage]
        exact ⟨nofun, nofun⟩
      · exact ⟨nofun, nofun⟩
      · cases htick
        exact ⟨Nat.le_refl _, Nat.lt_succ_self _⟩
    · exact h
  | discard c =>
    simp only [Tenure.act]
    split
    · next hstage =>
      refine h.waiting (Nat.le_refl _) (fun _ _ => ?_) (fun _ _ => ?_) fun _ _ htick => ?_
      · rw [hstage]
        exact ⟨nofun, nofun⟩
      · exact ⟨nofun, nofun⟩
      · cases htick
    · exact h
  | sit c =>
    simp only [Tenure.act]
    split
    · next k n hstage => exact h.sit hstage (horder k n hstage)
    · exact h
  | rise c told =>
    simp only [Tenure.act]
    split
    · next k n hstage => exact h.rise hstage (horder k n hstage)
    · exact h

/-- Nothing happens, or a ticket is drawn or put away. -/
inductive Aside (t : Tenure C K) : Tenure C K → Prop where
  | idle : Aside t t
  | draw (c : C) (k : K) : Aside t (t.act (.draw c k))
  | discard (c : C) : Aside t (t.act (.discard c))

theorem Sound.aside {t' : Tenure C K} (h : t.Sound) (ht : Aside t t') : t'.Sound := by
  cases ht with
  | idle => exact h
  | draw c k => exact h.act trivial
  | discard c => exact h.act trivial

/-- Out of order, either the tickets of a seat stop increasing or one is never closed. -/
theorem Sound.inOrder (h : t.Sound) {a : Act C K}
    (hincreasing : ∀ k, ((t.act a).openings k).Pairwise (· < ·))
    (hended : ∀ c k n, (t.act a).stage c = .gone k n →
      (∀ m, n < m → .replaced k n m ∉ (t.act a).log) → .closed k n ∈ (t.act a).log) :
    t.InOrder a := by
  cases a with
  | draw | discard => trivial
  | sit c =>
    intro k n hstage m hm
    have hopenings := hincreasing k
    simp only [Tenure.act, hstage, openings_sit, if_pos] at hopenings
    exact (List.pairwise_append.mp hopenings).2.2 m (mem_openings.mpr hm) n
      (List.mem_singleton_self n)
  | rise c told =>
    rintro k n hstage ⟨c', hseat⟩
    have hlast := hended c k n
    simp only [Tenure.act, Tenure.rise, hstage, hseat, Option.map_some, if_pos] at hlast
    cases told with
    | true => rfl
    | false =>
      have hclosed := hlast (Function.update_self ..) fun m _ =>
        h.unreplaced k n c' m hseat
      obtain ⟨c₀, hc₀⟩ := h.closed k n hclosed
      have hsame := h.apart c c₀ k k n (congrArg Stage.ticket? hstage) (congrArg Stage.ticket? hc₀)
      rw [← hsame, hstage] at hc₀
      cases hc₀

end Tenure

end Sccp
