/-
  Sccp.Lib.Table

  Finite tables: association lists in which every key occurs once.

  A table stands for a hash map.  `get?` is the map's lookup, and the order of
  `entries` stands for the (unspecified) order in which the map is iterated:
  `Table.Same` identifies two tables that agree on every lookup, whatever the
  order of their entries.  A hash set is a list without repetitions, edited by
  `List.insert` and `without`.
-/

import Mathlib.Data.List.Basic
import Mathlib.Data.List.Nodup

namespace Sccp

universe u v

/-- A finite map from `K` to `V`, with its iteration order. -/
structure Table (K : Type u) (V : Type v) where
  entries : List (K × V)
  nodup : (entries.map Prod.fst).Nodup

namespace Table

variable {K : Type u} {V : Type v}

instance : EmptyCollection (Table K V) := ⟨⟨[], List.nodup_nil⟩⟩

instance : Inhabited (Table K V) := ⟨∅⟩

variable (t : Table K V)

/-- The keys in iteration order. -/
def keys : List K := t.entries.map Prod.fst

/-- The values in iteration order. -/
def values : List V := t.entries.map Prod.snd

def size : Nat := t.entries.length

variable {t}

/-- Keep the entries that satisfy `p` (`HashMap::retain`). -/
def filter (p : K → V → Bool) (t : Table K V) : Table K V where
  entries := t.entries.filter fun e => p e.1 e.2
  nodup := t.nodup.sublist ((List.filter_sublist).map _)

/-- Replace each value, keeping keys and order. -/
def mapValues {W : Type*} (f : K → V → W) (t : Table K V) : Table K W where
  entries := t.entries.map fun e => (e.1, f e.1 e.2)
  nodup := by
    have h := t.nodup
    simpa [List.map_map, Function.comp_def] using h

/-- The first entry in iteration order that satisfies `p`. -/
def find? (p : K → V → Bool) (t : Table K V) : Option (K × V) :=
  t.entries.find? fun e => p e.1 e.2

def any (p : K → V → Bool) (t : Table K V) : Bool := t.entries.any fun e => p e.1 e.2

variable [DecidableEq K]
variable {k : K} {v : V} {p : K → V → Bool} {l : List (K × V)}

/-- Lookup of a key in an association list. -/
def lookup (k : K) : List (K × V) → Option V
  | [] => none
  | e :: rest => if e.1 = k then some e.2 else lookup k rest

variable (t)

def get? (k : K) : Option V := lookup k t.entries

def contains (k : K) : Bool := (t.get? k).isSome

/-- Edit the value at `k`, if there is one (`HashMap::get_mut`). -/
def modify (k : K) (f : V → V) : Table K V :=
  t.mapValues fun k' v => if k' = k then f v else v

/-- Remove the entry at `k`. -/
def erase (k : K) : Table K V := t.filter fun k' _ => k' ≠ k

variable {t}

theorem lookup_eq_none : lookup k l = none ↔ k ∉ l.map Prod.fst := by
  induction l with
  | nil => simp [lookup]
  | cons e rest ih =>
    by_cases h : e.1 = k
    · simp [lookup, h]
    · simp [lookup, h, ih, Ne.symm h, eq_comm]

theorem mem_of_lookup (h : lookup k l = some v) : (k, v) ∈ l := by
  induction l with
  | nil => simp [lookup] at h
  | cons e rest ih =>
    simp only [lookup] at h
    split at h
    · next hk =>
      obtain ⟨k', v'⟩ := e
      simp_all
    · exact List.mem_cons_of_mem _ (ih h)

theorem lookup_of_mem (hn : (l.map Prod.fst).Nodup) (h : (k, v) ∈ l) : lookup k l = some v := by
  induction l with
  | nil => simp at h
  | cons e rest ih =>
    rw [List.map_cons, List.nodup_cons] at hn
    rcases List.mem_cons.mp h with rfl | h'
    · simp [lookup]
    have hne : e.1 ≠ k := by
      rintro rfl
      exact hn.1 (List.mem_map.mpr ⟨_, h', rfl⟩)
    simp only [lookup, hne, if_false]
    exact ih hn.2 h'

theorem get?_eq_some : t.get? k = some v ↔ (k, v) ∈ t.entries :=
  ⟨mem_of_lookup, lookup_of_mem t.nodup⟩

theorem get?_eq_none : t.get? k = none ↔ k ∉ t.keys :=
  lookup_eq_none

/-- Put `v` at `k`, replacing an existing value in place (`HashMap::insert`). -/
def insert (t : Table K V) (k : K) (v : V) : Table K V :=
  if h : t.get? k = none then
    { entries := t.entries ++ [(k, v)]
      nodup := by
        have hk : k ∉ t.entries.map Prod.fst := get?_eq_none.mp h
        have hn := t.nodup
        rw [List.map_append, List.nodup_append]
        refine ⟨hn, by simp, ?_⟩
        intro a ha b hb
        simp only [List.map_cons, List.map_nil, List.mem_singleton] at hb
        rintro rfl
        exact hk (hb ▸ ha) }
  else t.modify k fun _ => v

/-- Insert every entry of `t'` in turn (`HashMap::extend`). -/
def extend (t t' : Table K V) : Table K V :=
  t'.entries.foldl (fun acc e => acc.insert e.1 e.2) t

/-- Two tables that agree on every lookup. -/
def Same (t t' : Table K V) : Prop := ∀ k, t.get? k = t'.get? k

/-! ## Lookup after each edit -/

@[simp] theorem get?_empty (k : K) : (∅ : Table K V).get? k = none := rfl

theorem lookup_filter (hn : (l.map Prod.fst).Nodup) :
    lookup k (l.filter fun e => p e.1 e.2) = (lookup k l).filter (p k) := by
  induction l with
  | nil => rfl
  | cons e rest ih =>
    rw [List.map_cons, List.nodup_cons] at hn
    by_cases hk : e.1 = k
    · have hrest : lookup k rest = none := lookup_eq_none.mpr (hk ▸ hn.1)
      by_cases hp : p e.1 e.2
      · simp [lookup, hk, hk ▸ hp, Option.filter]
      · have hp' : p k e.2 = false := by simpa [hk] using hp
        simp [lookup, hk, hp', Option.filter, ih hn.2, hrest]
    · by_cases hp : p e.1 e.2 <;> simp [lookup, hk, hp, ih hn.2]

variable (t)

@[simp] theorem get?_filter (p : K → V → Bool) (k : K) :
    (t.filter p).get? k = (t.get? k).filter (p k) :=
  lookup_filter t.nodup

@[simp] theorem get?_mapValues {W : Type*} (f : K → V → W) (k : K) :
    (t.mapValues f).get? k = (t.get? k).map (f k) := by
  obtain ⟨l, hn⟩ := t
  simp only [get?, mapValues]
  clear hn
  induction l with
  | nil => rfl
  | cons e rest ih =>
    by_cases hk : e.1 = k
    · simp [lookup, hk]
    · simp [lookup, hk, ih]

theorem get?_modify (k k' : K) (f : V → V) :
    (t.modify k f).get? k' = if k' = k then (t.get? k).map f else t.get? k' := by
  by_cases h : k' = k
  · subst h
    simp [modify]
  · cases hg : t.get? k' <;> simp [modify, h, hg]

theorem get?_erase (k k' : K) : (t.erase k).get? k' = if k' = k then none else t.get? k' := by
  by_cases h : k' = k
  · subst h
    cases hg : t.get? k' <;> simp [erase, hg, Option.filter]
  · cases hg : t.get? k' <;> simp [erase, hg, h, Option.filter]

theorem lookup_append (k : K) (l l' : List (K × V)) :
    lookup k (l ++ l') = (lookup k l).or (lookup k l') := by
  induction l with
  | nil => rfl
  | cons e rest ih => by_cases hk : e.1 = k <;> simp [lookup, hk, ih]

theorem get?_insert (k k' : K) (v : V) :
    (t.insert k v).get? k' = if k' = k then some v else t.get? k' := by
  unfold insert
  split
  · next h =>
    simp only [get?] at h ⊢
    rw [lookup_append]
    by_cases hk : k' = k
    · subst hk
      simp [h, lookup]
    · simp [lookup, Ne.symm hk, hk]
  next h =>
  rw [get?_modify]
  by_cases hk : k' = k
  · subst hk
    obtain ⟨w, hw⟩ := Option.ne_none_iff_exists'.mp h
    simp [hw]
  · simp [hk]

variable {t}

theorem get?_extend (t t' : Table K V) (k : K) :
    (t.extend t').get? k = (t'.get? k).or (t.get? k) := by
  obtain ⟨l, hn⟩ := t'
  simp only [extend, get?]
  induction l generalizing t with
  | nil => simp [lookup]
  | cons e rest ih =>
    rw [List.map_cons, List.nodup_cons] at hn
    simp only [List.foldl_cons]
    rw [ih _ hn.2]
    have hi := get?_insert t e.1 k e.2
    simp only [get?] at hi
    rw [hi]
    by_cases hk : e.1 = k
    · have hrest : lookup k rest = none := lookup_eq_none.mpr (hk ▸ hn.1)
      simp [lookup, hk, hrest]
    · simp [lookup, hk, Ne.symm hk]

/-! ## Size -/

/-- The number of entries that satisfy `p`. -/
def count (p : K → V → Bool) (t : Table K V) : Nat := t.entries.countP fun e => p e.1 e.2

theorem perm_erase (hn : (l.map Prod.fst).Nodup) (h : (k, v) ∈ l) :
    l.Perm ((k, v) :: l.filter fun e => decide (e.1 ≠ k)) := by
  induction l with
  | nil => cases h
  | cons e rest ih =>
    rw [List.map_cons, List.nodup_cons] at hn
    rcases List.mem_cons.mp h with rfl | h'
    · -- the key does not occur again behind its entry
      have hrest : rest.filter (fun e => decide (e.1 ≠ k)) = rest := by
        refine List.filter_eq_self.mpr fun e he => ?_
        have hne : e.1 ≠ k := fun heq => hn.1 (List.mem_map.mpr ⟨e, he, heq⟩)
        simp [hne]
      rw [List.filter_cons_of_neg (by simp), hrest]
    · have hne : e.1 ≠ k := fun heq => hn.1 (List.mem_map.mpr ⟨_, h', heq.symm⟩)
      rw [List.filter_cons_of_pos (by simp [hne])]
      exact ((ih hn.2 h').cons e).trans (.swap ..)

theorem size_insert_of_none (h : t.get? k = none) (v : V) : (t.insert k v).size = t.size + 1 := by
  unfold insert size
  rw [dif_pos h, List.length_append, List.length_singleton]

theorem size_erase_of_some (h : t.get? k = some v) : (t.erase k).size + 1 = t.size :=
  ((perm_erase t.nodup (get?_eq_some.mp h)).length_eq).symm

theorem count_insert_of_none (h : t.get? k = none) (v : V) :
    (t.insert k v).count p = t.count p + if p k v then 1 else 0 := by
  unfold insert count
  rw [dif_pos h, List.countP_append, List.countP_cons, List.countP_nil, Nat.zero_add]

theorem count_erase_of_some (h : t.get? k = some v) :
    ((t.erase k).count p + if p k v then 1 else 0) = t.count p := by
  unfold count
  rw [(perm_erase t.nodup (get?_eq_some.mp h)).countP_eq, List.countP_cons]
  rfl

theorem count_pos_iff : 0 < t.count p ↔ ∃ k v, t.get? k = some v ∧ p k v = true := by
  unfold count
  rw [List.countP_pos_iff]
  constructor
  · rintro ⟨⟨k, v⟩, hmem, hp⟩
    exact ⟨k, v, get?_eq_some.mpr hmem, hp⟩
  · rintro ⟨k, v, hget, hp⟩
    exact ⟨(k, v), get?_eq_some.mp hget, hp⟩

/-- Two entries that satisfy `p` count twice. -/
theorem eq_of_count_le_one (hcount : t.count p ≤ 1) {k' : K} {v' : V} (hk : t.get? k = some v)
    (hp : p k v = true) (hk' : t.get? k' = some v') (hp' : p k' v' = true) : k' = k := by
  by_contra hne
  have herase := count_erase_of_some (p := p) hk
  have hpos : 0 < (t.erase k).count p := by
    refine count_pos_iff.mpr ⟨k', v', ?_, hp'⟩
    rw [get?_erase, if_neg hne]
    exact hk'
  rw [if_pos hp] at herase
  omega

omit [DecidableEq K] in
theorem count_filter {q : K → V → Bool} :
    (t.filter q).count p = t.count fun k v => p k v && q k v := by
  unfold count filter
  rw [List.countP_filter]

/-! ## Iteration -/

theorem contains_iff : t.contains k = true ↔ ∃ v, t.get? k = some v := by
  simp [contains, Option.isSome_iff_exists]

theorem not_contains_iff : t.contains k = false ↔ t.get? k = none := by
  simp [contains]

variable (t)

theorem contains_insert (k k' : K) (v : V) :
    (t.insert k v).contains k' = (decide (k' = k) || t.contains k') := by
  unfold contains
  rw [get?_insert]
  by_cases hk : k' = k <;> simp [hk]

theorem contains_erase (k k' : K) :
    (t.erase k).contains k' = (decide (k' ≠ k) && t.contains k') := by
  unfold contains
  rw [get?_erase]
  by_cases hk : k' = k <;> simp [hk]

theorem contains_modify (k k' : K) (f : V → V) : (t.modify k f).contains k' = t.contains k' := by
  unfold contains
  rw [get?_modify]
  by_cases hk : k' = k <;> simp [hk]

theorem modify_modify (k : K) (f g : V → V) : (t.modify k f).modify k g = t.modify k (g ∘ f) := by
  unfold modify mapValues
  congr 1
  dsimp only
  rw [List.map_map]
  refine List.map_congr_left fun e _ => ?_
  by_cases hk : e.1 = k <;> simp [hk]

/-- What is removed does not matter. -/
theorem erase_modify (k : K) (f : V → V) : (t.modify k f).erase k = t.erase k := by
  obtain ⟨entries, nodup⟩ := t
  unfold erase modify mapValues filter
  congr 1
  dsimp only
  rw [List.filter_map]
  refine (List.map_congr_left fun e he => ?_).trans (List.map_id _)
  have hne : e.1 ≠ k := of_decide_eq_true (List.mem_filter.mp he).2
  rw [if_neg hne, id]

variable {t}

/-- Putting the value at a key back changes nothing. -/
theorem modify_eq_self (h : t.get? k = some v) : (t.modify k fun _ => v) = t := by
  have hentries : (t.modify k fun _ => v).entries = t.entries := by
    refine (List.map_congr_left fun e he => ?_).trans (List.map_id _)
    dsimp only [id]
    by_cases hk : e.1 = k
    · have hv := lookup_of_mem t.nodup he
      rw [hk] at hv
      rw [if_pos hk, Option.mem_unique h hv]
    · rw [if_neg hk]
  obtain ⟨entries, hnodup⟩ := t
  exact (Table.mk.injEq ..).mpr hentries

/-- What tells the keys apart tells the values apart. -/
theorem nodup_map_values {A : Type*} {f : V → A}
    (h : ∀ k k' v v', t.get? k = some v → t.get? k' = some v' → f v = f v' → k = k') :
    (t.values.map f).Nodup := by
  have hentries : t.entries.Nodup := List.Nodup.of_map _ t.nodup
  rw [values, List.map_map]
  refine List.Nodup.map_on (fun e he e' he' heq => ?_) hentries
  have hk := h e.1 e'.1 e.2 e'.2 (get?_eq_some.mpr he) (get?_eq_some.mpr he') heq
  have hv := (get?_eq_some.mpr he).symm.trans ((congrArg t.get? hk).trans (get?_eq_some.mpr he'))
  exact Prod.ext hk (Option.some.inj hv)

theorem mem_keys : k ∈ t.keys ↔ ∃ v, t.get? k = some v := by
  rw [← not_iff_not, ← get?_eq_none]
  cases t.get? k <;> simp

theorem mem_values : v ∈ t.values ↔ ∃ k, t.get? k = some v := by
  simp [values, get?_eq_some]

theorem any_iff : t.any p = true ↔ ∃ k v, t.get? k = some v ∧ p k v = true := by
  simp [any, get?_eq_some]

theorem any_eq_false : t.any p = false ↔ ∀ k v, t.get? k = some v → p k v = false := by
  simp [any, get?_eq_some]

theorem find?_some (h : t.find? p = some (k, v)) : t.get? k = some v ∧ p k v = true :=
  ⟨get?_eq_some.mpr (List.mem_of_find?_eq_some h), by simpa using List.find?_some h⟩

theorem find?_none : t.find? p = none ↔ ∀ k v, t.get? k = some v → p k v = false := by
  simp [find?, get?_eq_some]

end Table

/-- Remove an element from a hash set (`HashSet::remove`, `HashSet::retain`). -/
def without {α : Type u} [DecidableEq α] (l : List α) (a : α) : List α := l.filter (· ≠ a)

theorem mem_without {α : Type u} [DecidableEq α] {l : List α} {a b : α} :
    b ∈ without l a ↔ b ∈ l ∧ b ≠ a := by
  simp [without]

end Sccp
