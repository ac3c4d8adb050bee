/-
  Sccp.Safety.Inheritance

  What a section inherits, without the search.

  A section resolves to another one when its parents resolve and their values, merged from left
  to right, join its own.  The search keeps the sections it has resolved and knows those it is
  in; it succeeds just when every section resolves, and a section that it is in is found again
  only along parents.
-/

import Mathlib.Data.List.Chain
import Mathlib.Logic.Relation
import Sccp.Config.Inheritance

namespace Sccp.Inheritance

open Sccp.Config (toAsciiLowercase)
open Relation (TransGen ReflTransGen)

/-! ## Merging -/

def ofOption (kind : TemplateKind) (identity : String) (values : List RawValue) : List RawValue :=
  values.filter fun value => optionIdentity kind value.key = identity

def ofRepeated (kind : TemplateKind) (values : List RawValue) : List RawValue :=
  values.filter fun value => repeated kind (optionIdentity kind value.key)

/-- What the last contributor that sets an option sets it to. -/
def lastSetting (kind : TemplateKind) (identity : String) (contributors : List (List RawValue)) :
    List RawValue :=
  contributors.foldl (fun before values =>
    if ofOption kind identity values = [] then before else ofOption kind identity values) []

/-- The values are made of contributors: an option is taken from the last one that sets it, or
    from all of them. -/
structure MadeOf (kind : TemplateKind) (contributors : List (List RawValue))
    (values : List RawValue) : Prop where
  last : ∀ identity, repeated kind identity = false →
    ofOption kind identity values = lastSetting kind identity contributors
  all : ofRepeated kind values = contributors.flatMap (ofRepeated kind)

variable {kind : TemplateKind}

theorem ofOption_append (identity : String) (values added : List RawValue) :
    ofOption kind identity (values ++ added)
      = ofOption kind identity values ++ ofOption kind identity added :=
  List.filter_append ..

theorem ofRepeated_append (values added : List RawValue) :
    ofRepeated kind (values ++ added) = ofRepeated kind values ++ ofRepeated kind added :=
  List.filter_append ..

theorem lastSetting_append (identity : String) (contributors : List (List RawValue))
    (values : List RawValue) : lastSetting kind identity (contributors ++ [values])
      = if ofOption kind identity values = [] then lastSetting kind identity contributors
        else ofOption kind identity values :=
  List.foldl_append

theorem ofOption_of_ne {identity : String} {value : RawValue}
    (h : optionIdentity kind value.key ≠ identity) : ofOption kind identity [value] = [] :=
  List.filter_cons_of_neg (by simpa using h)

theorem ofOption_of_eq {identity : String} {value : RawValue}
    (h : optionIdentity kind value.key = identity) : ofOption kind identity [value] = [value] :=
  List.filter_cons_of_pos (by simpa using h)

/-- The values that are left when an option is taken out. -/
theorem ofOption_removed (identity other : String) (values : List RawValue) : ofOption kind identity
        (values.filter fun candidate => optionIdentity kind candidate.key ≠ other)
      = if identity = other then [] else ofOption kind identity values := by
  refine (List.filter_filter ..).trans ?_
  split
  · next heq =>
    refine List.filter_eq_nil_iff.mpr fun value _ => ?_
    simp [heq]
  next hne =>
  refine List.filter_congr fun value _ => ?_
  by_cases h : optionIdentity kind value.key = identity
  · simp [h, hne]
  · simp [h]

theorem mergeValue_mk (overridden : List String) (merged : List RawValue) (value : RawValue) :
    mergeValue kind (overridden, merged) value = if ¬ repeated kind (optionIdentity kind value.key)
            ∧ optionIdentity kind value.key ∉ overridden then
          (optionIdentity kind value.key :: overridden, (merged.filter fun candidate =>
              optionIdentity kind candidate.key ≠ optionIdentity kind value.key) ++ [value])
        else (overridden, merged ++ [value]) := rfl

/-- Values of an option join those that are there if it has been overridden already, and
    replace them otherwise. -/
theorem ofOption_merge {identity : String} (hrepeated : repeated kind identity = false)
    (overridden : List String) (merged incoming : List RawValue) :
    ofOption kind identity (incoming.foldl (mergeValue kind) (overridden, merged)).2
      = if identity ∈ overridden then
          ofOption kind identity merged ++ ofOption kind identity incoming
        else if ofOption kind identity incoming = [] then ofOption kind identity merged
        else ofOption kind identity incoming := by
  induction incoming generalizing overridden merged with
  | nil =>
    have hnil : ofOption kind identity [] = [] := rfl
    rw [List.foldl_nil, hnil, List.append_nil, if_pos rfl, ite_self]
  | cons value rest ih =>
    have hcons : ofOption kind identity (value :: rest)
        = ofOption kind identity [value] ++ ofOption kind identity rest :=
      ofOption_append identity [value] rest
    rw [List.foldl_cons, hcons, mergeValue_mk]
    by_cases hvalue : optionIdentity kind value.key = identity
    · rw [hvalue, ofOption_of_eq hvalue]
      by_cases hmem : identity ∈ overridden
      · rw [if_neg (by simp [hmem]), ih, if_pos hmem, if_pos hmem, ofOption_append,
          ofOption_of_eq hvalue, List.append_assoc]
      · rw [if_pos (by simp [hmem, hrepeated]), ih, if_pos List.mem_cons_self, if_neg hmem,
          if_neg (by simp), ofOption_append, ofOption_removed, if_pos rfl,
          ofOption_of_eq hvalue, List.nil_append]
    rw [ofOption_of_ne hvalue, List.nil_append]
    split
    · rw [ih, ofOption_append, ofOption_removed, ofOption_of_ne hvalue, List.append_nil,
        if_neg (Ne.symm hvalue)]
      simp only [List.mem_cons, Ne.symm hvalue, false_or]
    · rw [ih, ofOption_append, ofOption_of_ne hvalue, List.append_nil]

/-- No value of an option that is repeated is taken out. -/
theorem ofRepeated_merge (overridden : List String) (merged incoming : List RawValue) :
    ofRepeated kind (incoming.foldl (mergeValue kind) (overridden, merged)).2
      = ofRepeated kind merged ++ ofRepeated kind incoming := by
  induction incoming generalizing overridden merged with
  | nil => exact (List.append_nil _).symm
  | cons value rest ih =>
    have hcons : ofRepeated kind (value :: rest)
        = ofRepeated kind [value] ++ ofRepeated kind rest := ofRepeated_append [value] rest
    rw [List.foldl_cons, hcons, ← List.append_assoc, mergeValue_mk]
    split
    · next hnew =>
      have hkept : ofRepeated kind (merged.filter fun candidate =>
          optionIdentity kind candidate.key ≠ optionIdentity kind value.key)
            = ofRepeated kind merged := by
        refine (List.filter_filter ..).trans (List.filter_congr fun candidate _ => ?_)
        by_cases heq : optionIdentity kind candidate.key = optionIdentity kind value.key
        · simp [heq, hnew.1]
        · simp [heq]
      rw [ih, ofRepeated_append, hkept]
    · rw [ih, ofRepeated_append]

theorem madeOf_nil : MadeOf kind [] [] := ⟨fun _ _ => rfl, rfl⟩

theorem madeOf_single (values : List RawValue) : MadeOf kind [values] values where
  last identity _ := by
    refine Eq.trans ?_ (lastSetting_append identity [] values).symm
    split
    · next h => exact h
    · rfl
  all := (List.append_nil _).symm

/-- Another contributor. -/
theorem MadeOf.merge {contributors : List (List RawValue)} {values : List RawValue}
    (h : MadeOf kind contributors values) (incoming : List RawValue) :
    MadeOf kind (contributors ++ [incoming]) (mergeValues values incoming kind) where
  last identity hrepeated := by
    refine (ofOption_merge hrepeated [] values incoming).trans ?_
    rw [if_neg List.not_mem_nil, h.last identity hrepeated, lastSetting_append]
  all := by
    refine (ofRepeated_merge [] values incoming).trans ?_
    rw [h.all, List.flatMap_append, List.flatMap_singleton]

/-! ## Sections that resolve -/

theorem toOption_eq_some {α : Type} {answer : Except ConfigError α} {a : α} :
    answer.toOption = some a ↔ answer = .ok a := by
  cases answer <;> simp [Except.toOption]

/-- The section that a name means. -/
def find (sections : List RawSection) (name : String) : Option RawSection :=
  sections.find? fun candidate => toAsciiLowercase candidate.name = toAsciiLowercase name

section Resolves

variable (lookup : String → Option RawSection)

def Parent (child parent : RawSection) : Prop :=
  ∃ name ∈ child.parents, lookup name = some parent

/-- One parent more, if it is a template and resolves. -/
def inheritFrom (resolve : RawSection → Option RawSection) (child : RawSection)
    (inherited : Inherited) (name : String) : Option Inherited :=
  match lookup name with
  | none => none
  | some source =>
    if source.isTemplate then
      (resolve source).bind fun parent => (inherit child parent inherited).toOption
    else none

variable {lookup} in
theorem inheritFrom_eq_some {resolve : RawSection → Option RawSection} {child : RawSection}
    {before after : Inherited} {name : String} :
    inheritFrom lookup resolve child before name = some after ↔ ∃ source parent,
      lookup name = some source ∧ source.isTemplate = true ∧ resolve source = some parent
        ∧ inherit child parent before = .ok after := by
  unfold inheritFrom
  cases lookup name with
  | none => simp
  | some source =>
    cases htemplate : source.isTemplate with
    | false => simp [htemplate]
    | true => simp [htemplate, Option.bind_eq_some_iff, toOption_eq_some]

/-- What a section resolves to, without looking at more than so many generations. -/
def resolvedWithin : Nat → RawSection → Option RawSection
  | 0, _ => none
  | depth + 1, child =>
    (child.parents.foldlM (inheritFrom lookup (resolvedWithin depth) child)
      (ownKind child)).bind fun inherited => (finish child inherited).toOption

def Resolves (child result : RawSection) : Prop :=
  ∃ depth, resolvedWithin lookup depth child = some result

/-- What some parents of a section add to what it has inherited. -/
def Inherits (child : RawSection) (before : Inherited) (names : List String)
    (after : Inherited) : Prop :=
  ∃ depth, names.foldlM (inheritFrom lookup (resolvedWithin lookup depth) child) before = some after

end Resolves

theorem foldlM_mono {α β : Type} {f g : β → α → Option β} {l : List α} {b c : β}
    (hstep : ∀ b, ∀ a ∈ l, ∀ c, f b a = some c → g b a = some c) (h : l.foldlM f b = some c) :
    l.foldlM g b = some c := by
  induction l generalizing b with
  | nil => exact h
  | cons a rest ih =>
    rw [List.foldlM_cons] at h ⊢
    obtain ⟨next, hnext, hrest⟩ := Option.bind_eq_some_iff.mp h
    exact Option.bind_eq_some_iff.mpr ⟨next, hstep b a List.mem_cons_self next hnext,
      ih (fun b a ha => hstep b a (List.mem_cons_of_mem _ ha)) hrest⟩

section Resolves

variable {lookup lookup' : String → Option RawSection}
variable {child result : RawSection} {before after : Inherited} {names : List String}

/-- A section that resolves keeps its result when the lookups it needs are kept. -/
theorem resolvedWithin_congr {depth depth' : Nat} (hdepth : depth ≤ depth')
    (hkept : ∀ a, ReflTransGen (Parent lookup) child a →
      ∀ name ∈ a.parents, ∀ p, lookup name = some p → lookup' name = some p)
    (h : resolvedWithin lookup depth child = some result) :
    resolvedWithin lookup' depth' child = some result := by
  induction depth generalizing depth' child result with
  | zero => cases h
  | succ depth ih =>
    obtain ⟨depth', rfl⟩ : ∃ n, depth' = n + 1 := ⟨depth' - 1, by omega⟩
    obtain ⟨inherited, hparents, hfinish⟩ := Option.bind_eq_some_iff.mp h
    refine Option.bind_eq_some_iff.mpr ⟨inherited, foldlM_mono ?_ hparents, hfinish⟩
    intro before name hname after hstep
    obtain ⟨source, parent, hsource, htemplate, hparent, hinherit⟩ :=
      Iff.mp inheritFrom_eq_some hstep
    refine Iff.mpr inheritFrom_eq_some ⟨source, parent,
      hkept child .refl name hname source hsource,
      htemplate, ih (by omega) (fun a ha => hkept a (.head ⟨name, hname, hsource⟩ ha)) hparent,
      hinherit⟩

theorem resolvedWithin_mono {depth depth' : Nat} (hdepth : depth ≤ depth')
    (h : resolvedWithin lookup depth child = some result) :
    resolvedWithin lookup depth' child = some result :=
  resolvedWithin_congr hdepth (fun _ _ _ _ _ h => h) h

theorem Resolves.congr (h : Resolves lookup child result)
    (hkept : ∀ a, ReflTransGen (Parent lookup) child a →
      ∀ name ∈ a.parents, ∀ p, lookup name = some p → lookup' name = some p) :
    Resolves lookup' child result :=
  h.imp fun _ => resolvedWithin_congr (Nat.le_refl _) hkept

theorem Resolves.unique {result' : RawSection} (h : Resolves lookup child result)
    (h' : Resolves lookup child result') : result = result' := by
  obtain ⟨depth, h⟩ := h
  obtain ⟨depth', h'⟩ := h'
  exact Option.some.inj ((resolvedWithin_mono (Nat.le_max_left depth depth') h).symm.trans
    (resolvedWithin_mono (Nat.le_max_right depth depth') h'))

theorem inherits_nil : Inherits lookup child before [] after ↔ before = after :=
  ⟨fun ⟨_, h⟩ => Option.some.inj h, fun h => ⟨0, congrArg some h⟩⟩

theorem inherits_cons {name : String} :
    Inherits lookup child before (name :: names) after ↔ ∃ source parent next,
      lookup name = some source ∧ source.isTemplate = true ∧ Resolves lookup source parent
        ∧ inherit child parent before = .ok next ∧ Inherits lookup child next names after := by
  constructor
  · rintro ⟨depth, h⟩
    rw [List.foldlM_cons] at h
    obtain ⟨next, hnext, hrest⟩ := Option.bind_eq_some_iff.mp h
    obtain ⟨source, parent, hsource, htemplate, hparent, hinherit⟩ :=
      Iff.mp inheritFrom_eq_some hnext
    exact ⟨source, parent, next, hsource, htemplate, ⟨depth, hparent⟩, hinherit, depth, hrest⟩
  rintro ⟨source, parent, next, hsource, htemplate, ⟨depth, hparent⟩, hinherit, depth', hrest⟩
  refine ⟨max depth depth', ?_⟩
  rw [List.foldlM_cons]
  refine Option.bind_eq_some_iff.mpr ⟨next, Iff.mpr inheritFrom_eq_some ⟨source, parent, hsource,
    htemplate, resolvedWithin_mono (Nat.le_max_left ..) hparent, hinherit⟩, ?_⟩
  refine foldlM_mono (fun before name _ after hstep => ?_) hrest
  obtain ⟨source, parent, hsource, htemplate, hparent, hinherit⟩ := Iff.mp inheritFrom_eq_some hstep
  exact Iff.mpr inheritFrom_eq_some ⟨source, parent, hsource, htemplate,
    resolvedWithin_mono (Nat.le_max_right ..) hparent, hinherit⟩

theorem Inherits.unique {after' : Inherited} (h : Inherits lookup child before names after)
    (h' : Inherits lookup child before names after') : after = after' := by
  induction names generalizing before with
  | nil => exact (inherits_nil.mp h).symm.trans (inherits_nil.mp h')
  | cons name names ih =>
    obtain ⟨source, parent, next, hsource, -, hparent, hnext, hrest⟩ := Iff.mp inherits_cons h
    obtain ⟨source', parent', next', hsource', -, hparent', hnext', hrest'⟩ :=
      Iff.mp inherits_cons h'
    obtain rfl := Option.mem_unique hsource hsource'
    obtain rfl := hparent.unique hparent'
    obtain rfl := Except.ok.inj (hnext.symm.trans hnext')
    exact ih hrest hrest'

theorem resolves_iff : Resolves lookup child result ↔
    ∃ inherited, Inherits lookup child (ownKind child) child.parents inherited
      ∧ finish child inherited = .ok result := by
  constructor
  · rintro ⟨_ | depth, h⟩
    · cases h
    · obtain ⟨inherited, hparents, hfinish⟩ := Option.bind_eq_some_iff.mp h
      exact ⟨inherited, ⟨depth, hparents⟩, toOption_eq_some.mp hfinish⟩
  · rintro ⟨inherited, ⟨depth, hparents⟩, hfinish⟩
    exact ⟨depth + 1, Option.bind_eq_some_iff.mpr
      ⟨inherited, hparents, toOption_eq_some.mpr hfinish⟩⟩

/-! ## Ancestors -/

theorem foldlM_mem {α β : Type} {f : β → α → Option β} {l : List α} {b c : β} {a : α}
    (h : l.foldlM f b = some c) (ha : a ∈ l) : ∃ before after, f before a = some after := by
  induction l generalizing b with
  | nil => cases ha
  | cons first rest ih =>
    rw [List.foldlM_cons] at h
    obtain ⟨next, hnext, hrest⟩ := Option.bind_eq_some_iff.mp h
    rcases List.mem_cons.mp ha with rfl | ha
    · exact ⟨b, next, hnext⟩
    · exact ih hrest ha

/-- The ancestors of a section that resolves do so in fewer generations. -/
theorem resolvedWithin_ancestor {depth : Nat} {ancestor : RawSection}
    (h : resolvedWithin lookup depth child = some result)
    (hancestor : TransGen (Parent lookup) child ancestor) :
    ∃ depth' < depth, ∃ result', resolvedWithin lookup depth' ancestor = some result' := by
  have hparent : ∀ {depth child parent result}, resolvedWithin lookup depth child = some result →
      Parent lookup child parent →
      ∃ depth' < depth, ∃ result', resolvedWithin lookup depth' parent = some result' := by
    rintro (_ | depth) child parent result h ⟨name, hname, hsource⟩
    · cases h
    obtain ⟨inherited, hparents, -⟩ := Option.bind_eq_some_iff.mp h
    obtain ⟨before, after, hstep⟩ := foldlM_mem hparents hname
    obtain ⟨source, result', hsource', -, hresult', -⟩ := Iff.mp inheritFrom_eq_some hstep
    obtain rfl := Option.mem_unique hsource hsource'
    exact ⟨depth, Nat.lt_succ_self depth, result', hresult'⟩
  induction hancestor with
  | single hfirst => exact hparent h hfirst
  | tail _ hlast ih =>
    obtain ⟨depth', hdepth', _, hmiddle⟩ := ih
    obtain ⟨depth'', hdepth'', result'', hresult⟩ := hparent hmiddle hlast
    exact ⟨depth'', hdepth''.trans hdepth', result'', hresult⟩

/-- A section that resolves is not among its ancestors. -/
theorem Resolves.acyclic (h : Resolves lookup child result) :
    ¬ TransGen (Parent lookup) child child := by
  intro hcycle
  obtain ⟨depth, h⟩ := h
  induction depth using Nat.strong_induction_on generalizing result with
  | _ depth ih =>
    obtain ⟨depth', hdepth', result', h'⟩ := resolvedWithin_ancestor h hcycle
    exact ih depth' hdepth' h'

/-! ## What a section is made of -/

theorem inherit_eq_ok {parent : RawSection} :
    inherit child parent before = .ok after ↔ ∃ kind, resolvedTemplateKind parent = .ok kind
      ∧ (before.kind = some kind ∨ before.kind = none ∧ value child "type" = none)
      ∧ after = ⟨some kind, mergeValues before.values parent.values kind⟩ := by
  unfold inherit
  obtain ⟨known, values⟩ := before
  cases hkind : resolvedTemplateKind parent with
  | error e => simp
  | ok kind =>
    cases known with
    | none => cases value child "type" <;> simp [eq_comm]
    | some known =>
      by_cases hsame : known = kind
      · subst hsame
        simp [eq_comm]
      · simp [hsame]

theorem Inherits.madeOf (h : Inherits lookup child before names after)
    (contributors : List (List RawValue))
    (hbefore : ∀ kind, before.kind = none ∨ before.kind = some kind →
      MadeOf kind contributors before.values) :
    ∃ parents, List.Forall₂ (fun name parent => ∃ source, lookup name = some source
        ∧ Resolves lookup source parent) names parents ∧ (names ≠ [] → after.kind ≠ none)
      ∧ (∀ kind, before.kind = some kind → after.kind = some kind)
      ∧ ∀ kind, after.kind = none ∨ after.kind = some kind →
          (∀ parent ∈ parents, resolvedTemplateKind parent = .ok kind)
          ∧ MadeOf kind (contributors ++ parents.map (·.values)) after.values := by
  induction names generalizing before contributors with
  | nil =>
    obtain rfl := inherits_nil.mp h
    refine ⟨[], .nil, fun h => absurd rfl h, fun _ h => h, fun kind hkind => ⟨nofun, ?_⟩⟩
    rw [List.map_nil, List.append_nil]
    exact hbefore kind hkind
  | cons name names ih =>
    obtain ⟨source, parent, next, hsource, -, hparent, hinherit, hrest⟩ := Iff.mp inherits_cons h
    obtain ⟨first, hfirst, hknown, rfl⟩ := inherit_eq_ok.mp hinherit
    have hnext : ∀ kind, some first = none ∨ some first = some kind →
        MadeOf kind (contributors ++ [parent.values])
          (mergeValues before.values parent.values first) := by
      rintro kind (h | h)
      · cases h
      · obtain rfl := Option.some.inj h
        exact (hbefore first (hknown.symm.imp (·.1) id)).merge _
    obtain ⟨parents, hparents, -, hkept, hmade⟩ := ih hrest _ hnext
    have hafter : after.kind = some first := hkept first rfl
    refine ⟨parent :: parents, .cons ⟨source, hsource, hparent⟩ hparents, fun _ => ?_,
      fun kind hkind => ?_, fun kind hkind => ?_⟩
    · rw [hafter]
      exact Option.some_ne_none first
    · rcases hknown with hknown | ⟨hknown, -⟩
      · rw [hafter, ← hknown, hkind]
      · rw [hknown] at hkind
        cases hkind
    obtain ⟨hkinds, hvalues⟩ := hmade kind hkind
    have hfirst' : first = kind := by
      rw [hafter] at hkind
      exact Option.some.inj (hkind.resolve_left (Option.some_ne_none first))
    rw [List.append_assoc] at hvalues
    refine ⟨fun other hother => ?_, hvalues⟩
    rcases List.mem_cons.mp hother with rfl | hother
    · rw [hfirst, hfirst']
    · exact hkinds other hother

/-- A section with its parents, which are all of one kind, and the values they contribute. -/
structure Composed (lookup : String → Option RawSection) (resolve : RawSection → RawSection → Prop)
    (child result : RawSection) : Prop where
  rest : result = { child with values := result.values }
  values : ∃ kind parents,
    List.Forall₂ (fun name parent => ∃ source, lookup name = some source ∧ resolve source parent)
      child.parents parents ∧ (∀ parent ∈ parents, resolvedTemplateKind parent = .ok kind)
    ∧ MadeOf kind (parents.map (·.values) ++ [child.values]) result.values

theorem Resolves.composed (h : Resolves lookup child result) :
    Composed lookup (Resolves lookup) child result := by
  obtain ⟨inherited, hinherits, hfinish⟩ := resolves_iff.mp h
  have hresult : result = { child with values :=
      if child.parents = [] then child.values
      else (inherited.kind.elim child.values (mergeValues inherited.values child.values)) } := by
    unfold finish at hfinish
    dsimp only at hfinish
    split at hfinish
    · split at hfinish
      · rw [← Except.ok.inj hfinish]
        cases inherited.kind <;> rfl
      · cases hfinish
    · rw [← Except.ok.inj hfinish]
      cases inherited.kind <;> rfl
  obtain ⟨parents, hparents, hsome, -, hmade⟩ := hinherits.madeOf [] fun _ _ => madeOf_nil
  refine ⟨by rw [hresult], ?_⟩
  rw [hresult]
  by_cases hnone : child.parents = []
  · rw [hnone] at hparents
    cases hparents
    rw [if_pos hnone, hnone]
    exact ⟨.device, [], .nil, List.forall_mem_nil _, madeOf_single _⟩
  obtain ⟨kind, hkind⟩ := Option.ne_none_iff_exists'.mp (hsome hnone)
  obtain ⟨hkinds, hvalues⟩ := hmade kind (.inr hkind)
  rw [if_neg hnone, hkind]
  exact ⟨kind, parents, hparents, hkinds, hvalues.merge _⟩

end Resolves

/-! ## Names -/

/-- Names are told apart without regard to case. -/
def Distinct (sections : List RawSection) : Prop :=
  (sections.map fun s => toAsciiLowercase s.name).Nodup

variable {sections : List RawSection}

theorem Distinct.unique (hdistinct : Distinct sections) {a b : RawSection} (ha : a ∈ sections)
    (hb : b ∈ sections) (h : toAsciiLowercase a.name = toAsciiLowercase b.name) : a = b :=
  List.inj_on_of_nodup_map hdistinct ha hb h

theorem find_eq_some (hdistinct : Distinct sections) {name : String} {found : RawSection} :
    find sections name = some found
      ↔ found ∈ sections ∧ toAsciiLowercase found.name = toAsciiLowercase name := by
  constructor
  · intro h
    exact ⟨List.mem_of_find?_eq_some h, by simpa using List.find?_some h⟩
  rintro ⟨hmem, hname⟩
  cases h : find sections name with
  | none =>
    have hne := List.find?_eq_none.mp h found hmem
    rw [hname] at hne
    simp at hne
  | some other =>
    have hother : toAsciiLowercase other.name = toAsciiLowercase name := by
      simpa using List.find?_some h
    rw [hdistinct.unique (List.mem_of_find?_eq_some h) hmem (hother.trans hname.symm)]

theorem find_eq_none {name : String} : find sections name = none
    ↔ ∀ s ∈ sections, toAsciiLowercase s.name ≠ toAsciiLowercase name := by
  unfold find
  rw [List.find?_eq_none]
  simp

/-- The table has the place of each of the sections read so far. -/
theorem get?_foldl_zipIdx (hdistinct : Distinct sections) (start : Nat) (t : Table String Nat)
    (key : String) : ((sections.zipIdx start).foldl (fun indexes entry =>
        indexes.insert (toAsciiLowercase entry.1.name) entry.2) t).get? key
      = if ∃ s ∈ sections, toAsciiLowercase s.name = key then
          some (start + sections.findIdx fun s => toAsciiLowercase s.name = key)
        else t.get? key := by
  induction sections generalizing start t with
  | nil => simp
  | cons first rest ih =>
    have hrest : Distinct rest := (List.nodup_cons.mp hdistinct).2
    have hfirst : ∀ s ∈ rest, toAsciiLowercase s.name ≠ toAsciiLowercase first.name :=
      fun s hs heq => (List.nodup_cons.mp hdistinct).1 (List.mem_map.mpr ⟨s, hs, heq⟩)
    rw [List.zipIdx_cons, List.foldl_cons, ih hrest]
    by_cases hkey : toAsciiLowercase first.name = key
    · subst hkey
      rw [if_neg (fun ⟨s, hs, heq⟩ => hfirst s hs heq), if_pos ⟨first, List.mem_cons_self, rfl⟩,
        Table.get?_insert, if_pos rfl, List.findIdx_cons]
      simp
    have hiff : (∃ s ∈ first :: rest, toAsciiLowercase s.name = key)
        ↔ ∃ s ∈ rest, toAsciiLowercase s.name = key := by simp [hkey]
    rw [if_congr hiff rfl rfl, Table.get?_insert, if_neg (Ne.symm hkey), List.findIdx_cons]
    simp only [hkey, decide_false, cond_false]
    congr 2
    omega

theorem get?_indexesOf (hdistinct : Distinct sections) (name : String) :
    (find sections name = none → (indexesOf sections).get? (toAsciiLowercase name) = none)
    ∧ ∀ found, find sections name = some found → ∃ index,
        (indexesOf sections).get? (toAsciiLowercase name) = some index
          ∧ sections[index]? = some found := by
  unfold indexesOf
  rw [get?_foldl_zipIdx hdistinct]
  constructor
  · intro h
    rw [if_neg fun ⟨s, hs, heq⟩ => find_eq_none.mp h s hs heq]
    rfl
  intro found h
  obtain ⟨hmem, hname⟩ := (find_eq_some hdistinct).mp h
  have hexists : ∃ s ∈ sections, toAsciiLowercase s.name = toAsciiLowercase name :=
    ⟨found, hmem, hname⟩
  rw [if_pos hexists, Nat.zero_add]
  have hlt : (sections.findIdx fun s => toAsciiLowercase s.name = toAsciiLowercase name)
      < sections.length := List.findIdx_lt_length_of_exists (by simpa using hexists)
  refine ⟨_, rfl, ?_⟩
  rw [List.getElem?_eq_getElem hlt]
  have hat := List.findIdx_getElem (w := hlt)
  rw [hdistinct.unique (List.getElem_mem hlt) hmem ((of_decide_eq_true hat).trans hname.symm)]

/-! ## The search -/

namespace Search

def unvisited (search : Search) : Nat :=
  search.states.countP fun state => state ≠ 1 ∧ state ≠ 2

/-- The marks of the sections agree with the stack and with what they resolve to. -/
structure Sound (sections : List RawSection) (search : Search) : Prop where
  states : search.states.length = sections.length
  resolved : search.resolved.length = sections.length
  opened : ∀ index, search.states[index]? = some 1 ↔ index ∈ search.stack
  done : ∀ (index : Nat) (s : RawSection), sections[index]? = some s → search.states[index]?
    = some 2 →
    ∃ result, search.resolved[index]? = some (some result) ∧ Resolves (find sections) s result

/-- What a part of the search leaves: nothing that was resolved is lost. -/
structure Advances (sections : List RawSection) (search search' : Search) : Prop where
  sound : Sound sections search'
  stack : search'.stack = search.stack
  unvisited : search'.unvisited ≤ search.unvisited
  kept : ∀ index : Nat, search.states[index]? = some 2 → search'.states[index]? = some 2

theorem Advances.trans {a b c : Search} (hab : Advances sections a b)
    (hbc : Advances sections b c) : Advances sections a c :=
  ⟨hbc.sound, hbc.stack.trans hab.stack, hbc.unvisited.trans hab.unvisited,
    fun index h => hbc.kept index (hab.kept index h)⟩

/-- A section is put on the stack. -/
def opening (search : Search) (index : Nat) : Search :=
  { search with states := search.states.set index 1, stack := search.stack ++ [index] }

/-- The section on top of the stack has been resolved. -/
def closing (search : Search) (index : Nat) (result : RawSection) : Search where
  states := search.states.set index 2
  resolved := search.resolved.set index (some result)
  stack := search.stack.dropLast

theorem Sound.opening {search : Search} (h : Sound sections search) {index : Nat}
    (hlt : index < sections.length) : Sound sections (search.opening index) where
  states := (List.length_set ..).trans h.states
  resolved := h.resolved
  opened other := by
    show (search.states.set index 1)[other]? = some 1 ↔ other ∈ search.stack ++ [index]
    rw [List.getElem?_set, List.mem_append, List.mem_singleton]
    by_cases heq : index = other
    · rw [if_pos heq, if_pos (by rw [h.states]; omega)]
      simp [heq]
    · rw [if_neg heq, h.opened]
      simp [Ne.symm heq]
  done other s hs hstate := by
    have hstate : (search.states.set index 1)[other]? = some 2 := hstate
    rw [List.getElem?_set] at hstate
    split at hstate
    · split at hstate <;> simp at hstate
    · exact h.done other s hs hstate

theorem unvisited_opening {search : Search} {index state : Nat}
    (hstate : search.states[index]? = some state) (hopen : state ≠ 1) (hdone : state ≠ 2) :
    (search.opening index).unvisited + 1 = search.unvisited := by
  obtain ⟨hlt, heq⟩ := List.getElem?_eq_some_iff.mp hstate
  show (search.states.set index 1).countP _ + 1 = search.states.countP _
  have hpos : 0 < search.states.countP fun state => state ≠ 1 ∧ state ≠ 2 :=
    List.countP_pos_iff.mpr ⟨state, heq ▸ List.getElem_mem hlt, by simp [hopen, hdone]⟩
  rw [List.countP_set hlt, heq]
  simp only [hopen, hdone, ne_eq, not_false_eq_true, and_self, decide_true, if_true,
    not_true_eq_false, false_and, decide_false, Bool.false_eq_true, if_false]
  simp only [ne_eq] at hpos ⊢
  omega

/-- A section that was put on the stack is resolved when its parents are. -/
theorem Sound.closing {before search : Search} {index : Nat} {s result : RawSection}
    (hs : sections[index]? = some s) (hstate : before.states[index]? ≠ some 2)
    (hnot : index ∉ before.stack) (h : Advances sections (before.opening index) search)
    (hresult : Resolves (find sections) s result)
    (hless : (before.opening index).unvisited + 1 = before.unvisited) :
    Advances sections before (search.closing index result) where
  sound :=
    { states := (List.length_set ..).trans h.sound.states
      resolved := (List.length_set ..).trans h.sound.resolved
      opened := fun other => by
        show (search.states.set index 2)[other]? = some 1 ↔ other ∈ search.stack.dropLast
        have hstack : search.stack = before.stack ++ [index] := h.stack
        rw [hstack, List.dropLast_concat, List.getElem?_set]
        split
        · next heq =>
          subst heq
          simp only [hnot, iff_false]
          split <;> simp
        · next hne =>
          rw [h.sound.opened, hstack]
          simp [Ne.symm hne]
      done := fun other s' hs' hdone => by
        have hdone : (search.states.set index 2)[other]? = some 2 := hdone
        show ∃ result', (search.resolved.set index (some result))[other]? = some (some result') ∧ _
        rw [List.getElem?_set] at hdone ⊢
        split
        · next heq =>
          subst heq
          obtain rfl := Option.mem_unique hs hs'
          have hlt : index < search.resolved.length := by
            rw [h.sound.resolved]
            exact (List.getElem?_eq_some_iff.mp hs).1
          exact ⟨result, if_pos hlt, hresult⟩
        · next hne =>
          rw [if_neg hne] at hdone
          exact h.sound.done other s' hs' hdone }
  stack := by
    show search.stack.dropLast = before.stack
    rw [h.stack]
    exact List.dropLast_concat
  unvisited := by
    refine Nat.le_trans ?_ (h.unvisited.trans (by omega))
    show (search.states.set index 2).countP _ ≤ search.states.countP _
    have hlt : index < search.states.length := by
      rw [h.sound.states]
      exact (List.getElem?_eq_some_iff.mp hs).1
    rw [List.countP_set hlt]
    simp
  kept other hother := by
    show (search.states.set index 2)[other]? = some 2
    have hne : index ≠ other := fun heq => hstate (heq ▸ hother)
    rw [List.getElem?_set, if_neg hne]
    refine h.kept other ?_
    show (before.states.set index 1)[other]? = some 2
    rw [List.getElem?_set, if_neg hne]
    exact hother

end Search

def Cyclic (sections : List RawSection) : Prop :=
  ∃ s ∈ sections, TransGen (Parent (find sections)) s s

/-- The section at one place has the one at the other for a parent. -/
def Edge (sections : List RawSection) (i j : Nat) : Prop :=
  ∃ child parent, sections[i]? = some child ∧ sections[j]? = some parent
    ∧ Parent (find sections) child parent

theorem parent_of_edge {i j : Nat} (h : TransGen (Edge sections) i j) {child : RawSection}
    (hchild : sections[i]? = some child) : ∃ ancestor, sections[j]? = some ancestor
      ∧ TransGen (Parent (find sections)) child ancestor := by
  induction h with
  | single hfirst =>
    obtain ⟨child', parent, hchild', hparent, hedge⟩ := hfirst
    obtain rfl := Option.mem_unique hchild hchild'
    exact ⟨parent, hparent, .single hedge⟩
  | tail _ hlast ih =>
    obtain ⟨middle, hmiddle, hpath⟩ := ih
    obtain ⟨middle', parent, hmiddle', hparent, hedge⟩ := hlast
    obtain rfl := Option.mem_unique hmiddle hmiddle'
    exact ⟨parent, hparent, hpath.tail hedge⟩

/-- A section on the stack that is found again reaches itself. -/
theorem selfReaching_of_mem {stack : List Nat} {index : Nat} {s : RawSection}
    (hchain : (stack ++ [index]).IsChain (Edge sections)) (hmem : index ∈ stack)
    (hs : sections[index]? = some s) : TransGen (Parent (find sections)) s s := by
  have hpairwise : (stack ++ [index]).Pairwise (TransGen (Edge sections)) :=
    List.isChain_iff_pairwise.mp (hchain.imp fun _ _ h => .single h)
  have hedge := (List.pairwise_append.mp hpairwise).2.2 index hmem index List.mem_cons_self
  obtain ⟨s', hs', hpath⟩ := parent_of_edge hedge hs
  obtain rfl := Option.mem_unique hs hs'
  exact hpath

/-- What a part of the search comes to: an error is a cycle only if there is one, and it is
    given only where something is in the way. -/
def Settles {α : Type} (sections : List RawSection) (search : Search) (found : α → Search → Prop)
    (blocked : Prop) : Option (Except ConfigError (α × Search)) → Prop
  | none => False
  | some (.error e) => ((∃ path, e = .inheritanceCycle path) → Cyclic sections) ∧ blocked
  | some (.ok (a, search')) => Search.Advances sections search search' ∧ found a search'

/-- The section at a place settles, as long as so many sections at most are not visited and
    the stack leads to it. -/
def Resolver (sections : List RawSection) (bound : Nat)
    (resolve : Nat → Search → Option (Except ConfigError (RawSection × Search))) : Prop :=
  ∀ (index : Nat) (s : RawSection) (search : Search), sections[index]? = some s →
    Search.Sound sections search → search.unvisited < bound →
    (search.stack ++ [index]).IsChain (Edge sections) → Settles sections search
      (fun result search' => search'.states[index]? = some 2 ∧ Resolves (find sections) s result)
      (∀ result, ¬ Resolves (find sections) s result) (resolve index search)

theorem resolvedTemplateKind_error {s : RawSection} {e : ConfigError}
    (h : resolvedTemplateKind s = .error e) : ¬ ∃ path, e = .inheritanceCycle path := by
  unfold resolvedTemplateKind at h
  dsimp only at h
  split at h
  · cases h
  · cases h
    nofun

theorem inherit_error {child parent : RawSection} {before : Inherited} {e : ConfigError}
    (h : inherit child parent before = .error e) : ¬ ∃ path, e = .inheritanceCycle path := by
  unfold inherit at h
  split at h
  · next hkind =>
    cases h
    exact resolvedTemplateKind_error hkind
  split at h
  · split at h
    · cases h
      nofun
    · cases h
  · split at h
    · cases h
      nofun
    · cases h

theorem finish_error {child : RawSection} {inherited : Inherited} {e : ConfigError}
    (h : finish child inherited = .error e) : ¬ ∃ path, e = .inheritanceCycle path := by
  unfold finish at h
  dsimp only at h
  split at h
  · split at h
    · cases h
    · next hkind =>
      cases h
      exact resolvedTemplateKind_error hkind
  · cases h

/-- The loop over the parents settles if the search for each of them does. -/
theorem inheritParents_spec (hdistinct : Distinct sections) {bound : Nat}
    {resolve : Nat → Search → Option (Except ConfigError (RawSection × Search))}
    (hresolve : Resolver sections bound resolve) {index : Nat} {s : RawSection}
    (hs : sections[index]? = some s) {names : List String}
      (hnames : ∀ name ∈ names, name ∈ s.parents)
    {before : Inherited} {search : Search} (hsound : search.Sound sections)
    (hbound : search.unvisited < bound) (hchain : search.stack.IsChain (Edge sections))
    (htop : search.stack.getLast? = some index) :
    Settles sections search (fun after _ => Inherits (find sections) s before names after)
      (∀ after, ¬ Inherits (find sections) s before names after)
      (inheritParents sections (indexesOf sections) resolve s names before search) := by
  induction names generalizing before search with
  | nil =>
    exact ⟨⟨hsound, rfl, Nat.le_refl _, fun _ h => h⟩, inherits_nil.mpr rfl⟩
  | cons name names ih =>
    unfold inheritParents
    obtain ⟨hmissing, hfound⟩ := get?_indexesOf hdistinct name
    cases hfind : find sections name with
    | none =>
      rw [hmissing hfind]
      refine ⟨nofun, fun after hinherits => ?_⟩
      obtain ⟨source, _, _, hsource, -⟩ := Iff.mp inherits_cons hinherits
      cases hfind.symm.trans hsource
    | some source =>
      obtain ⟨parentIndex, hindex, hsource⟩ := hfound source hfind
      rw [hindex]
      dsimp only
      rw [hsource]
      dsimp only
      split
      · next htemplate =>
        refine ⟨nofun, fun after hinherits => ?_⟩
        obtain ⟨source', _, _, hsource', htemplate', -⟩ := Iff.mp inherits_cons hinherits
        obtain rfl := Option.mem_unique hfind hsource'
        exact htemplate htemplate'
      next htemplate =>
      have hedge : Edge sections index parentIndex :=
        ⟨s, source, hs, hsource, name, hnames name List.mem_cons_self, hfind⟩
      have hvisit := hresolve parentIndex source search hsource hsound hbound
        (hchain.append (.singleton _) fun i hi j hj => by
          rw [htop] at hi
          cases hi
          cases hj
          exact hedge)
      -- What the parents are does not change what the first of them resolves to.
      have hfirst : ∀ after, Inherits (find sections) s before (name :: names) after →
          ∃ parent next, Resolves (find sections) source parent ∧ inherit s parent before = .ok next
            ∧ Inherits (find sections) s next names after := by
        intro after hinherits
        obtain ⟨source', parent, next, hsource', -, hparent, hnext, hrest⟩ :=
          Iff.mp inherits_cons hinherits
        obtain rfl := Option.mem_unique hfind hsource'
        exact ⟨parent, next, hparent, hnext, hrest⟩
      rcases hanswer : resolve parentIndex search with _ | (e | ⟨parent, search'⟩)
      · rw [hanswer] at hvisit
        exact hvisit.elim
      · rw [hanswer] at hvisit
        refine ⟨hvisit.1, fun after hinherits => ?_⟩
        obtain ⟨parent, _, hparent, -⟩ := hfirst after hinherits
        exact hvisit.2 parent hparent
      rw [hanswer] at hvisit
      have hadvances : Search.Advances sections search search' := hvisit.1
      have hparent : Resolves (find sections) source parent := hvisit.2.2
      dsimp only
      cases hinherit : inherit s parent before with
      | error e =>
        refine ⟨fun hcycle => absurd hcycle (inherit_error hinherit), fun after hinherits => ?_⟩
        obtain ⟨parent', next, hparent', hnext, -⟩ := hfirst after hinherits
        rw [hparent.unique hparent', hnext] at hinherit
        cases hinherit
      | ok next =>
        have hrest : Settles sections search'
            (fun after _ => Inherits (find sections) s next names after)
            (∀ after, ¬ Inherits (find sections) s next names after)
            (inheritParents sections (indexesOf sections) resolve s names next search') :=
          ih (fun name hname => hnames name (List.mem_cons_of_mem _ hname)) hadvances.sound
            (hadvances.unvisited.trans_lt hbound) (by rw [hadvances.stack]; exact hchain)
            (by rw [hadvances.stack]; exact htop)
        dsimp only
        rcases hanswer' : inheritParents sections (indexesOf sections) resolve s names next
          search' with _ | (e | ⟨after, search''⟩)
        · rw [hanswer'] at hrest
          exact hrest.elim
        · rw [hanswer'] at hrest
          refine ⟨hrest.1, fun after hinherits => ?_⟩
          obtain ⟨parent', next', hparent', hnext, hinherits'⟩ := hfirst after hinherits
          rw [← hparent.unique hparent', hinherit] at hnext
          cases hnext
          exact hrest.2 after hinherits'
        · rw [hanswer'] at hrest
          exact ⟨hadvances.trans hrest.1, Iff.mpr inherits_cons ⟨source, parent, next, hfind,
            by simpa using htemplate, hparent, hinherit, hrest.2⟩⟩

/-- Every generation puts a section on the stack, so that more fuel than there are sections to
    visit is enough. -/
theorem resolveSection_spec (hdistinct : Distinct sections) (fuel : Nat) :
    Resolver sections fuel (resolveSection sections (indexesOf sections) fuel) := by
  induction fuel with
  | zero => exact fun _ _ _ _ _ hbound => absurd hbound (Nat.not_lt_zero _)
  | succ fuel ih =>
    intro index s search hs hsound hbound hchain
    have hlt : index < sections.length := (List.getElem?_eq_some_iff.mp hs).1
    unfold resolveSection
    rw [hs]
    dsimp only
    by_cases hdone : search.states[index]? = some 2
    · rw [if_pos hdone]
      obtain ⟨result, hresult, hresolves⟩ := hsound.done index s hs hdone
      rw [hresult]
      exact ⟨⟨hsound, rfl, Nat.le_refl _, fun _ h => h⟩, hdone, hresolves⟩
    rw [if_neg hdone]
    by_cases hopen : search.states[index]? = some 1
    · rw [if_pos hopen]
      have hself := selfReaching_of_mem hchain ((hsound.opened index).mp hopen) hs
      exact ⟨fun _ => ⟨s, List.mem_of_getElem? hs, hself⟩,
        fun result hresolves => hresolves.acyclic hself⟩
    rw [if_neg hopen]
    have hnot : index ∉ search.stack := fun hmem => hopen ((hsound.opened index).mpr hmem)
    obtain ⟨state, hstate⟩ : ∃ state, search.states[index]? = some state :=
      ⟨_, List.getElem?_eq_getElem (hsound.states ▸ hlt)⟩
    have hless := Search.unvisited_opening hstate (fun h => hopen (h ▸ hstate))
      (fun h => hdone (h ▸ hstate))
    have hloop : Settles sections (search.opening index)
        (fun after _ => Inherits (find sections) s (ownKind s) s.parents after)
        (∀ after, ¬ Inherits (find sections) s (ownKind s) s.parents after)
        (inheritParents sections (indexesOf sections)
          (resolveSection sections (indexesOf sections) fuel) s s.parents (ownKind s)
          (search.opening index)) :=
      inheritParents_spec hdistinct ih hs (fun _ h => h) (hsound.opening hlt) (by omega) hchain
        List.getLast?_concat
    unfold Search.opening at hloop
    rcases hanswer : inheritParents sections (indexesOf sections)
      (resolveSection sections (indexesOf sections) fuel) s s.parents (ownKind s)
      { search with
        states := search.states.set index 1
        stack := search.stack ++ [index] } with _ | (e | ⟨inherited, search'⟩)
    · rw [hanswer] at hloop
      exact hloop.elim
    · rw [hanswer] at hloop
      refine ⟨hloop.1, fun result hresolves => ?_⟩
      obtain ⟨inherited, hinherits, -⟩ := resolves_iff.mp hresolves
      exact hloop.2 inherited hinherits
    rw [hanswer] at hloop
    have hadvances : Search.Advances sections (search.opening index) search' := hloop.1
    have hinherits : Inherits (find sections) s (ownKind s) s.parents inherited := hloop.2
    dsimp only
    cases hfinish : finish s inherited with
    | error e =>
      refine ⟨fun hcycle => absurd hcycle (finish_error hfinish), fun result hresolves => ?_⟩
      obtain ⟨inherited', hinherits', hfinish'⟩ := resolves_iff.mp hresolves
      rw [hinherits.unique hinherits', hfinish'] at hfinish
      cases hfinish
    | ok result =>
      have hresolves := resolves_iff.mpr ⟨inherited, hinherits, hfinish⟩
      refine ⟨Search.Sound.closing hs hdone hnot hadvances hresolves hless, ?_, hresolves⟩
      show (search'.states.set index 2)[index]? = some 2
      rw [List.getElem?_set_self (by rw [hadvances.sound.states]; exact hlt)]

/-- The sections are resolved one after another, as long as all of them resolve. -/
theorem resolveAll_spec (hdistinct : Distinct sections) (indices : List Nat)
    (hindices : ∀ index ∈ indices, index < sections.length) {search : Search}
    (hsound : search.Sound sections) (hstack : search.stack = []) :
    (∃ e, resolveAll sections (indexesOf sections) (sections.length + 1) indices search
        = some (.error e) ∧ ((∃ path, e = .inheritanceCycle path) → Cyclic sections)
      ∧ ∃ s ∈ sections, ∀ result, ¬ Resolves (find sections) s result)
    ∨ ∃ search', resolveAll sections (indexesOf sections) (sections.length + 1) indices search
        = some (.ok search') ∧ Search.Advances sections search search'
      ∧ ∀ index ∈ indices, search'.states[index]? = some 2 := by
  induction indices generalizing search with
  | nil => exact .inr ⟨search, rfl, ⟨hsound, rfl, Nat.le_refl _, fun _ h => h⟩, nofun⟩
  | cons index rest ih =>
    have hlt := hindices index List.mem_cons_self
    have hs : sections[index]? = some sections[index] := List.getElem?_eq_getElem hlt
    have hbound : search.unvisited < sections.length + 1 :=
      Nat.lt_succ_of_le (hsound.states ▸ List.countP_le_length)
    have hfirst : Settles sections search (fun result search' => search'.states[index]? = some 2
          ∧ Resolves (find sections) sections[index] result)
        (∀ result, ¬ Resolves (find sections) sections[index] result)
        (resolveSection sections (indexesOf sections) (sections.length + 1) index search) :=
      resolveSection_spec hdistinct _ index _ search hs hsound hbound (by
        rw [hstack]
        exact .singleton _)
    rw [resolveAll]
    rcases hanswer : resolveSection sections (indexesOf sections) (sections.length + 1) index
      search with _ | (e | ⟨result, search'⟩)
    · rw [hanswer] at hfirst
      exact hfirst.elim
    · rw [hanswer] at hfirst
      exact .inl ⟨e, rfl, hfirst.1, sections[index], List.getElem_mem hlt, hfirst.2⟩
    rw [hanswer] at hfirst
    have hadvances : Search.Advances sections search search' := hfirst.1
    have hvisited : search'.states[index]? = some 2 := hfirst.2.1
    dsimp only
    rcases ih (fun index hindex => hindices index (List.mem_cons_of_mem _ hindex))
        hadvances.sound (hadvances.stack.trans hstack)
      with hfails | ⟨search'', hrest, hadvances', hdone⟩
    · exact .inl hfails
    refine .inr ⟨search'', hrest, hadvances.trans hadvances', fun other hother => ?_⟩
    rcases List.mem_cons.mp hother with rfl | hother
    · exact hadvances'.kept other hvisited
    · exact hdone other hother

/-! ## The whole file -/

def initial (sections : List RawSection) : Search where
  states := List.replicate sections.length 0
  resolved := List.replicate sections.length none
  stack := []

theorem sound_initial (sections : List RawSection) : (initial sections).Sound sections where
  states := List.length_replicate
  resolved := List.length_replicate
  opened index := by
    show (List.replicate sections.length 0)[index]? = some 1 ↔ index ∈ []
    rw [List.getElem?_replicate]
    split <;> simp
  done index s _ hstate := by
    have hstate : (List.replicate sections.length 0)[index]? = some 2 := hstate
    rw [List.getElem?_replicate] at hstate
    split at hstate <;> simp at hstate

def regular (sections : List RawSection) : List RawSection :=
  sections.filter fun s => ¬ s.isTemplate

/-- The sections that are not templates come with what is kept at their places. -/
theorem filterMap_zipIdx (resolve : RawSection → RawSection) (kept : List (Option RawSection))
    (start : Nat) (hkept : ∀ (index : Nat) (s : RawSection), sections[index]? = some s →
      kept[start + index]? = some (some (resolve s))) :
    ((sections.zipIdx start).filter fun entry => ¬ entry.1.isTemplate).filterMap
        (fun entry => (kept[entry.2]?).join) = (regular sections).map resolve := by
  unfold regular
  induction sections generalizing start with
  | nil => rfl
  | cons first rest ih =>
    have hrest := ih (start + 1) fun index s hs => by
      rw [Nat.add_right_comm, Nat.add_assoc]
      exact hkept (index + 1) s hs
    have hfirst := hkept 0 first rfl
    rw [Nat.add_zero] at hfirst
    rw [List.zipIdx_cons]
    by_cases htemplate : first.isTemplate
    · rw [List.filter_cons_of_neg (by simpa using htemplate),
        List.filter_cons_of_neg (by simpa using htemplate), hrest]
    rw [List.filter_cons_of_pos (by simpa using htemplate),
      List.filter_cons_of_pos (by simpa using htemplate), List.map_cons, List.filterMap_cons,
      hfirst]
    exact congrArg _ hrest

theorem resolveInheritance_eq (sections : List RawSection) : resolveInheritance sections
    = match resolveAll sections (indexesOf sections) (sections.length + 1)
        (List.range sections.length) (initial sections) with
      | none => none
      | some (.error e) => some (.error e)
      | some (.ok search) =>
        some (.ok ((sections.zipIdx.filter fun entry => ¬ entry.1.isTemplate).filterMap
          fun entry => (search.resolved[entry.2]?).join)) := rfl

/-- The file resolves just when every section does, to what each of them resolves to. -/
theorem resolveInheritance_cases (hdistinct : Distinct sections) :
    (∃ e, resolveInheritance sections = some (.error e)
      ∧ ((∃ path, e = .inheritanceCycle path) → Cyclic sections)
      ∧ ∃ s ∈ sections, ∀ result, ¬ Resolves (find sections) s result)
    ∨ ∀ resolve : RawSection → RawSection,
        (∀ s ∈ sections, ∀ result, Resolves (find sections) s result → resolve s = result) →
        resolveInheritance sections = some (.ok ((regular sections).map resolve))
          ∧ ∀ s ∈ sections, Resolves (find sections) s (resolve s) := by
  have hcases := resolveAll_spec hdistinct (List.range sections.length)
    (fun index hindex => List.mem_range.mp hindex) (sound_initial sections) rfl
  rw [resolveInheritance_eq]
  rcases hcases with ⟨e, heq, hcycle, hstuck⟩ | ⟨search, heq, hadvances, hdone⟩
  · rw [heq]
    exact .inl ⟨e, rfl, hcycle, hstuck⟩
  rw [heq]
  refine .inr fun resolve hresolve => ?_
  have hat : ∀ (index : Nat) (s : RawSection), sections[index]? = some s →
      search.resolved[index]? = some (some (resolve s))
        ∧ Resolves (find sections) s (resolve s) := by
    intro index s hs
    have hlt : index < sections.length := (List.getElem?_eq_some_iff.mp hs).1
    obtain ⟨result, hkept, hresolves⟩ := hadvances.sound.done index s hs
      (hdone index (List.mem_range.mpr hlt))
    rw [hresolve s (List.mem_of_getElem? hs) result hresolves]
    exact ⟨hkept, hresolves⟩
  have hresults := filterMap_zipIdx resolve search.resolved 0 fun index s hs => by
    rw [Nat.zero_add]
    exact (hat index s hs).1
  refine ⟨congrArg (fun results => some (Except.ok results)) hresults, fun s hs => ?_⟩
  obtain ⟨index, hindex⟩ := List.mem_iff_getElem?.mp hs
  exact (hat index s hindex).2

/-- The result of each section of a file that resolves. -/
theorem exists_resolve (sections : List RawSection) : ∃ resolve : RawSection → RawSection,
    ∀ s result, Resolves (find sections) s result → resolve s = result := by
  classical
  refine ⟨fun s => if h : ∃ result, Resolves (find sections) s result then h.choose else s,
    fun s result hresult => ?_⟩
  have h : ∃ result, Resolves (find sections) s result := ⟨result, hresult⟩
  dsimp only
  rw [dif_pos h]
  exact h.choose_spec.unique hresult

theorem resolveInheritance_eq_ok (hdistinct : Distinct sections) {results : List RawSection}
    (h : resolveInheritance sections = some (.ok results)) {resolve : RawSection → RawSection}
    (hresolve : ∀ s result, Resolves (find sections) s result → resolve s = result) :
    results = (regular sections).map resolve
      ∧ ∀ s ∈ sections, Resolves (find sections) s (resolve s) := by
  rcases resolveInheritance_cases hdistinct with ⟨e, herror, -⟩ | hok
  · rw [h] at herror
    cases herror
  obtain ⟨heq, hall⟩ := hok resolve fun s _ => hresolve s
  rw [h] at heq
  cases heq
  exact ⟨rfl, hall⟩

/-- What the ancestors of a section are found to be does not change in another file that has
    them. -/
theorem find_of_mem {sections' : List RawSection} (hdistinct : Distinct sections)
    (hdistinct' : Distinct sections') {child : RawSection}
    (hancestors : ∀ a, ReflTransGen (Parent (find sections)) child a → a ∈ sections')
    {a : RawSection} (ha : ReflTransGen (Parent (find sections)) child a) {name : String}
    (hname : name ∈ a.parents) {parent : RawSection} (hparent : find sections name = some parent) :
    find sections' name = some parent :=
  (find_eq_some hdistinct').mpr ⟨hancestors parent (ha.tail ⟨name, hname, hparent⟩),
    ((find_eq_some hdistinct).mp hparent).2⟩

/-- The search ends for every file, with a cycle only if some section is its own ancestor, and
    with results only if none is.  The results are those of the sections that are not templates,
    in order.  Each is made of the values of its parents, from left to right, and its own, and
    is the same in any other file that has the section and its ancestors.  The sections may be
    given in any order. -/
theorem resolveInheritance_outcome (sections : List RawSection) (hdistinct : Distinct sections) :
    ∃ outcome, resolveInheritance sections = some outcome
      ∧ (∀ path, outcome = .error (.inheritanceCycle path) →
          ∃ s ∈ sections, TransGen (Parent (find sections)) s s)
      ∧ ((∃ s ∈ sections, TransGen (Parent (find sections)) s s) → ∀ results, outcome ≠ .ok results)
      ∧ ∀ results, outcome = .ok results → ∃ resolve : RawSection → RawSection,
          results = (sections.filter fun s => ¬ s.isTemplate).map resolve
          ∧ (∀ s ∈ sections, Composed (find sections)
              (fun source parent => parent = resolve source) s (resolve s))
          ∧ (∀ sections', Distinct sections' →
              ∀ results', resolveInheritance sections' = some (.ok results') →
              ∃ resolve' : RawSection → RawSection,
                results' = (sections'.filter fun s => ¬ s.isTemplate).map resolve' ∧ ∀ s ∈ sections,
                    (∀ a, ReflTransGen (Parent (find sections)) s a → a ∈ sections') →
                    resolve' s = resolve s)
          ∧ ∀ sections', sections'.Perm sections → resolveInheritance sections'
              = some (.ok ((sections'.filter fun s => ¬ s.isTemplate).map resolve)) := by
  obtain ⟨resolve, hresolve⟩ := exists_resolve sections
  rcases resolveInheritance_cases hdistinct with ⟨e, heq, hcycle, -⟩ | hok
  · refine ⟨.error e, heq, fun path hpath => hcycle ⟨path, Except.error.inj hpath⟩,
      fun _ _ => nofun, fun _ => nofun⟩
  obtain ⟨heq, hall⟩ := hok resolve fun s _ => hresolve s
  refine ⟨_, heq, fun _ => nofun, fun ⟨s, hs, hcycle⟩ _ _ => (hall s hs).acyclic hcycle, ?_⟩
  intro results hresults
  cases hresults
  refine ⟨resolve, rfl, fun s hs => ?_, fun sections' hdistinct' results' hresults' => ?_,
    fun sections' hperm => ?_⟩
  · obtain ⟨hrest, kind, parents, hparents, hkinds, hvalues⟩ := (hall s hs).composed
    exact ⟨hrest, kind, parents, hparents.imp fun name parent ⟨source, hsource, hparent⟩ =>
      ⟨source, hsource, (hresolve source parent hparent).symm⟩, hkinds, hvalues⟩
  · obtain ⟨resolve', hresolve'⟩ := exists_resolve sections'
    refine ⟨resolve', (resolveInheritance_eq_ok hdistinct' hresults' hresolve').1,
      fun s hs hancestors => hresolve' s _ ((hall s hs).congr fun a ha name hname parent =>
        find_of_mem hdistinct hdistinct' hancestors ha hname)⟩
  have hdistinct' : Distinct sections' := (hperm.map _).nodup_iff.mpr hdistinct
  have hkept : ∀ {a b : List RawSection}, Distinct a → Distinct b → a.Perm b →
      ∀ s result, s ∈ a → Resolves (find a) s result → Resolves (find b) s result := by
    intro a b ha hb hab s result hs hresolves
    refine hresolves.congr fun ancestor hancestor name hname parent hparent => ?_
    obtain ⟨hmem, heq⟩ := (find_eq_some ha).mp hparent
    exact (find_eq_some hb).mpr ⟨hab.mem_iff.mp hmem, heq⟩
  rcases resolveInheritance_cases hdistinct' with ⟨e, -, -, s, hs, hstuck⟩ | hok'
  · exact absurd (hkept hdistinct hdistinct' hperm.symm s _ (hperm.mem_iff.mp hs)
      (hall s (hperm.mem_iff.mp hs))) (hstuck _)
  · exact (hok' resolve fun s hs result hresult => hresolve s result
      (hkept hdistinct' hdistinct hperm s result hs hresult)).1

/-! ## Sample file -/

namespace Sample

/-- A template, a template that inherits it, and a device that inherits both. -/
def inheritanceFile : List RawSection :=
  [ { name := "desk", line := 1, isTemplate := false, parents := ["Base", "office"]
      values := [⟨"allow", "g722", 2, "desk"⟩] },
    { name := "base", line := 3, isTemplate := true, parents := []
      values := [⟨"type", "device", 4, "base"⟩, ⟨"allow", "ulaw", 5, "base"⟩] },
    { name := "office", line := 6, isTemplate := true, parents := ["base"]
      values := [⟨"allow", "alaw", 7, "office"⟩] } ]

theorem inheritanceFile_distinct : Distinct inheritanceFile := by
  unfold Distinct inheritanceFile
  decide +kernel

end Sample

/-- The device has the values of `base`, those of `office` with what it inherits, and its own:
    `allow` adds up, and `type` stands where it was set last. -/
theorem resolveInheritance_outcome_of_file :
    ∃ outcome, resolveInheritance Sample.inheritanceFile = some outcome
      ∧ outcome = .ok [
        { name := "desk", line := 1, isTemplate := false, parents := ["Base", "office"]
          values := [⟨"allow", "ulaw", 5, "base"⟩, ⟨"type", "device", 4, "base"⟩,
            ⟨"allow", "ulaw", 5, "base"⟩, ⟨"allow", "alaw", 7, "office"⟩,
            ⟨"allow", "g722", 2, "desk"⟩] }] := by
  obtain ⟨outcome, houtcome, -⟩ :=
    resolveInheritance_outcome Sample.inheritanceFile Sample.inheritanceFile_distinct
  refine ⟨outcome, houtcome, Option.some.inj (houtcome.symm.trans ?_)⟩
  decide +kernel

end Sccp.Inheritance
