/-
  Sccp.Safety.Features

  Persistence of device feature state: what a save stores is what a load reads back, a save
  that fails has changed nothing, and reconciling the storage with a configuration does not
  change what is loaded under it.
-/

import Mathlib.Data.List.Dedup
import Sccp.State.Features

namespace Sccp.Features

open Sccp

/-! ## Features -/

/-- The stored features of a device. -/
inductive Feature where
  | dnd
  | privacy
  | recordingArmed
  | forwardAll
  | forwardBusy
  | forwardNoAnswer
  | button (buttonInstance : Nat)
  deriving DecidableEq

namespace Feature

def suffix : Feature → String
  | dnd => "dnd"
  | privacy => "privacy"
  | recordingArmed => "recording/armed"
  | forwardAll => "forward/all"
  | forwardBusy => "forward/busy"
  | forwardNoAnswer => "forward/no-answer"
  | button buttonInstance => buttonSuffix buttonInstance

/-- The state's value of a feature differs from the default; an absent button is off. -/
def Differs (state defaults : DeviceFeatureState) : Feature → Prop
  | dnd => state.dnd ≠ defaults.dnd
  | privacy => state.privacy ≠ defaults.privacy
  | recordingArmed => state.recordingArmed ≠ defaults.recordingArmed
  | forwardAll => state.forwarding.all ≠ defaults.forwarding.all
  | forwardBusy => state.forwarding.busy ≠ defaults.forwarding.busy
  | forwardNoAnswer => state.forwarding.noAnswer ≠ defaults.forwarding.noAnswer
  | button i => (state.buttons.get? i).getD false ≠ (defaults.buttons.get? i).getD false

instance (state defaults : DeviceFeatureState) : DecidablePred (Differs state defaults) :=
  fun feature => by cases feature <;> exact inferInstanceAs (Decidable (¬ _))

def encoded (state : DeviceFeatureState) : Feature → String
  | dnd => encodeDnd state.dnd
  | privacy => encodeBool state.privacy
  | recordingArmed => encodeBool state.recordingArmed
  | forwardAll => encodeForwarding state.forwarding.all
  | forwardBusy => encodeForwarding state.forwarding.busy
  | forwardNoAnswer => encodeForwarding state.forwarding.noAnswer
  | button i => encodeBool ((state.buttons.get? i).getD false)

/-- What a save stores for a feature: its value, if it differs from the default. -/
def override (state defaults : DeviceFeatureState) (feature : Feature) : Option String :=
  if feature.Differs state defaults then some (feature.encoded state) else none

def path (device : DeviceId) (feature : Feature) : String × String :=
  (FEATURE_FAMILY, key device feature.suffix)

end Feature

/-- The features that a save writes. -/
def features (state defaults : DeviceFeatureState) : List Feature :=
  [.dnd, .privacy, .recordingArmed, .forwardAll, .forwardBusy, .forwardNoAnswer]
    ++ (buttonInstances state defaults).map .button

theorem scalarWrite_eq (device : DeviceId) (suffix encoded : String) (p : Prop) [Decidable p] :
    scalarWrite device suffix p encoded
      = ⟨(FEATURE_FAMILY, key device suffix), if p then some encoded else none⟩ := by
  unfold scalarWrite
  simp only [decide_eq_true_eq]

theorem featureWrites_eq (device : DeviceId) (state defaults : DeviceFeatureState) :
    featureWrites device state defaults = (features state defaults).map fun feature =>
      ⟨feature.path device, feature.override state defaults⟩ := by
  unfold featureWrites features
  rw [List.map_append, List.map_map]
  congr 1
  · simp only [forwardingWrite, scalarWrite_eq]
    rfl
  · refine List.map_congr_left fun i _ => ?_
    simp only [buttonWrite, scalarWrite_eq]
    rfl

theorem mem_buttonInstances {state defaults : DeviceFeatureState} {i : Nat} :
    i ∈ buttonInstances state defaults ↔ i ∈ state.buttons.keys ∨ i ∈ defaults.buttons.keys := by
  unfold buttonInstances sorted
  rw [List.mem_insertionSort, List.mem_dedup, List.mem_append]

theorem nodup_features (state defaults : DeviceFeatureState) : (features state defaults).Nodup := by
  have hbuttons : (buttonInstances state defaults).Nodup :=
    (List.perm_insertionSort _ _).nodup_iff.mpr (List.nodup_dedup _)
  refine List.nodup_append'.mpr ⟨by decide, hbuttons.map fun i j h => by cases h; rfl, ?_⟩
  intro feature hfeature hbutton
  obtain ⟨i, -, rfl⟩ := List.mem_map.mp hbutton
  simp at hfeature

/-! ## Keys -/

theorem toString_injective {i j : Nat} (h : toString i = toString j) : i = j := by
  have hdigits := congrArg String.toList h
  change (Nat.repr i).toList = (Nat.repr j).toList at hdigits
  rw [Nat.toList_repr, Nat.toList_repr] at hdigits
  rw [← Nat.ofDigitChars_ten_toDigits (n := i), hdigits, Nat.ofDigitChars_ten_toDigits]

/-- A feature is told by its suffix. -/
theorem suffix_injective {f g : Feature} (h : f.suffix = g.suffix) : f = g := by
  -- the suffix of a button begins with a letter that begins no other
  have hhead : ∀ i, (buttonSuffix i).toList.head? = some 'b' := fun i => by
    simp [buttonSuffix]
  have hne : ∀ i s, s = buttonSuffix i → s.toList.head? = some 'b' := by
    rintro i s rfl
    exact hhead i
  cases f <;> cases g <;> first
    | rfl
    | exact absurd h (by decide)
    | exact absurd (hne _ _ h) (by decide)
    | exact absurd (hne _ _ h.symm) (by decide)
    | skip
  next i j =>
    have hlist := congrArg String.toList h
    simp only [Feature.suffix, buttonSuffix, String.toList_append] at hlist
    rw [toString_injective (String.toList_inj.mp (List.append_cancel_left hlist))]

/-- The text before the first separator is told from the text behind it. -/
theorem append_separator_inj {α : Type*} {c : α} {a b : List α} (ha : c ∉ a) (hb : c ∉ b)
    {x y : List α} (h : a ++ c :: x = b ++ c :: y) : a = b ∧ x = y := by
  induction a generalizing b with
  | nil =>
    cases b with
    | nil => exact ⟨rfl, List.tail_eq_of_cons_eq h⟩
    | cons d b =>
      have hd : c = d := List.head_eq_of_cons_eq h
      exact absurd (hd ▸ List.mem_cons_self) hb
  | cons d a ih =>
    cases b with
    | nil =>
      have hd : d = c := List.head_eq_of_cons_eq h
      exact absurd (hd ▸ List.mem_cons_self) ha
    | cons e b =>
      have hd : d = e := List.head_eq_of_cons_eq h
      obtain ⟨rfl, rfl⟩ := ih (fun hm => ha (List.mem_cons_of_mem _ hm))
        (fun hm => hb (List.mem_cons_of_mem _ hm)) (List.tail_eq_of_cons_eq h)
      exact ⟨by rw [hd], rfl⟩

theorem slash_notMem (device : DeviceId) : '/' ∉ device.name.toList := fun h =>
  absurd (device.alphanumeric '/' h) (by decide)

/-- A stored key tells the device and the feature. -/
theorem key_injective {device device' : DeviceId} {suffix suffix' : String}
    (h : key device suffix = key device' suffix') : device = device' ∧ suffix = suffix' := by
  have hlist := congrArg String.toList h
  simp only [key, String.toList_append, List.append_assoc] at hlist
  obtain ⟨hname, hsuffix⟩ := append_separator_inj (slash_notMem device) (slash_notMem device')
    (List.append_cancel_left hlist)
  refine ⟨?_, String.toList_inj.mp hsuffix⟩
  obtain ⟨name, _, _⟩ := device
  obtain ⟨name', _, _⟩ := device'
  cases String.toList_inj.mp hname
  rfl

theorem path_injective {device device' : DeviceId} {f g : Feature}
    (h : f.path device = g.path device') : device = device' ∧ f = g := by
  obtain ⟨hdevice, hsuffix⟩ := key_injective (congrArg Prod.snd h)
  exact ⟨hdevice, suffix_injective hsuffix⟩

/-! ## Reading -/

/-- What the storage holds under each family and key. -/
abbrev Contents := Table (String × String) String

/-- The answer of a call when no operation of the storage fails. -/
def Access.eval {α : Type} (m : Access α) (contents : Contents) : Except FeatureStoreError α :=
  (m ⟨contents, []⟩).1

/-- A call that only reads: it answers as on a storage without failures, unless one of its
    own operations fails. -/
structure Reads {α : Type} (m : Access α) : Prop where
  calm : ∀ contents, (m ⟨contents, []⟩).2 = ⟨contents, []⟩
  entries : ∀ s, (m s).2.entries = s.entries
  answer : ∀ s, (∃ e, (m s).1 = .error (.storage e)) ∨ (m s).1 = m.eval s.entries

section Reads

variable {α β : Type}

theorem reads_of (result : Except FeatureStoreError α) : Reads (Access.of result) :=
  ⟨fun _ => rfl, fun _ => rfl, fun _ => .inr rfl⟩

theorem reads_pure (a : α) : Reads (pure a : Access α) := reads_of (.ok a)

theorem reads_get (device : DeviceId) (suffix : String) : Reads (get device suffix) := by
  refine ⟨fun _ => rfl, fun s => ?_, fun s => ?_⟩
  · unfold get
    rcases UndoLog.get_cases (FEATURE_FAMILY, key device suffix) s with ⟨e, heq⟩ | heq <;>
      · rw [heq]
        rfl
  unfold get
  rcases UndoLog.get_cases (FEATURE_FAMILY, key device suffix) s with ⟨e, heq⟩ | heq
  · rw [heq]
    exact .inl ⟨e, rfl⟩
  · rw [heq]
    exact .inr rfl

theorem eval_bind {m : Access α} (h : Reads m) (f : α → Access β) (contents : Contents) :
    (m >>= f).eval contents = (m.eval contents).bind fun a => (f a).eval contents := by
  have hcalm := h.calm contents
  unfold Access.eval
  rcases hm : m ⟨contents, []⟩ with ⟨e | a, s⟩
  · rw [bind_error f hm]
    rfl
  rw [hm] at hcalm
  cases hcalm
  rw [bind_ok f hm]
  rfl

theorem Reads.bind {m : Access α} {f : α → Access β} (h : Reads m) (hf : ∀ a, Reads (f a)) :
    Reads (m >>= f) := by
  refine ⟨fun contents => ?_, fun s => ?_, fun s => ?_⟩
  · have hcalm := h.calm contents
    rcases hm : m ⟨contents, []⟩ with ⟨e | a, s⟩
    · rw [hm] at hcalm
      rw [bind_error f hm]
      exact hcalm
    rw [hm] at hcalm
    cases hcalm
    rw [bind_ok f hm]
    exact (hf a).calm contents
  · have hentries := h.entries s
    rcases hm : m s with ⟨e | a, s'⟩
    · rw [hm] at hentries
      rw [bind_error f hm]
      exact hentries
    · rw [hm] at hentries
      rw [bind_ok f hm, (hf a).entries, hentries]
  · have hentries := h.entries s
    have hanswer := h.answer s
    rw [eval_bind h]
    rcases hm : m s with ⟨e | a, s'⟩
    · rw [hm] at hanswer
      rw [bind_error f hm]
      rcases hanswer with ⟨e', he⟩ | heval
      · cases he
        exact .inl ⟨e', rfl⟩
      · rw [← heval]
        exact .inr rfl
    rw [hm] at hentries hanswer
    rw [bind_ok f hm]
    rcases hanswer with ⟨e, he⟩ | heval
    · cases he
    · rw [← heval, ← hentries]
      exact (hf a).answer s'

theorem reads_loadOverride (parse : DeviceId → String → String → Except FeatureStoreError α)
    (device : DeviceId) (suffix : String) (default : α) :
    Reads (loadOverride parse device suffix default) := by
  refine (reads_get device suffix).bind fun value => ?_
  cases value with
  | none => exact reads_pure default
  | some text => exact reads_of _

theorem reads_loadForwarding (device : DeviceId) (suffix : String)
    (default : Option ForwardingDestination) : Reads (loadForwarding device suffix default) :=
  reads_loadOverride ..

theorem reads_loadButtons (device : DeviceId) (instances : List Nat) (buttons : Table Nat Bool) :
    Reads (loadButtons device instances buttons) := by
  induction instances generalizing buttons with
  | nil => exact reads_pure buttons
  | cons i rest ih =>
    refine (reads_get device (buttonSuffix i)).bind fun value => ?_
    cases value with
    | none => exact ih buttons
    | some text => exact (reads_of _).bind fun enabled => ih _

theorem reads_loadRecordingArmed (device : DeviceId) (recordingConfigured default : Bool) :
    Reads (loadRecordingArmed device recordingConfigured default) := by
  unfold loadRecordingArmed
  split
  · exact reads_loadOverride ..
  · exact reads_pure _

theorem reads_loadFields (device : DeviceId) (defaults : DeviceFeatureState)
    (recordingConfigured : Bool) : Reads (loadFields device defaults recordingConfigured) :=
  (reads_loadOverride ..).bind fun _ => (reads_loadOverride ..).bind fun _ =>
    (reads_loadRecordingArmed ..).bind fun _ => (reads_loadForwarding ..).bind fun _ =>
    (reads_loadForwarding ..).bind fun _ => (reads_loadForwarding ..).bind fun _ =>
    (reads_loadButtons ..).bind fun _ => reads_pure _

theorem eval_bind_ok {m : Access α} (h : Reads m) {f : α → Access β} {contents : Contents}
    {a : α} (hm : m.eval contents = .ok a) : (m >>= f).eval contents = (f a).eval contents := by
  rw [eval_bind h, hm]
  rfl

theorem eval_bind_eq_ok {m : Access α} (h : Reads m) {f : α → Access β} {contents : Contents}
    {b : β} (hb : (m >>= f).eval contents = .ok b) :
    ∃ a, m.eval contents = .ok a ∧ (f a).eval contents = .ok b := by
  rw [eval_bind h] at hb
  cases hm : m.eval contents with
  | error e =>
    rw [hm] at hb
    cases hb
  | ok a =>
    rw [hm] at hb
    exact ⟨a, rfl, hb⟩

end Reads

/-! ## What is loaded -/

/-- The override that is stored for a feature, or else the default, gives the value. -/
def Gives {α : Type} (parse : DeviceId → String → String → Except FeatureStoreError α)
    (contents : Contents) (device : DeviceId) (suffix : String) (default value : α) : Prop :=
  (loadOverride parse device suffix default).eval contents = .ok value

section Gives

variable {α : Type} {parse : DeviceId → String → String → Except FeatureStoreError α}
  {contents before : Contents} {device : DeviceId} {suffix : String} {default value : α}

theorem eval_get (contents : Contents) (device : DeviceId) (suffix : String) :
    (get device suffix).eval contents = .ok (contents.get? (FEATURE_FAMILY, key device suffix)) :=
  rfl

theorem gives_iff : Gives parse contents device suffix default value ↔
    (match contents.get? (FEATURE_FAMILY, key device suffix) with
      | some text => parse device suffix text
      | none => .ok default) = .ok value := by
  unfold Gives loadOverride
  rw [eval_bind_ok (reads_get device suffix) (eval_get contents device suffix)]
  cases contents.get? (FEATURE_FAMILY, key device suffix) <;> exact Iff.rfl

theorem Gives.congr (h : Gives parse before device suffix default value)
    (heq : contents.get? (FEATURE_FAMILY, key device suffix)
      = before.get? (FEATURE_FAMILY, key device suffix)) :
    Gives parse contents device suffix default value := by
  rw [gives_iff, heq]
  exact gives_iff.mp h

/-- A value that is stored when it differs from the default is given back. -/
theorem gives_override {encoded : String} {p : Prop} [Decidable p]
    (hdiffers : p ↔ value ≠ default) (hparse : parse device suffix encoded = .ok value)
    (heq : contents.get? (FEATURE_FAMILY, key device suffix) = if p then some encoded else none) :
    Gives parse contents device suffix default value := by
  rw [gives_iff, heq]
  split
  · next hstored =>
    split at hstored
    · cases hstored
      exact hparse
    · cases hstored
  · next hnone =>
    split at hnone
    · cases hnone
    · next hp => rw [not_ne_iff.mp (fun hne => hp (hdiffers.mpr hne))]

end Gives

theorem parseDnd_encodeDnd (device : DeviceId) (suffix : String) (mode : DndMode) :
    parseDnd device suffix (encodeDnd mode) = .ok mode := by
  cases mode <;> rfl

theorem parseBool_encodeBool (device : DeviceId) (suffix : String) (value : Bool) :
    parseBool device suffix (encodeBool value) = .ok value := by
  cases value <;> rfl

theorem stripPrefix_append (start rest : String) : stripPrefix start (start ++ rest)
    = some rest := by
  unfold stripPrefix
  rw [String.toList_append, if_pos (List.prefix_append ..), List.drop_left, String.ofList_toList]

theorem ForwardingDestination.new_text (destination : ForwardingDestination) :
    ForwardingDestination.new destination.text = .ok destination := by
  obtain ⟨text, htrimmed, hnonempty, hbounded, hprintable⟩ := destination
  unfold ForwardingDestination.new
  simp only [htrimmed]
  rw [dif_neg hnonempty, dif_neg (by omega), dif_neg (by simp [hprintable])]

theorem parseForwarding_encodeForwarding (device : DeviceId) (suffix : String)
    (destination : Option ForwardingDestination) :
    parseForwarding device suffix (encodeForwarding destination) = .ok destination := by
  cases destination with
  | none => rfl
  | some destination =>
    unfold encodeForwarding parseForwarding
    have hne : "destination:" ++ destination.text ≠ "none" := by
      intro h
      have hhead := congrArg (fun text => text.toList.head?) h
      simp at hhead
    dsimp only
    rw [if_neg hne, stripPrefix_append]
    dsimp only
    rw [if_neg destination.forwards.nonempty, ForwardingDestination.new_text]

/-- The contents give every feature of the state. -/
structure Restores (contents : Contents) (device : DeviceId) (defaults : DeviceFeatureState)
    (recordingConfigured : Bool) (state : DeviceFeatureState) : Prop where
  dnd : Gives parseDnd contents device "dnd" defaults.dnd state.dnd
  privacy : Gives parseBool contents device "privacy" defaults.privacy state.privacy
  recordingArmed : (loadRecordingArmed device recordingConfigured defaults.recordingArmed).eval
    contents = .ok state.recordingArmed
  all : Gives parseForwarding contents device "forward/all" defaults.forwarding.all
    state.forwarding.all
  busy : Gives parseForwarding contents device "forward/busy" defaults.forwarding.busy
    state.forwarding.busy
  noAnswer : Gives parseForwarding contents device "forward/no-answer"
    defaults.forwarding.noAnswer state.forwarding.noAnswer
  buttons : ∀ i ∈ defaults.buttons.keys, Gives parseBool contents device (buttonSuffix i)
    ((defaults.buttons.get? i).getD false) ((state.buttons.get? i).getD false)
  keys : ∀ i, i ∈ state.buttons.keys ↔ i ∈ defaults.buttons.keys

section Buttons

variable {contents : Contents} {device : DeviceId} {instances : List Nat}
  {buttons : Table Nat Bool}

theorem eval_loadButtons_cons (i : Nat) (rest : List Nat) (buttons : Table Nat Bool) :
    (loadButtons device (i :: rest) buttons).eval contents
      = match contents.get? (FEATURE_FAMILY, key device (buttonSuffix i)) with
        | some value => (parseBool device (buttonSuffix i) value).bind fun enabled =>
          (loadButtons device rest (buttons.insert i enabled)).eval contents
        | none => (loadButtons device rest buttons).eval contents := by
  rw [loadButtons, eval_bind_ok (reads_get device (buttonSuffix i)) (eval_get contents device _)]
  cases contents.get? (FEATURE_FAMILY, key device (buttonSuffix i)) with
  | none => rfl
  | some value => exact eval_bind (reads_of _) _ contents

theorem mem_keys_insert {i j : Nat} {enabled : Bool} (hj : j ∈ buttons.keys) :
    i ∈ (buttons.insert j enabled).keys ↔ i ∈ buttons.keys := by
  rw [Table.mem_keys, Table.mem_keys, Table.get?_insert]
  split
  · next heq =>
    rw [heq, ← Table.mem_keys]
    exact iff_of_true ⟨_, rfl⟩ hj
  · exact Iff.rfl

/-- The buttons that are loaded are those of the defaults, each with its value. -/
theorem loadButtons_ok (hn : instances.Nodup) (hmem : ∀ i ∈ instances, i ∈ buttons.keys)
    {loaded : Table Nat Bool}
    (h : (loadButtons device instances buttons).eval contents = .ok loaded) :
    (∀ i ∈ instances, Gives parseBool contents device (buttonSuffix i)
        ((buttons.get? i).getD false) ((loaded.get? i).getD false))
      ∧ (∀ i, i ∉ instances → loaded.get? i = buttons.get? i)
      ∧ ∀ i, i ∈ loaded.keys ↔ i ∈ buttons.keys := by
  induction instances generalizing buttons with
  | nil =>
    cases h
    exact ⟨nofun, fun _ _ => rfl, fun _ => Iff.rfl⟩
  | cons j rest ih =>
    obtain ⟨hj, hrest⟩ := List.nodup_cons.mp hn
    have hjmem := hmem j List.mem_cons_self
    have hrestmem : ∀ i ∈ rest, i ∈ buttons.keys := fun i hi =>
      hmem i (List.mem_cons_of_mem _ hi)
    rw [eval_loadButtons_cons] at h
    split at h
    · next text htext =>
      cases hparse : parseBool device (buttonSuffix j) text with
      | error e =>
        rw [hparse] at h
        cases h
      | ok enabled =>
        rw [hparse] at h
        obtain ⟨hgives, hkeep, hkeys⟩ := ih hrest
          (fun i hi => (mem_keys_insert hjmem).mpr (hrestmem i hi)) h
        refine ⟨fun i hi => ?_, fun i hi => ?_, fun i =>
          (hkeys i).trans (mem_keys_insert hjmem)⟩
        · rcases List.mem_cons.mp hi with rfl | hi
          · rw [gives_iff, htext, hkeep i hj, Table.get?_insert, if_pos rfl]
            exact hparse
          · have hne : i ≠ j := fun heq => hj (heq ▸ hi)
            have hgiven := hgives i hi
            rwa [Table.get?_insert, if_neg hne] at hgiven
        · rw [List.mem_cons, not_or] at hi
          rw [hkeep i hi.2, Table.get?_insert, if_neg hi.1]
    · next hnone =>
      obtain ⟨hgives, hkeep, hkeys⟩ := ih hrest hrestmem h
      refine ⟨fun i hi => ?_, fun i hi => ?_, hkeys⟩
      · rcases List.mem_cons.mp hi with rfl | hi
        · rw [gives_iff, hnone, hkeep i hj]
        · exact hgives i hi
      · rw [List.mem_cons, not_or] at hi
        exact hkeep i hi.2

theorem exists_loadButtons (hn : instances.Nodup) {value : Nat → Bool}
    (h : ∀ i ∈ instances, Gives parseBool contents device (buttonSuffix i)
      ((buttons.get? i).getD false) (value i)) :
    ∃ loaded, (loadButtons device instances buttons).eval contents = .ok loaded := by
  induction instances generalizing buttons with
  | nil => exact ⟨buttons, rfl⟩
  | cons j rest ih =>
    obtain ⟨hj, hrest⟩ := List.nodup_cons.mp hn
    have hgives := gives_iff.mp (h j List.mem_cons_self)
    rw [eval_loadButtons_cons]
    cases hstored : contents.get? (FEATURE_FAMILY, key device (buttonSuffix j)) with
    | some text =>
      rw [hstored] at hgives
      dsimp only at hgives ⊢
      rw [hgives]
      refine ih hrest fun i hi => ?_
      have hne : i ≠ j := fun heq => hj (heq ▸ hi)
      rw [Table.get?_insert, if_neg hne]
      exact h i (List.mem_cons_of_mem _ hi)
    | none => exact ih hrest fun i hi => h i (List.mem_cons_of_mem _ hi)

end Buttons

section Load

variable {contents : Contents} {device : DeviceId} {defaults state : DeviceFeatureState}
  {recordingConfigured : Bool}

theorem nodup_sorted_keys (buttons : Table Nat Bool) : (sorted buttons.keys).Nodup :=
  (List.perm_insertionSort _ _).nodup_iff.mpr buttons.nodup

theorem mem_sorted {i : Nat} {instances : List Nat} : i ∈ sorted instances ↔ i ∈ instances :=
  List.mem_insertionSort _

theorem get?_eq_none_iff {a b : Table Nat Bool} (h : ∀ i, i ∈ a.keys ↔ i ∈ b.keys) (i : Nat) :
    a.get? i = none ↔ b.get? i = none := by
  rw [Table.get?_eq_none, Table.get?_eq_none, h]

/-- What the contents give is loaded. -/
theorem Restores.load (h : Restores contents device defaults recordingConfigured state) :
    ∃ loaded, (loadFields device defaults recordingConfigured).eval contents = .ok loaded
      ∧ loaded.Same state := by
  obtain ⟨buttons, hbuttons⟩ := exists_loadButtons (nodup_sorted_keys defaults.buttons)
    (fun i hi => h.buttons i (mem_sorted.mp hi))
  obtain ⟨hgives, -, hkeys⟩ := loadButtons_ok (nodup_sorted_keys defaults.buttons)
    (fun i hi => mem_sorted.mp hi) hbuttons
  refine ⟨{ state with buttons := buttons }, ?_, ⟨rfl, rfl, rfl, rfl, fun i => ?_⟩⟩
  · unfold loadFields
    rw [eval_bind_ok (reads_loadOverride ..) h.dnd, eval_bind_ok (reads_loadOverride ..) h.privacy,
      eval_bind_ok (reads_loadRecordingArmed ..) h.recordingArmed,
      eval_bind_ok (reads_loadForwarding ..) h.all, eval_bind_ok (reads_loadForwarding ..) h.busy,
      eval_bind_ok (reads_loadForwarding ..) h.noAnswer,
      eval_bind_ok (reads_loadButtons ..) hbuttons]
    rfl
  -- the values agree where the defaults have a button, and elsewhere there is none
  have hnone := get?_eq_none_iff (fun i => (hkeys i).trans (h.keys i).symm) i
  by_cases hi : i ∈ defaults.buttons.keys
  · have hloaded := hgives i (mem_sorted.mpr hi)
    have hvalue := Except.ok.inj (hloaded.symm.trans (h.buttons i hi))
    change buttons.get? i = state.buttons.get? i
    cases hb : buttons.get? i with
    | none => rw [hnone.mp hb]
    | some value =>
      cases hs : state.buttons.get? i with
      | none =>
        rw [hnone.mpr hs] at hb
        cases hb
      | some value' =>
        rw [hb, hs] at hvalue
        exact congrArg some hvalue
  · have hb : buttons.get? i = none := Table.get?_eq_none.mpr fun hmem => hi ((hkeys i).mp hmem)
    change buttons.get? i = state.buttons.get? i
    rw [hb, hnone.mp hb]

/-- What is loaded, the contents give. -/
theorem restores_of_load
    (h : (loadFields device defaults recordingConfigured).eval contents = .ok state) :
    Restores contents device defaults recordingConfigured state := by
  unfold loadFields at h
  obtain ⟨dnd, hdnd, h⟩ := eval_bind_eq_ok (reads_loadOverride ..) h
  obtain ⟨privacy, hprivacy, h⟩ := eval_bind_eq_ok (reads_loadOverride ..) h
  obtain ⟨armed, harmed, h⟩ := eval_bind_eq_ok (reads_loadRecordingArmed ..) h
  obtain ⟨all, hall, h⟩ := eval_bind_eq_ok (reads_loadForwarding ..) h
  obtain ⟨busy, hbusy, h⟩ := eval_bind_eq_ok (reads_loadForwarding ..) h
  obtain ⟨noAnswer, hnoAnswer, h⟩ := eval_bind_eq_ok (reads_loadForwarding ..) h
  obtain ⟨buttons, hbuttons, h⟩ := eval_bind_eq_ok (reads_loadButtons ..) h
  cases h
  obtain ⟨hgives, -, hkeys⟩ := loadButtons_ok (nodup_sorted_keys defaults.buttons)
    (fun i hi => mem_sorted.mp hi) hbuttons
  exact ⟨hdnd, hprivacy, harmed, hall, hbusy, hnoAnswer,
    fun i hi => hgives i (mem_sorted.mpr hi), hkeys⟩

/-- Contents in which each feature of the state holds its override, or what gave its value
    before, give the state. -/
theorem restores_of_mixed (hkeys : ∀ i, i ∈ state.buttons.keys ↔ i ∈ defaults.buttons.keys)
    (hrecording : recordingConfigured = false → state.recordingArmed = defaults.recordingArmed)
    (h : ∀ feature ∈ features state defaults,
      contents.get? (feature.path device) = feature.override state defaults
      ∨ ∃ before, Restores before device defaults recordingConfigured state
        ∧ contents.get? (feature.path device) = before.get? (feature.path device)) :
    Restores contents device defaults recordingConfigured state := by
  have hfixed : ∀ feature ∈ ([.dnd, .privacy, .recordingArmed, .forwardAll, .forwardBusy,
      .forwardNoAnswer] : List Feature), feature ∈ features state defaults := fun feature hf =>
    List.mem_append_left _ hf
  refine ⟨?_, ?_, ?_, ?_, ?_, ?_, fun i hi => ?_, hkeys⟩
  · rcases h .dnd (hfixed _ (by decide)) with heq | ⟨before, hbefore, heq⟩
    · exact gives_override Iff.rfl (parseDnd_encodeDnd ..) heq
    · exact hbefore.dnd.congr heq
  · rcases h .privacy (hfixed _ (by decide)) with heq | ⟨before, hbefore, heq⟩
    · exact gives_override Iff.rfl (parseBool_encodeBool ..) heq
    · exact hbefore.privacy.congr heq
  · unfold loadRecordingArmed
    cases recordingConfigured with
    | false => exact congrArg Except.ok (hrecording rfl).symm
    | true =>
      rcases h .recordingArmed (hfixed _ (by decide)) with heq | ⟨before, hbefore, heq⟩
      · exact gives_override Iff.rfl (parseBool_encodeBool ..) heq
      · exact Gives.congr hbefore.recordingArmed heq
  · rcases h .forwardAll (hfixed _ (by decide)) with heq | ⟨before, hbefore, heq⟩
    · exact gives_override Iff.rfl (parseForwarding_encodeForwarding ..) heq
    · exact hbefore.all.congr heq
  · rcases h .forwardBusy (hfixed _ (by decide)) with heq | ⟨before, hbefore, heq⟩
    · exact gives_override Iff.rfl (parseForwarding_encodeForwarding ..) heq
    · exact hbefore.busy.congr heq
  · rcases h .forwardNoAnswer (hfixed _ (by decide)) with heq | ⟨before, hbefore, heq⟩
    · exact gives_override Iff.rfl (parseForwarding_encodeForwarding ..) heq
    · exact hbefore.noAnswer.congr heq
  · have hmem : Feature.button i ∈ features state defaults :=
      List.mem_append_right _ (List.mem_map_of_mem (mem_buttonInstances.mpr (.inr hi)))
    rcases h (.button i) hmem with heq | ⟨before, hbefore, heq⟩
    · exact gives_override Iff.rfl (parseBool_encodeBool ..) heq
    · exact (hbefore.buttons i hi).congr heq

end Load

/-! ## What is saved -/

section Save

variable {device : DeviceId} {state defaults : DeviceFeatureState} {s s' : PersistentStore}

/-- A save refuses an unknown button, or writes the overrides. -/
theorem save_cases (device : DeviceId) (state defaults : DeviceFeatureState) :
    (∃ e, save device state defaults = Access.of (.error e) ∧ ∀ source rollback,
        e ≠ .rollback source rollback)
    ∨ save device state defaults = applyTransaction (featureWrites device state defaults) := by
  unfold save
  split
  · exact .inl ⟨_, rfl, nofun⟩
  · exact .inr rfl

theorem nodup_writes (device : DeviceId) (state defaults : DeviceFeatureState) :
    ((featureWrites device state defaults).map UndoLog.Write.key).Nodup := by
  rw [featureWrites_eq, List.map_map]
  exact (nodup_features state defaults).map fun f g h => (path_injective h).2

/-- After a save every feature holds its override, and nothing else has changed. -/
theorem save_ok (h : save device state defaults s = (.ok (), s')) :
    (∀ feature ∈ features state defaults,
        s'.held (feature.path device) = feature.override state defaults)
      ∧ ∀ k, k ∉ (features state defaults).map (Feature.path device) → s'.held k = s.held k := by
  rcases save_cases device state defaults with ⟨e, heq, -⟩ | heq
  · rw [heq] at h
    cases h
  rw [heq] at h
  unfold applyTransaction at h
  split at h
  · next s₁ htransact =>
    cases h
    obtain ⟨hset, hkeep⟩ := UndoLog.transact_ok (nodup_writes device state defaults) htransact
    rw [featureWrites_eq] at hset hkeep
    refine ⟨fun feature hfeature => hset _ (List.mem_map_of_mem hfeature), fun k hk => ?_⟩
    exact hkeep k (by rwa [List.map_map])
  · cases h
  · cases h

/-- A save that fails, but not in its rollback, has changed nothing. -/
theorem save_failed {e : FeatureStoreError} (h : save device state defaults s = (.error e, s'))
    (he : ∀ source rollback, e ≠ .rollback source rollback) : s'.held = s.held := by
  rcases save_cases device state defaults with ⟨e', heq, -⟩ | heq
  · rw [heq] at h
    cases h
    rfl
  rw [heq] at h
  unfold applyTransaction at h
  split at h
  · cases h
  · next source s₁ htransact =>
    cases h
    exact UndoLog.transact_failed htransact
  · cases h
    exact absurd rfl (he _ _)

/-- Whatever fails, a key holds what it held, or it is a feature's and holds the override. -/
theorem save_mixed (device : DeviceId) (state defaults : DeviceFeatureState) (s : PersistentStore)
    (k : String × String) : (save device state defaults s).2.held k = s.held k
      ∨ ∃ feature ∈ features state defaults, k = feature.path device
        ∧ (save device state defaults s).2.held k = feature.override state defaults := by
  rcases save_cases device state defaults with ⟨e, heq, -⟩ | heq
  · rw [heq]
    exact .inl rfl
  have hstore : (save device state defaults s).2
      = (UndoLog.transact (featureWrites device state defaults) s).2 := by
    rw [heq]
    unfold applyTransaction
    split <;> next h => rw [h]
  rw [hstore]
  rcases UndoLog.transact_mixed (featureWrites device state defaults) s k with h | ⟨w, hw, rfl, h⟩
  · exact .inl h
  · rw [featureWrites_eq] at hw
    obtain ⟨feature, hfeature, rfl⟩ := List.mem_map.mp hw
    exact .inr ⟨feature, hfeature, rfl, h⟩

/-- An update that fails, but not in its rollback, has changed nothing. -/
theorem update_failed {mutation : DeviceFeatureState → DeviceFeatureState} {e : FeatureStoreError}
    (h : update device state defaults mutation s = (.error e, s'))
    (he : ∀ source rollback, e ≠ .rollback source rollback) : s'.held = s.held := by
  unfold update at h
  split at h
  · cases h
  rcases hsave : save device (mutation state) defaults s with ⟨e' | _, s₁⟩
  · rw [bind_error _ hsave] at h
    cases h
    exact save_failed hsave he
  · rw [bind_ok _ hsave] at h
    cases h

end Save

/-! ## Round trips and reconciliation -/

/-- The call answers with the state, or with the failure of one of its reads; and no read
    fails on a storage without failures. -/
def Loads (m : Access DeviceFeatureState) (s : PersistentStore) (state : DeviceFeatureState) :
    Prop :=
  (∃ loaded, (m { s with faults := [] }).1 = .ok loaded ∧ loaded.Same state)
    ∧ ∀ faults, (∃ e, (m { s with faults }).1 = .error (.storage e))
      ∨ ∃ loaded, (m { s with faults }).1 = .ok loaded ∧ loaded.Same state

theorem Restores.loads {s : PersistentStore} {device : DeviceId}
    {defaults state : DeviceFeatureState} {recordingConfigured : Bool}
    (h : Restores s.entries device defaults recordingConfigured state) :
    Loads (loadFields device defaults recordingConfigured) s state := by
  obtain ⟨loaded, heval, hsame⟩ := h.load
  refine ⟨⟨loaded, heval, hsame⟩, fun faults => ?_⟩
  rcases (reads_loadFields device defaults recordingConfigured).answer { s with faults } with
    herror | hanswer
  · exact .inl herror
  · exact .inr ⟨loaded, hanswer.trans heval, hsame⟩

/-- What a save is to achieve. -/
structure Saved (device : DeviceId) (state defaults : DeviceFeatureState)
    (s s' : PersistentStore) : Prop where
  loads : Loads (load device defaults) s' state
  overrides : ∀ feature ∈ features state defaults,
    s'.held (feature.path device) = feature.override state defaults
  others : ∀ k, k ∉ (features state defaults).map (Feature.path device) → s'.held k = s.held k

theorem saved_of_save {device : DeviceId} {state defaults : DeviceFeatureState}
    {s s' : PersistentStore} (hkeys : ∀ i, i ∈ state.buttons.keys ↔ i ∈ defaults.buttons.keys)
    (h : save device state defaults s = (.ok (), s')) : Saved device state defaults s s' := by
  obtain ⟨hset, hkeep⟩ := save_ok h
  refine ⟨Restores.loads (restores_of_mixed hkeys nofun fun feature hf => .inl ?_), hset, hkeep⟩
  exact hset feature hf

section Reconcile

variable {config : ModuleConfig}
variable {states : Table DeviceId DeviceFeatureState} {s : PersistentStore} {device : DeviceId}

/-- The stored contents give the states of all configured devices. -/
def Current (config : ModuleConfig) (states : Table DeviceId DeviceFeatureState)
    (contents : Contents) : Prop :=
  ∀ device defaults, configuredFeatureState config device = some defaults →
    ∃ state, states.get? device = some state ∧ Restores contents device defaults
      (config.recordingButtonsForDevice device ≠ []) state

theorem loadDevices_ok {devices : List DeviceId} {states' : Table DeviceId DeviceFeatureState}
    {s' : PersistentStore} (hn : devices.Nodup)
    (h : loadDevices config devices states s = (.ok states', s')) : s'.entries = s.entries
      ∧ (∀ device, device ∉ devices → states'.get? device = states.get? device)
      ∧ ∀ device ∈ devices, ∀ defaults, configuredFeatureState config device = some defaults →
        ∃ state, states'.get? device = some state ∧ Restores s.entries device defaults
          (config.recordingButtonsForDevice device ≠ []) state := by
  induction devices generalizing states s with
  | nil =>
    cases h
    exact ⟨rfl, fun _ _ => rfl, nofun⟩
  | cons first rest ih =>
    obtain ⟨hfirst, hrest⟩ := List.nodup_cons.mp hn
    rw [loadDevices] at h
    cases hconfigured : configuredFeatureState config first with
    | some defaults =>
      rw [hconfigured] at h
      dsimp only at h
      have hreads := reads_loadFields first defaults
        (decide (config.recordingButtonsForDevice first ≠ []))
      rcases hload : loadConfigured config first defaults s with ⟨e | state, s₁⟩
      · rw [bind_error _ hload] at h
        cases h
      rw [bind_ok _ hload] at h
      have hentries : s₁.entries = s.entries := by
        have hkept := hreads.entries s
        unfold loadConfigured at hload
        rwa [hload] at hkept
      have heval : (loadFields first defaults
          (decide (config.recordingButtonsForDevice first ≠ []))).eval s.entries = .ok state := by
        have hanswer := hreads.answer s
        unfold loadConfigured at hload
        rw [hload] at hanswer
        rcases hanswer with ⟨e, he⟩ | heval
        · cases he
        · exact heval.symm
      obtain ⟨hs', hkeep, hstates⟩ := ih hrest h
      refine ⟨hs'.trans hentries, fun device hdevice => ?_, fun device hdevice => ?_⟩
      · rw [List.mem_cons, not_or] at hdevice
        rw [hkeep device hdevice.2, Table.get?_insert, if_neg hdevice.1]
      rcases List.mem_cons.mp hdevice with rfl | hdevice
      · intro defaults' hdefaults'
        rw [hconfigured] at hdefaults'
        cases hdefaults'
        refine ⟨state, ?_, restores_of_load heval⟩
        rw [hkeep device hfirst, Table.get?_insert, if_pos rfl]
      · rw [← hentries]
        exact hstates device hdevice
    | none =>
      rw [hconfigured] at h
      obtain ⟨hs', hkeep, hstates⟩ := ih hrest h
      refine ⟨hs', fun device hdevice => hkeep device (List.not_mem_of_not_mem_cons hdevice),
        fun device hdevice => ?_⟩
      rcases List.mem_cons.mp hdevice with rfl | hdevice
      · intro defaults hdefaults
        rw [hconfigured] at hdefaults
        cases hdefaults
      · exact hstates device hdevice

theorem mem_sortedDevices {defaults : DeviceFeatureState}
    (h : configuredFeatureState config device = some defaults) : device ∈ config.sortedDevices := by
  obtain ⟨definition, hget, -⟩ := Option.map_eq_some_iff.mp h
  exact (List.mem_insertionSort _).mpr (Table.mem_keys.mpr ⟨definition, hget⟩)

theorem nodup_sortedDevices : config.sortedDevices.Nodup :=
  (List.perm_insertionSort _ _).nodup_iff.mpr config.devices.nodup

theorem current_of_loadConfiguration {s' : PersistentStore}
    (h : loadConfiguration config s = (.ok states, s')) : Current config states s'.entries := by
  obtain ⟨hentries, -, hstates⟩ := loadDevices_ok nodup_sortedDevices h
  intro device defaults hdefaults
  rw [hentries]
  exact hstates device (mem_sortedDevices hdefaults) defaults hdefaults

/-- Saving the state of a device, with any outcome, changes what is loaded for none. -/
theorem Current.save (h : Current config states s.entries) {defaults state : DeviceFeatureState}
    (hdefaults : configuredFeatureState config device = some defaults)
    (hstate : states.get? device = some state) :
    Current config states (save device state defaults s).2.entries := by
  intro device' defaults' hdefaults'
  obtain ⟨state', hstate', hrestores⟩ := h device' defaults' hdefaults'
  refine ⟨state', hstate', restores_of_mixed hrestores.keys (fun hnot => ?_) fun feature hf => ?_⟩
  · have harmed := hrestores.recordingArmed
    rw [hnot] at harmed
    exact (Except.ok.inj harmed).symm
  rcases save_mixed device state defaults s (feature.path device') with
    hkept | ⟨feature', -, hpath, hset⟩
  · exact .inr ⟨s.entries, hrestores, hkept⟩
  -- the key belongs to the device that is saved
  obtain ⟨rfl, rfl⟩ := path_injective hpath
  rw [hdefaults] at hdefaults'
  cases hdefaults'
  rw [hstate] at hstate'
  cases hstate'
  exact .inl hset

theorem Current.saveDevices {devices : List DeviceId} (h : Current config states s.entries)
    (hdevices : ∀ device ∈ devices, ∃ defaults,
      configuredFeatureState config device = some defaults) :
    ∃ answer s', saveDevices config states devices s = some (answer, s')
      ∧ Current config states s'.entries := by
  induction devices generalizing s with
  | nil => exact ⟨_, _, rfl, h⟩
  | cons device rest ih =>
    obtain ⟨defaults, hdefaults⟩ := hdevices device List.mem_cons_self
    obtain ⟨state, hstate, -⟩ := h device defaults hdefaults
    have hsaved := h.save hdefaults hstate
    unfold Features.saveDevices
    rw [hdefaults, hstate]
    dsimp only
    rcases hsave : Features.save device state defaults s with ⟨e | _, s₁⟩
    · rw [hsave] at hsaved
      exact ⟨_, _, rfl, hsaved⟩
    · rw [hsave] at hsaved
      exact ih hsaved fun device hd => hdevices device (List.mem_cons_of_mem _ hd)

theorem configured_of_mem (h : device ∈ config.sortedDevices) :
    ∃ defaults, configuredFeatureState config device = some defaults := by
  obtain ⟨definition, hget⟩ := Table.mem_keys.mp ((List.mem_insertionSort _).mp h)
  exact ⟨_, Option.map_eq_some_iff.mpr ⟨definition, hget, rfl⟩⟩

/-- Reconciling with the loaded states changes what is loaded for no device, whatever
    fails. -/
theorem loads_reconcile (h : Current config states s.entries) :
    ∃ answer s', reconcileConfiguration config states s = some (answer, s')
      ∧ ∀ device defaults, configuredFeatureState config device = some defaults →
        ∃ state, Loads (loadConfigured config device defaults) s state
          ∧ Loads (loadConfigured config device defaults) s' state := by
  have hall : ∀ device ∈ config.sortedDevices, ∃ defaults,
      configuredFeatureState config device = some defaults := fun _ hd => configured_of_mem hd
  obtain ⟨answer, s', heq, hcurrent⟩ := h.saveDevices hall
  refine ⟨answer, s', heq, fun device defaults hdefaults => ?_⟩
  obtain ⟨state, hstate, hrestores⟩ := h device defaults hdefaults
  obtain ⟨state', hstate', hrestores'⟩ := hcurrent device defaults hdefaults
  rw [hstate] at hstate'
  cases hstate'
  exact ⟨state, hrestores.loads, hrestores'.loads⟩

end Reconcile

/-- **Feature state persistence.**  A save is read back and stores just the overrides among
    the features that it writes; a save or an update that fails, but not in its rollback, has
    changed no key; and reconciling the storage with the states that were loaded under a
    configuration changes what is loaded under it for no device. -/
theorem feature_persistence :
    (∀ (device : DeviceId) (state defaults : DeviceFeatureState) (s s' : PersistentStore),
      (∀ i, i ∈ state.buttons.keys ↔ i ∈ defaults.buttons.keys) →
      save device state defaults s = (.ok (), s') → Saved device state defaults s s')
    ∧ (∀ (device : DeviceId) (state defaults : DeviceFeatureState)
        (mutation : DeviceFeatureState → DeviceFeatureState) (s s' : PersistentStore)
        (e : FeatureStoreError), (∀ source rollback, e ≠ .rollback source rollback) →
      save device state defaults s = (.error e, s')
        ∨ update device state defaults mutation s = (.error e, s') →
      ∀ family key, s'.held (family, key) = s.held (family, key))
    ∧ ∀ (config : ModuleConfig) (states : Table DeviceId DeviceFeatureState)
        (s s' : PersistentStore), loadConfiguration config s = (.ok states, s') →
      ∃ answer s'', reconcileConfiguration config states s' = some (answer, s'')
        ∧ ∀ device defaults, configuredFeatureState config device = some defaults →
          ∃ state, Loads (loadConfigured config device defaults) s' state
            ∧ Loads (loadConfigured config device defaults) s'' state := by
  refine ⟨fun _ _ _ _ _ hkeys h => saved_of_save hkeys h, ?_, fun config states s s' h =>
    loads_reconcile (current_of_loadConfiguration h)⟩
  intro device state defaults mutation s s' e he h family key
  rcases h with h | h
  · rw [save_failed h he]
  · rw [update_failed h he]

/-- A phone whose feature button 9 has been switched off and then taken from its
    configuration. -/
def formerButton : DeviceId × PersistentStore :=
  let device : DeviceId := ⟨"SEP001122334455", by decide, List.all_eq_true.mp (by decide)⟩
  (device, ⟨(∅ : Contents).insert (Feature.path device (.button 9)) "false", []⟩)

/-- A save leaves the value of a button that is not configured any more. -/
theorem former_button_stays_stored : ∃ s', save formerButton.1 {} {} formerButton.2 = (.ok (), s')
      ∧ s'.held (Feature.path formerButton.1 (.button 9)) = some "false"
      ∧ ¬ Feature.Differs {} {} (.button 9) := by
  refine ⟨_, rfl, by decide, by decide⟩

end Sccp.Features
