/-
  Sccp.Safety.Reload

  What a selective reload leaves alone.

  An accepted candidate differs from the configuration it replaces in the selected object only,
  except that appearances elsewhere may take their audio encryption from another place.
-/

import Sccp.Config.Reload

namespace Sccp.Reload

open ReloadPlan (build)

variable {selection : ReloadSelection} {previous next : ModuleConfig} {binding : LineBinding}

/-! ## Accepted candidates -/

theorem mem_changedKeys {K V : Type} [DecidableEq K] [DecidableEq V] {a b : Table K V} {key : K} :
    key ∈ changedKeys a b ↔ a.get? key ≠ b.get? key := by
  unfold changedKeys
  rw [Finset.mem_filter, List.mem_toFinset, List.mem_append]
  refine ⟨And.right, fun h => ⟨?_, h⟩⟩
  by_contra hnone
  rw [not_or] at hnone
  exact h ((Table.get?_eq_none.mpr hnone.1).trans (Table.get?_eq_none.mpr hnone.2).symm)

theorem get?_of_not_changed {K V : Type} [DecidableEq K] [DecidableEq V] {a b : Table K V}
    {changed : Finset K} (h : changedKeys a b ⊆ changed) {key : K} (hkey : key ∉ changed) :
    a.get? key = b.get? key :=
  not_not.mp fun hne => hkey (h (mem_changedKeys.mpr hne))

theorem mem_iff_of_not_changed {K : Type} [DecidableEq K] {a b changed : Finset K}
    (h : symmDiff a b ⊆ changed) {key : K} (hkey : key ∉ changed) : key ∈ a ↔ key ∈ b := by
  have hnot : key ∉ symmDiff a b := fun hmem => hkey (h hmem)
  rw [Finset.mem_symmDiff] at hnot
  tauto

/-- An appearance of the selected device or line. -/
def Concerns (selection : ReloadSelection) (binding : LineBinding) : Prop :=
  selection = .device binding.deviceId ∨ selection = .line binding.line.number

/-- The selected device, or one that uses the selected line or profile. -/
def Consumes (selection : ReloadSelection) (previous next : ModuleConfig) (id : DeviceId) : Prop :=
  selection = .device id ∨ (∃ line, selection = .line line ∧ id ∈ lineConsumers previous next line)
    ∨ ∃ profile, selection = .softKeyProfile profile ∧ id ∈ profileConsumers previous next profile

/-- All that is compared is the same, but for the selected object. -/
structure Kept (selection : ReloadSelection) (previous next : ModuleConfig) : Prop where
  general : previous.general = next.general
  devices : ∀ id, selection ≠ .device id → previous.devices.get? id = next.devices.get? id
  deviceCodecs : ∀ id, selection ≠ .device id →
    (id ∈ previous.deviceCodecOverrides ↔ id ∈ next.deviceCodecOverrides)
  lines : ∀ number, selection ≠ .line number → previous.lines.get? number = next.lines.get? number
  lineFeatures : ∀ number, selection ≠ .line number →
    previous.lineFeatures.get? number = next.lineFeatures.get? number
  lineCodecs : ∀ number, selection ≠ .line number →
    (number ∈ previous.lineCodecOverrides ↔ number ∈ next.lineCodecOverrides)
  profiles : ∀ name, selection ≠ .softKeyProfile name →
    previous.softKeyProfiles.get? name = next.softKeyProfiles.get? name

/-- The changes concern the selected object. -/
structure Confined (selection : ReloadSelection) (changes : ConfigurationChanges) : Prop where
  general : changes.general = false
  devices : ∀ id ∈ changes.devices, selection = .device id
  lines : ∀ number ∈ changes.lines, selection = .line number
  profiles : ∀ name ∈ changes.profiles, selection = .softKeyProfile name

theorem Confined.kept (h : Confined selection (.between previous next)) :
    Kept selection previous next where
  general := by simpa [ConfigurationChanges.between] using h.general
  devices id hid := get?_of_not_changed Finset.subset_union_left fun hmem => hid (h.devices id hmem)
  deviceCodecs id hid :=
    mem_iff_of_not_changed Finset.subset_union_right fun hmem => hid (h.devices id hmem)
  lines number hnumber := get?_of_not_changed
    (Finset.subset_union_left.trans Finset.subset_union_left)
    fun hmem => hnumber (h.lines number hmem)
  lineFeatures number hnumber := get?_of_not_changed
    (Finset.subset_union_right.trans Finset.subset_union_left)
    fun hmem => hnumber (h.lines number hmem)
  lineCodecs number hnumber :=
    mem_iff_of_not_changed Finset.subset_union_right fun hmem => hnumber (h.lines number hmem)
  profiles name hname := get?_of_not_changed (Finset.Subset.refl _)
    fun hmem => hname (h.profiles name hmem)

theorem mem_devices {plan : ReloadPlan} {id : DeviceId} :
    id ∈ plan.devices ↔ id ∈ plan.added ∨ id ∈ plan.changed ∨ id ∈ plan.removed := by
  simp [ReloadPlan.devices]

theorem validate_ok {plan : ReloadPlan} (hselection : selection ≠ .complete)
    (h : selection.validate previous next plan = .ok ()) :
    Confined selection (.between previous next)
      ∧ ∀ id ∈ plan.devices, Consumes selection previous next id := by
  unfold ReloadSelection.validate at h
  dsimp only at h
  split at h
  · exact absurd rfl hselection
  · next device =>
    split at h
    · cases h
    split at h
    · next hall =>
      obtain ⟨hgeneral, hlines, hprofiles, hdevices, hplan, -, -⟩ := hall
      refine ⟨⟨hgeneral, fun id hid => ?_, by simp [hlines], by simp [hprofiles]⟩,
        fun id hid => .inl (congrArg _ (hplan id hid).symm)⟩
      rw [Finset.mem_singleton.mp (hdevices hid)]
    · cases h
  · next line =>
    split at h
    · cases h
    split at h
    · next hall =>
      obtain ⟨hgeneral, hdevices, hprofiles, hlines, hadded, hremoved, hplan, -⟩ := hall
      refine ⟨⟨hgeneral, by simp [hdevices], fun number hnumber => ?_, by simp [hprofiles]⟩,
        fun id hid => .inr (.inl ⟨line, rfl, hplan id ?_⟩)⟩
      · rw [Finset.mem_singleton.mp (hlines hnumber)]
      · rw [mem_devices, hadded, hremoved] at hid
        simpa using hid
    · cases h
  · next profile =>
    split at h
    · cases h
    split at h
    · next hall =>
      obtain ⟨hgeneral, hdevices, hlines, hprofiles, hadded, hremoved, hplan, -⟩ := hall
      refine ⟨⟨hgeneral, by simp [hdevices], by simp [hlines], fun name hname => ?_⟩,
        fun id hid => .inr (.inr ⟨profile, rfl, hplan id ?_⟩)⟩
      · rw [Finset.mem_singleton.mp (hprofiles hname)]
      · rw [mem_devices, hadded, hremoved] at hid
        simpa using hid
    · cases h

/-! ## Audio encryption -/

/-- Where an appearance takes its audio encryption from. -/
inductive AudioLevel where
  | line | device | general

def audioLevel (config : ModuleConfig) (binding : LineBinding) : AudioLevel :=
  if binding.line.number ∈ config.lineAudioEncryptionOverrides then .line
  else if binding.deviceId ∈ config.deviceAudioEncryptionOverrides then .device
  else .general

def audioSetting (general : GeneralConfig) (device : DeviceConfig) (features : LineFeatureConfig) :
    AudioLevel → MediaEncryptionPolicy
  | .line => features.media.audioEncryption
  | .device => device.media.audioEncryption
  | .general => general.audioEncryption

/-- Both configurations take the audio encryption of an appearance from the same place, or from
    places that are set alike. -/
def AudioKept (previous next : ModuleConfig) (binding : LineBinding) : Prop :=
  ∀ device features, previous.devices.get? binding.deviceId = some device →
    previous.lineFeatures.get? binding.line.number = some features →
    audioSetting previous.general device features (audioLevel previous binding)
      = audioSetting previous.general device features (audioLevel next binding)

theorem mediaForBinding_of_some {config : ModuleConfig} {device : DeviceConfig}
    {features : LineFeatureConfig} (hdevice : config.devices.get? binding.deviceId = some device)
    (hfeatures : config.lineFeatures.get? binding.line.number = some features) :
    config.mediaForBinding binding = some {
      codecs :=
        if binding.line.number ∈ config.lineCodecOverrides then features.media.codecs
        else if binding.deviceId ∈ config.deviceCodecOverrides then device.media.codecs
        else config.general.codecs
      audioEncryption := audioSetting config.general device features (audioLevel config binding)
      dtmfMode := device.media.dtmfMode
      directMedia := device.media.directMedia
      earlyMedia := device.media.earlyMedia
      videoMode := features.media.videoMode
      audioProcessing := features.media.audioProcessing } := by
  unfold ModuleConfig.mediaForBinding audioLevel
  rw [hdevice, hfeatures]
  dsimp only
  congr 2
  split
  · rfl
  · split <;> rfl

/-- The policy of an appearance that the reload does not concern is the same just when its audio
    encryption is. -/
theorem Kept.media_iff (h : Kept selection previous next) (hnot : ¬ Concerns selection binding) :
    previous.mediaForBinding binding = next.mediaForBinding binding
      ↔ AudioKept previous next binding := by
  have hdevice : selection ≠ .device binding.deviceId := fun heq => hnot (.inl heq)
  have hline : selection ≠ .line binding.line.number := fun heq => hnot (.inr heq)
  have hdevices := h.devices _ hdevice
  have hfeatures := h.lineFeatures _ hline
  cases hd : previous.devices.get? binding.deviceId with
  | none =>
    have hnext := hdevices.symm.trans hd
    refine iff_of_true ?_ fun device _ hsome => ?_
    · unfold ModuleConfig.mediaForBinding
      rw [hd, hnext]
    · rw [hd] at hsome
      cases hsome
  | some device =>
    cases hf : previous.lineFeatures.get? binding.line.number with
    | none =>
      have hnext := hfeatures.symm.trans hf
      refine iff_of_true ?_ fun _ features _ hsome => ?_
      · unfold ModuleConfig.mediaForBinding
        rw [hf, hnext]
        cases previous.devices.get? binding.deviceId <;>
          cases next.devices.get? binding.deviceId <;> rfl
      · rw [hf] at hsome
        cases hsome
    | some features =>
      rw [mediaForBinding_of_some hd hf, mediaForBinding_of_some (hdevices.symm.trans hd)
        (hfeatures.symm.trans hf), ← h.general]
      simp only [h.lineCodecs _ hline, h.deviceCodecs _ hdevice, Option.some.injEq,
        ResolvedMediaConfig.mk.injEq, true_and, and_true]
      constructor
      · intro heq device' features' hd' hf'
        cases hd.symm.trans hd'
        cases hf.symm.trans hf'
        exact heq
      · exact fun heq => heq device features hd hf

/-- The two configurations differ in the selected object only, and the plan is about the devices
    that it concerns. -/
structure ChangesOnly (selection : ReloadSelection) (previous next : ModuleConfig) : Prop where
  general : previous.general = next.general
  devices : ∀ id, selection ≠ .device id → previous.devices.get? id = next.devices.get? id
  lines : ∀ number, selection ≠ .line number → previous.lines.get? number = next.lines.get? number
  lineFeatures : ∀ number, selection ≠ .line number →
    previous.lineFeatures.get? number = next.lineFeatures.get? number
  profiles : ∀ name, selection ≠ .softKeyProfile name →
    previous.softKeyProfiles.get? name = next.softKeyProfiles.get? name
  media : ∀ binding ∈ previous.bindings ++ next.bindings, ¬ Concerns selection binding →
    previous.mediaForBinding binding = next.mediaForBinding binding
  plan : ∀ id ∈ (build previous next).devices, Consumes selection previous next id

/-- An accepted candidate changes the selected object only, just when no other appearance takes
    its audio encryption from elsewhere. -/
theorem changesOnly_iff (selection : ReloadSelection) (hselection : selection ≠ .complete)
    (previous next : ModuleConfig)
    (hvalid : selection.validate previous next (build previous next) = .ok ()) :
    ChangesOnly selection previous next
      ↔ ∀ binding ∈ previous.bindings ++ next.bindings, ¬ Concerns selection binding →
          AudioKept previous next binding := by
  obtain ⟨hconfined, hplan⟩ := validate_ok hselection hvalid
  have hkept := hconfined.kept
  constructor
  · exact fun h binding hmem hnot => (hkept.media_iff hnot).mp (h.media binding hmem hnot)
  · exact fun h => ⟨hkept.general, hkept.devices, hkept.lines, hkept.lineFeatures, hkept.profiles,
      fun binding hmem hnot => (hkept.media_iff hnot).mpr (h binding hmem hnot), hplan⟩

/-! ## Sample configurations -/

namespace Sample

def reloadGeneral : GeneralConfig := { interdigitTimeoutMs := 4000, codecs := [⟨4⟩] }

def reloadDevice (name line : String) (audioEncryption : MediaEncryptionPolicy) : DeviceConfig :=
  { id := ⟨name⟩, softKeyProfile := "default", media := { codecs := [⟨4⟩], audioEncryption }
    buttons := [.line { «instance» := 1, number := line }] }

/-- Two devices, one of which requires audio encryption; its line may set the general policy
    itself. -/
def reloadSections (lineSets : Bool) : Except ConfigError ModuleConfig :=
  fromSections reloadGeneral [{ name := "default" }]
    [{ line := { number := "1001" }, features := { media := { codecs := [⟨4⟩] } } },
      { line := { number := "1002" }, features := { media := { codecs := [⟨4⟩] } }
        hasAudioEncryptionSetting := lineSets }]
    [{ config := reloadDevice "SEP001122334455" "1001" {} },
      { config := reloadDevice "SEP112233445566" "1002"
          { requirement := .required, preferences := [.aes128HmacSha1_80] }
        hasAudioEncryptionSetting := true }]

def reloadBinding : LineBinding :=
  { deviceId := ⟨"SEP112233445566"⟩, lineInstance := 1, line := { number := "1002" }
    appearance := { «instance» := 1, number := "1002" } }

end Sample

/-- A reload of one device lets a change through that ends the encryption of another one's. -/
theorem reload_changes_other_appearance : ∃ previous next : ModuleConfig,
    Sample.reloadSections false = .ok previous ∧ Sample.reloadSections true = .ok next
      ∧ (ReloadSelection.device ⟨"SEP001122334455"⟩).validate previous next (build previous next)
        = .ok () ∧ ¬ ChangesOnly (.device ⟨"SEP001122334455"⟩) previous next := by
  refine ⟨_, _, rfl, rfl, by decide +kernel, fun h => ?_⟩
  have hmedia := h.media Sample.reloadBinding (by decide +kernel)
    (fun hconcerns => hconcerns.elim (by decide +kernel) (by decide +kernel))
  exact absurd hmedia (by decide +kernel)

theorem changesOnly_iff_of_other_appearance : ∃ previous next : ModuleConfig,
    Sample.reloadSections false = .ok previous ∧ Sample.reloadSections true = .ok next
      ∧ (ChangesOnly (.device ⟨"SEP001122334455"⟩) previous next
        ↔ ∀ binding ∈ previous.bindings ++ next.bindings,
            ¬ Concerns (.device ⟨"SEP001122334455"⟩) binding → AudioKept previous next binding) :=
  ⟨_, _, rfl, rfl, changesOnly_iff (.device ⟨"SEP001122334455"⟩) (by decide) _ _
    (by decide +kernel)⟩

end Sccp.Reload
