/-
  Sccp.Safety.Audio

  What audio negotiation promises and when it keeps the promise.

  A codec is `usable` when it is configured, stands for a format of the PBX and, once the
  station has reported its capabilities, some entry of the report offers it with packets of
  the default length.  The negotiation reads only the first entry of a codec, and it looks
  for a representable codec only among those the station names.
-/

import Sccp.Media.Audio

namespace Sccp.Media

open Message (MediaCapability)

/-! ## The promise -/

/-- The codecs in the order of the preference: the station's, else the configured one. -/
def preference (configured : List StationCodec) (station : Option (List MediaCapability)) :
    List StationCodec :=
  station.elim configured fun capabilities => capabilities.map (·.codec)

/-- Some PBX format stands for the codec. -/
def representable (codec : StationCodec) : Bool := (pbxAudioFormat codec).isOk

def entryAdequate (codec : StationCodec) (entry : MediaCapability) : Bool :=
  entry.codec = codec && DEFAULT_AUDIO_PACKET_MS ≤ entry.maxPacketMs

/-- The first entry of the codec is adequate, if there is a list of entries. -/
def firstAdequate (station : Option (List MediaCapability)) (codec : StationCodec) : Bool :=
  station.all fun capabilities =>
    (capabilities.find? (·.codec = codec)).any (entryAdequate codec)

instance : LawfulBEq StationCodec := inferInstance

/-- The codec is configured, maps into the PBX's set and is offered by the station. -/
def usable (configured : List StationCodec) (station : Option (List MediaCapability))
    (pbx : List PbxAudioFormat) (codec : StationCodec) : Bool :=
  codec ∈ configured && (pbxAudioFormat codec).toOption.any (· ∈ pbx)
    && station.all (·.any (entryAdequate codec))

/-- The promise on one input. -/
structure Negotiates (configured : List StationCodec)
    (station : Option (List MediaCapability)) (pbx : List PbxAudioFormat) : Prop where
  succeeds : (∃ audio, negotiateAudio configured station pbx = .ok audio)
    ↔ ∃ codec, usable configured station pbx codec
  chosen : ∀ audio, negotiateAudio configured station pbx = .ok audio →
    pbxAudioFormat audio.codec = .ok audio.pbxFormat
      ∧ (preference configured station).find? (usable configured station pbx) = some audio.codec
  noRepresentable : negotiateAudio configured station pbx = .error .noRepresentableConfiguredCodec
      ↔ ∀ codec ∈ configured, ¬ representable codec
  noMutual : negotiateAudio configured station pbx = .error .noMutualCodec
    ↔ (∃ codec ∈ configured, representable codec) ∧ ∀ codec, ¬ usable configured station pbx codec
  keeps : ∀ capabilities entry audio, station = some capabilities →
    negotiateAudio configured station pbx = .ok audio →
    negotiateAudio configured (some (capabilities ++ [entry])) pbx = .ok audio

/-- The first usable codec is usable by its first entry; and if any configured codec is
    representable, the station names one that is both. -/
def FirstEntriesSuffice (configured : List StationCodec)
    (station : Option (List MediaCapability)) (pbx : List PbxAudioFormat) : Prop :=
  ∀ capabilities, station = some capabilities →
    (∀ codec, (capabilities.map (·.codec)).find? (usable configured station pbx) = some codec →
      firstAdequate station codec) ∧ ((∃ codec ∈ configured, representable codec) →
      ∃ entry ∈ capabilities, entry.codec ∈ configured ∧ representable entry.codec)

/-! ## The loop -/

/-- What the loop returns at a codec it does not pass over. -/
def offer (station : Option (List MediaCapability)) (pbx : List PbxAudioFormat)
    (codec : StationCodec) : Option NegotiatedAudio :=
  match pbxAudioFormat codec with
  | .error _ => none
  | .ok pbxFormat =>
    if pbxFormat ∈ pbx ∧ firstAdequate station codec then
      some ⟨codec, pbxFormat, DEFAULT_AUDIO_PACKET_MS, DEFAULT_AUDIO_MAX_FRAMES_PER_PACKET⟩
    else none

/-- The first entry of a codec passes the packet check unless its packets are too short. -/
theorem passes_iff (station : Option (List MediaCapability)) (codec : StationCodec) :
    (station.isSome && (stationMaxPacketMs station codec).all (· < DEFAULT_AUDIO_PACKET_MS))
      = !firstAdequate station codec := by
  cases station with
  | none => rfl
  | some capabilities =>
    show (true && ((capabilities.find? (·.codec = codec)).map (·.maxPacketMs)).all _)
      = !((capabilities.find? (·.codec = codec)).any (entryAdequate codec))
    cases hfound : capabilities.find? (·.codec = codec) with
    | none => rfl
    | some entry =>
      have hcodec : entry.codec = codec := by simpa using List.find?_some hfound
      simp only [Option.map_some, Option.all_some, Option.any_some, entryAdequate, hcodec,
        decide_true, Bool.true_and, ← decide_not, UInt32.not_le]

theorem selectAudio_eq (station : Option (List MediaCapability)) (pbx : List PbxAudioFormat)
    (hasRepresentable : Bool) (codecs : List StationCodec) :
    selectAudio station pbx hasRepresentable codecs
      = match codecs.findSome? (offer station pbx) with
        | some audio => .ok audio
        | none => .error (if hasRepresentable || codecs.any representable then .noMutualCodec
            else .noRepresentableConfiguredCodec) := by
  induction codecs generalizing hasRepresentable with
  | nil => simp [selectAudio]
  | cons codec rest ih =>
    unfold selectAudio
    rw [List.findSome?_cons, List.any_cons]
    cases hformat : pbxAudioFormat codec with
    | error e => simp only [ih, offer, representable, hformat, Except.isOk, Except.toBool,
        Bool.false_or]
    | ok pbxFormat =>
      have hrep : representable codec = true := by
        rw [representable, hformat]; rfl
      simp only [ih, offer, hformat, hrep, passes_iff, Bool.true_or, Bool.or_true, ite_true,
        Bool.not_eq_true']
      by_cases hmem : pbxFormat ∈ pbx
      · cases hpass : firstAdequate station codec <;> simp [hmem]
      · simp [hmem]

/-! ## The order -/

theorem foldl_keep_findSome? {β : Type} (f : StationCodec → Option β)
    (codecs kept : List StationCodec) :
    (codecs.foldl (fun kept codec => if codec ∈ kept then kept else kept ++ [codec]) kept).findSome?
        f = (kept ++ codecs).findSome? f := by
  induction codecs generalizing kept with
  | nil => rw [List.foldl_nil, List.append_nil]
  | cons codec rest ih =>
    rw [List.foldl_cons, ih]
    by_cases hmem : codec ∈ kept
    · rw [if_pos hmem, List.findSome?_append, List.findSome?_append, List.findSome?_cons]
      cases hfound : kept.findSome? f with
      | some b => rfl
      | none => rw [List.findSome?_eq_none_iff.mp hfound codec hmem]
    · rw [if_neg hmem, List.append_assoc, List.singleton_append]

theorem mem_foldl_keep (codecs kept : List StationCodec) (codec : StationCodec) :
    codec ∈ codecs.foldl (fun kept codec => if codec ∈ kept then kept else kept ++ [codec]) kept
      ↔ codec ∈ kept ∨ codec ∈ codecs := by
  induction codecs generalizing kept with
  | nil => simp
  | cons first rest ih =>
    rw [List.foldl_cons, ih]
    by_cases hmem : first ∈ kept
    · rw [if_pos hmem, List.mem_cons]
      constructor
      · exact fun h => h.imp_right .inr
      rintro (h | rfl | h)
      · exact .inl h
      · exact .inl hmem
      · exact .inr h
    · rw [if_neg hmem, List.mem_append, List.mem_singleton, List.mem_cons, or_assoc]

theorem mem_orderedCodecs (configured : List StationCodec)
    (station : Option (List MediaCapability)) (codec : StationCodec) :
    codec ∈ orderedCodecs configured station
      ↔ codec ∈ preference configured station ∧ codec ∈ configured := by
  cases station with
  | none => exact ⟨fun h => ⟨h, h⟩, And.left⟩
  | some capabilities =>
    show codec ∈ withoutRepeats _ ↔ codec ∈ capabilities.map (·.codec) ∧ _
    rw [withoutRepeats, mem_foldl_keep, List.mem_filter, decide_eq_true_eq]
    exact ⟨fun h => h.resolve_left (List.not_mem_nil), .inr⟩

/-- What the loop would return at a configured codec. -/
def choice (configured : List StationCodec) (station : Option (List MediaCapability))
    (pbx : List PbxAudioFormat) (codec : StationCodec) : Option NegotiatedAudio :=
  if codec ∈ configured then offer station pbx codec else none

theorem filter_findSome? {β : Type} (configured codecs : List StationCodec)
    (f : StationCodec → Option β) : (codecs.filter (· ∈ configured)).findSome? f
      = codecs.findSome? fun codec => if codec ∈ configured then f codec else none := by
  induction codecs with
  | nil => rfl
  | cons codec rest ih =>
    rw [List.findSome?_cons]
    by_cases hmem : codec ∈ configured
    · rw [List.filter_cons_of_pos (by simpa using hmem), List.findSome?_cons, ih, if_pos hmem]
    · rw [List.filter_cons_of_neg (by simpa using hmem), ih, if_neg hmem]

theorem orderedCodecs_findSome? (configured : List StationCodec)
    (station : Option (List MediaCapability)) (pbx : List PbxAudioFormat) :
    (orderedCodecs configured station).findSome? (offer station pbx)
      = (preference configured station).findSome? (choice configured station pbx) := by
  refine Eq.trans ?_ (filter_findSome? configured _ (offer station pbx))
  cases station with
  | none =>
    show configured.findSome? _ = (configured.filter (· ∈ configured)).findSome? _
    rw [List.filter_eq_self.mpr (by simp)]
  | some capabilities =>
    show (withoutRepeats _).findSome? _ = _
    rw [withoutRepeats, foldl_keep_findSome?, List.nil_append]
    rfl

theorem findSome?_eq_bind {β : Type} (f : StationCodec → Option β) (codecs : List StationCodec) :
    codecs.findSome? f = (codecs.find? fun codec => (f codec).isSome).bind f := by
  induction codecs with
  | nil => rfl
  | cons codec rest ih =>
    rw [List.findSome?_cons, List.find?_cons]
    cases hf : f codec with
    | none => exact ih
    | some b => exact hf.symm

/-- A codec is chosen when it is usable by its first entry. -/
theorem choice_isSome (configured : List StationCodec)
    (station : Option (List MediaCapability)) (pbx : List PbxAudioFormat) (codec : StationCodec) :
    (choice configured station pbx codec).isSome
      = (usable configured station pbx codec && firstAdequate station codec) := by
  have hsome : firstAdequate station codec = true →
      station.all (·.any (entryAdequate codec)) = true := by
    cases station with
    | none => exact fun _ => rfl
    | some capabilities =>
      intro h
      obtain ⟨entry, hfound, hfit⟩ := (Option.any_eq_true ..).mp h
      exact List.any_eq_true.mpr ⟨entry, List.mem_of_find?_eq_some hfound, hfit⟩
  unfold choice offer usable
  cases hformat : pbxAudioFormat codec with
  | error e => simp [Except.toOption]
  | ok pbxFormat =>
    by_cases hmem : codec ∈ configured <;> by_cases hpbx : pbxFormat ∈ pbx <;>
      cases hfirst : firstAdequate station codec <;>
      simp [hmem, hpbx, Except.toOption, hsome, hfirst]

theorem choice_some {configured : List StationCodec}
    {station : Option (List MediaCapability)} {pbx : List PbxAudioFormat}
    {codec : StationCodec} {audio : NegotiatedAudio}
    (h : choice configured station pbx codec = some audio) :
    audio.codec = codec ∧ pbxAudioFormat codec = .ok audio.pbxFormat := by
  unfold choice offer at h
  split at h
  · split at h
    · cases h
    next pbxFormat hformat =>
      split at h
      · cases h
        exact ⟨rfl, hformat⟩
      · cases h
  · cases h

theorem negotiateAudio_eq (configured : List StationCodec)
    (station : Option (List MediaCapability)) (pbx : List PbxAudioFormat) :
    negotiateAudio configured station pbx
      = match (preference configured station).findSome? (choice configured station pbx) with
        | some audio => .ok audio
        | none => .error (if (orderedCodecs configured station).any representable
            then .noMutualCodec else .noRepresentableConfiguredCodec) := by
  rw [negotiateAudio, selectAudio_eq, orderedCodecs_findSome?, Bool.false_or]

/-! ## When the promise is kept -/

theorem find?_and {p q : StationCodec → Bool} {codecs : List StationCodec}
    (h : ∀ codec, codecs.find? p = some codec → q codec) :
    (codecs.find? fun codec => p codec && q codec) = codecs.find? p := by
  induction codecs with
  | nil => rfl
  | cons codec rest ih =>
    rw [List.find?_cons] at h ⊢
    rw [List.find?_cons]
    cases hp : p codec with
    | false =>
      rw [hp] at h
      exact ih h
    | true =>
      rw [hp] at h
      rw [h codec rfl]
      rfl

variable {configured : List StationCodec} {station : Option (List MediaCapability)}
  {pbx : List PbxAudioFormat}

theorem usable_mem_preference {codec : StationCodec} (h : usable configured station pbx codec) :
    codec ∈ preference configured station ∧ codec ∈ configured ∧ representable codec := by
  simp only [usable, Bool.and_eq_true, decide_eq_true_eq] at h
  obtain ⟨⟨hmem, hmaps⟩, hoffered⟩ := h
  refine ⟨?_, hmem, ?_⟩
  · cases station with
    | none => exact hmem
    | some capabilities =>
      obtain ⟨entry, hentry, hfit⟩ := List.any_eq_true.mp hoffered
      simp only [entryAdequate, Bool.and_eq_true, decide_eq_true_eq] at hfit
      exact List.mem_map.mpr ⟨entry, hentry, hfit.1⟩
  · unfold representable
    cases hformat : pbxAudioFormat codec with
    | error e => rw [hformat] at hmaps; cases hmaps
    | ok pbxFormat => rfl

/-- A success, read back: the first codec that is usable by its first entry. -/
theorem negotiateAudio_ok {audio : NegotiatedAudio}
    (h : negotiateAudio configured station pbx = .ok audio) :
    (preference configured station).findSome? (choice configured station pbx) = some audio
      ∧ (preference configured station).find? (fun codec =>
        usable configured station pbx codec && firstAdequate station codec) = some audio.codec
      ∧ pbxAudioFormat audio.codec = .ok audio.pbxFormat := by
  rw [negotiateAudio_eq] at h
  cases hpick : (preference configured station).findSome? (choice configured station pbx) with
  | none => rw [hpick] at h; cases h
  | some picked =>
    rw [hpick] at h
    cases h
    rw [findSome?_eq_bind] at hpick
    obtain ⟨codec, hfind, hchoice⟩ := Option.bind_eq_some_iff.mp hpick
    obtain ⟨rfl, hformat⟩ := choice_some hchoice
    simp only [choice_isSome] at hfind
    exact ⟨rfl, hfind, hformat⟩

/-- A failure, read back: no codec is usable by its first entry, and the error says whether
    a codec that was tried is representable. -/
theorem negotiateAudio_error {error : AudioNegotiationError}
    (h : negotiateAudio configured station pbx = .error error) :
    (preference configured station).find? (fun codec =>
        usable configured station pbx codec && firstAdequate station codec) = none
      ∧ error = if (orderedCodecs configured station).any representable then .noMutualCodec
        else .noRepresentableConfiguredCodec := by
  rw [negotiateAudio_eq] at h
  cases hpick : (preference configured station).findSome? (choice configured station pbx) with
  | some picked => rw [hpick] at h; cases h
  | none =>
    rw [hpick] at h
    cases h
    refine ⟨?_, rfl⟩
    rw [List.findSome?_eq_none_iff] at hpick
    rw [List.find?_eq_none]
    intro codec hmem
    rw [← choice_isSome, hpick codec hmem]
    simp

/-- Entries at the end are read only by codecs that had none. -/
theorem negotiateAudio_append {capabilities : List MediaCapability} {audio : NegotiatedAudio}
    (h : negotiateAudio configured (some capabilities) pbx = .ok audio) (entry : MediaCapability) :
    negotiateAudio configured (some (capabilities ++ [entry])) pbx = .ok audio := by
  have hsame : ∀ codec ∈ capabilities.map (·.codec),
      choice configured (some (capabilities ++ [entry])) pbx codec
        = choice configured (some capabilities) pbx codec := by
    intro codec hmem
    obtain ⟨first, hfirst, rfl⟩ := List.mem_map.mp hmem
    have hfound : (capabilities ++ [entry]).find? (·.codec = first.codec)
        = capabilities.find? (·.codec = first.codec) := by
      rw [List.find?_append]
      cases hfind : capabilities.find? (·.codec = first.codec) with
      | some found => rfl
      | none => exact absurd (by simp) (List.find?_eq_none.mp hfind first hfirst)
    have hfit : firstAdequate (some (capabilities ++ [entry])) first.codec
        = firstAdequate (some capabilities) first.codec := by
      simp only [firstAdequate, Option.all_some, hfound]
    unfold choice offer
    rw [hfit]
  obtain ⟨before, codec, after, hsplit, hchoice, hnone⟩ :=
    List.findSome?_eq_some_iff.mp (negotiateAudio_ok h).1
  have hsplit' : capabilities.map (·.codec) = before ++ codec :: after := hsplit
  have hpick : (preference configured (some (capabilities ++ [entry]))).findSome?
      (choice configured (some (capabilities ++ [entry])) pbx) = some audio := by
    refine List.findSome?_eq_some_iff.mpr ⟨before, codec, after ++ [entry.codec], ?_, ?_, ?_⟩
    · show (capabilities ++ [entry]).map (·.codec) = _
      rw [List.map_append, hsplit', List.append_assoc]
      rfl
    · rw [hsame codec (by rw [hsplit']; simp)]
      exact hchoice
    · intro other hother
      rw [hsame other (by rw [hsplit']; exact List.mem_append_left _ hother)]
      exact hnone other hother
  rw [negotiateAudio_eq, hpick]

/-- Negotiation keeps its promise exactly when the first usable codec is usable by its first
    entry and the station's list does not hide that a configured codec is representable. -/
theorem negotiates_iff (configured : List StationCodec)
    (station : Option (List MediaCapability)) (pbx : List PbxAudioFormat) :
    Negotiates configured station pbx ↔ FirstEntriesSuffice configured station pbx := by
  constructor
  · rintro h capabilities rfl
    constructor
    · intro codec hfirst
      obtain ⟨audio, hok⟩ := h.succeeds.mpr ⟨codec, List.find?_some hfirst⟩
      have hcodec : some audio.codec = some codec :=
        (h.chosen audio hok).2.symm.trans hfirst
      have hstrong := List.find?_some (negotiateAudio_ok hok).2.1
      rw [Option.some.inj hcodec, Bool.and_eq_true] at hstrong
      exact hstrong.2
    intro hrep
    cases hresult : negotiateAudio configured (some capabilities) pbx with
    | ok audio =>
      obtain ⟨codec, husable⟩ := h.succeeds.mp ⟨audio, hresult⟩
      obtain ⟨hpref, hmem, hmaps⟩ := usable_mem_preference husable
      obtain ⟨entry, hentry, rfl⟩ := List.mem_map.mp hpref
      exact ⟨entry, hentry, hmem, hmaps⟩
    | error error =>
      cases error with
      | noRepresentableConfiguredCodec =>
        obtain ⟨codec, hmem, hmaps⟩ := hrep
        exact absurd hmaps (h.noRepresentable.mp hresult codec hmem)
      | noMutualCodec =>
        have herror := (negotiateAudio_error hresult).2
        by_cases hany : (orderedCodecs configured (some capabilities)).any representable
        · obtain ⟨codec, hordered, hmaps⟩ := List.any_eq_true.mp hany
          obtain ⟨hpref, hmem⟩ := (mem_orderedCodecs _ _ _).mp hordered
          obtain ⟨entry, hentry, rfl⟩ := List.mem_map.mp hpref
          exact ⟨entry, hentry, hmem, hmaps⟩
        · rw [if_neg hany] at herror
          cases herror
  · intro h
    -- the loop stops at the first usable codec
    have hfirst : (preference configured station).find? (fun codec =>
          usable configured station pbx codec && firstAdequate station codec)
        = (preference configured station).find? (usable configured station pbx) := by
      refine find?_and fun codec hcodec => ?_
      cases station with
      | none => rfl
      | some capabilities => exact (h capabilities rfl).1 codec hcodec
    have hnone : ∀ error, negotiateAudio configured station pbx = .error error →
        ∀ codec, ¬ usable configured station pbx codec := by
      intro error herror codec husable
      have hfind := (negotiateAudio_error herror).1
      rw [hfirst, List.find?_eq_none] at hfind
      exact hfind codec (usable_mem_preference husable).1 husable
    -- the flag of the loop says whether a configured codec is representable
    have hflag : (orderedCodecs configured station).any representable
        ↔ ∃ codec ∈ configured, representable codec := by
      rw [List.any_eq_true]
      constructor
      · rintro ⟨codec, hordered, hmaps⟩
        exact ⟨codec, ((mem_orderedCodecs _ _ _).mp hordered).2, hmaps⟩
      intro hrep
      cases station with
      | none => exact hrep
      | some capabilities =>
        obtain ⟨entry, hentry, hmem, hmaps⟩ := (h capabilities rfl).2 hrep
        exact ⟨entry.codec, (mem_orderedCodecs _ _ _).mpr
          ⟨List.mem_map.mpr ⟨entry, hentry, rfl⟩, hmem⟩, hmaps⟩
    have hok : ∀ audio, negotiateAudio configured station pbx = .ok audio →
        (preference configured station).find? (usable configured station pbx)
          = some audio.codec := fun audio haudio => hfirst ▸ (negotiateAudio_ok haudio).2.1
    cases hresult : negotiateAudio configured station pbx with
    | ok audio =>
      have husable := List.find?_some (hok audio hresult)
      obtain ⟨_, hmem, hmaps⟩ := usable_mem_preference husable
      refine ⟨⟨fun _ => ⟨_, husable⟩, fun _ => ⟨audio, hresult⟩⟩, ?_, ?_, ?_, ?_⟩
      · exact fun other hother => ⟨(negotiateAudio_ok hother).2.2, hok other hother⟩
      · rw [hresult]
        exact ⟨fun h => (nomatch h), fun h => absurd hmaps (h _ hmem)⟩
      · rw [hresult]
        exact ⟨fun h => (nomatch h), fun h => absurd husable (h.2 _)⟩
      · rintro capabilities entry other rfl hother
        exact negotiateAudio_append hother entry
    | error error =>
      have hunusable := hnone error hresult
      have herror := (negotiateAudio_error hresult).2
      refine ⟨⟨?_, ?_⟩, ?_, ?_, ?_, ?_⟩
      · rintro ⟨audio, haudio⟩
        rw [hresult] at haudio
        cases haudio
      · rintro ⟨codec, husable⟩
        exact absurd husable (hunusable codec)
      · intro audio haudio
        rw [hresult] at haudio
        cases haudio
      · rw [hresult, herror]
        by_cases hany : (orderedCodecs configured station).any representable
        · obtain ⟨codec, hmem, hmaps⟩ := hflag.mp hany
          rw [if_pos hany]
          exact ⟨fun h => (nomatch h), fun h => absurd hmaps (h codec hmem)⟩
        · rw [if_neg hany]
          exact ⟨fun _ codec hmem hmaps => hany (hflag.mpr ⟨codec, hmem, hmaps⟩), fun _ => rfl⟩
      · rw [hresult, herror]
        by_cases hany : (orderedCodecs configured station).any representable
        · rw [if_pos hany]
          exact ⟨fun _ => ⟨hflag.mp hany, hunusable⟩, fun _ => rfl⟩
        · rw [if_neg hany]
          exact ⟨fun h => (nomatch h), fun h => absurd (hflag.mpr h.1) hany⟩
      · rintro capabilities entry audio rfl haudio
        rw [hresult] at haudio
        cases haudio

namespace Sample

def pcmu : StationCodec := .ofWire 4

def g722 : StationCodec := .ofWire 6

def capability (codec : StationCodec) (maxPacketMs : UInt32) : MediaCapability :=
  ⟨codec, maxPacketMs, ⟨List.replicate 8 0, rfl⟩⟩

end Sample

/-- A codec listed twice is judged by its first entry, and a station that names none of the
    configured codecs makes the configured ones look unsupported. -/
theorem negotiates_misses : ¬ Negotiates [Sample.pcmu]
        (some [Sample.capability Sample.pcmu 10, Sample.capability Sample.pcmu 20]) [.g711Ulaw]
      ∧ ¬ Negotiates [Sample.pcmu] (some [Sample.capability Sample.g722 20]) [.g711Ulaw] := by
  constructor
  · intro h
    obtain ⟨audio, haudio⟩ := h.succeeds.mpr ⟨Sample.pcmu, by decide +kernel⟩
    exact absurd haudio (by
      have : negotiateAudio [Sample.pcmu]
          (some [Sample.capability Sample.pcmu 10, Sample.capability Sample.pcmu 20])
          [.g711Ulaw] = .error .noMutualCodec := by rfl
      rw [this]
      exact fun h => nomatch h)
  · intro h
    have hrep : ¬ representable Sample.pcmu :=
      h.noRepresentable.mp (by rfl) Sample.pcmu List.mem_cons_self
    exact hrep rfl

end Sccp.Media
