/-
  Sccp.Safety.Party

  What a handset has been shown after any history of party snapshots.

  Each field of the call information is one component of one party, and a snapshot does one of
  three things to it: a visible component replaces it, a restricted one clears it, and an absent
  one leaves it.  So nothing restricted is ever shown, nor does it leave a trace; but a party
  that comes with one component only inherits the other from the party before it.
-/

import Sccp.Pbx.Party
import Sccp.Lib.Runs

namespace Sccp.Party

open Sccp Runs

variable {info : CallInfo} {party party' : PartyIdentity} {text : Option String}
  {presentation : Presentation}

/-! ## Fitting a text -/

theorem utf8ByteSize_ofList_cons (c : Char) (rest : List Char) :
    (String.ofList (c :: rest)).utf8ByteSize = c.utf8Size + (String.ofList rest).utf8ByteSize := by
  have hcons : String.ofList (c :: rest) = String.singleton c ++ String.ofList rest := by
    rw [String.singleton_eq_ofList, ← String.ofList_append]
    rfl
  rw [hcons, String.utf8ByteSize_append, String.utf8ByteSize_singleton]

theorem charBoundary_le (value : List Char) (index : Nat) : charBoundary value index ≤ index := by
  induction index with
  | zero => exact Nat.le_refl 0
  | succ index ih =>
    unfold charBoundary
    split
    · exact Nat.le_refl _
    · exact Nat.le_succ_of_le ih

theorem isCharBoundary_zero (value : List Char) : isCharBoundary value 0 = true := by
  cases value <;> rfl

theorem isCharBoundary_charBoundary (value : List Char) (index : Nat) :
    isCharBoundary value (charBoundary value index) = true := by
  induction index with
  | zero => exact isCharBoundary_zero value
  | succ index ih =>
    unfold charBoundary
    split
    · assumption
    · exact ih

theorem sliceTo_prefix (value : List Char) (index : Nat) : sliceTo value index <+: value := by
  induction value generalizing index with
  | nil => exact List.prefix_refl []
  | cons c rest ih =>
    unfold sliceTo
    split
    · exact List.cons_prefix_cons.mpr ⟨rfl, ih _⟩
    · exact List.nil_prefix

/-- A slice at a character boundary ends there: none of its characters is cut. -/
theorem utf8ByteSize_sliceTo {value : List Char} {index : Nat}
    (h : isCharBoundary value index = true) :
    (String.ofList (sliceTo value index)).utf8ByteSize = index := by
  induction value generalizing index with
  | nil =>
    cases index with
    | zero => rfl
    | succ index => simp [isCharBoundary] at h
  | cons c rest ih =>
    have hpos : 0 < c.utf8Size := c.utf8Size_pos
    cases index with
    | zero =>
      rw [sliceTo, if_neg (by omega)]
      rfl
    | succ index =>
      simp only [isCharBoundary, Bool.and_eq_true, decide_eq_true_eq] at h
      rw [sliceTo, if_pos h.1, utf8ByteSize_ofList_cons, ih h.2]
      omega

/-- A text fits `shown` of it: a prefix of whole characters within the bytes of the field. -/
structure Fits (shown source : String) (maximumBytes : Nat) : Prop where
  isPrefix : shown.toList <+: source.toList
  size_le : shown.utf8ByteSize ≤ maximumBytes

theorem fitted_fits (value : String) (maximumBytes : Nat) :
    Fits (fitted value maximumBytes) value maximumBytes where
  isPrefix := by
    rw [fitted, String.toList_ofList]
    exact sliceTo_prefix _ _
  size_le := by
    rw [fitted, utf8ByteSize_sliceTo (isCharBoundary_charBoundary _ _)]
    exact Nat.le_trans (charBoundary_le _ _) (Nat.min_le_right _ _)

/-! ## One component -/

/-- What a field shows after one component of a party. -/
def shown (field : String) (text : Option String) (presentation : Presentation)
    (maximumBytes : Nat) : String :=
  if presentation.isAllowed then assignVisible field text maximumBytes else ""

/-- A field shows one component of a party and nothing else: the text of a visible component
    as far as it fits, and nothing for a component that is restricted or absent. -/
def Shows (field : String) (text : Option String) (presentation : Presentation)
    (maximumBytes : Nat) : Prop :=
  field = match if presentation.isAllowed then text else none with
    | some text => fitted text maximumBytes
    | none => ""

/-- An absent component of a party finds nothing in its field that could stay beside the other
    component. -/
def Vacant (field : String) (text : Option String) (presentation : Presentation) : Prop :=
  presentation.isAllowed = true → text = none → field = ""

/-- A field shows just one component of the party after a snapshot when an absent component
    found it empty. -/
theorem shows_shown_iff {field : String} {maximumBytes : Nat} :
    Shows (shown field text presentation maximumBytes) text presentation maximumBytes
      ↔ Vacant field text presentation := by
  unfold Shows shown Vacant
  cases presentation.isAllowed with
  | false => simp
  | true =>
    cases text with
    | none => simp [assignVisible]
    | some text => simp [assignVisible]

/-- Two texts of a component that an observer of the handset may not tell apart. -/
def SameText (presentation : Presentation) (text text' : Option String) : Prop :=
  if presentation.isAllowed then text = text' else text.isSome = text'.isSome

theorem SameText.isSome {text' : Option String} (h : SameText presentation text text') :
    text.isSome = text'.isSome := by
  unfold SameText at h
  split at h
  · rw [h]
  · exact h

theorem SameText.shown_eq {text' : Option String} (h : SameText presentation text text')
    (field : String) (maximumBytes : Nat) :
    shown field text presentation maximumBytes = shown field text' presentation maximumBytes := by
  unfold SameText at h
  unfold shown
  split
  · next hallowed => rw [if_pos hallowed] at h; rw [h]
  · rfl

/-! ## One update -/

/-- What `clearRestricted` makes of a field. -/
def cleared (field : String) (presentation : Presentation) : String :=
  if presentation.isAllowed then field else ""

variable (info)

/-- The name and the number shown of the remote side of an appearance. -/
def remoteName : String :=
  match info.direction with
  | .inbound => info.callingName
  | .outbound => info.calledName

def remoteNumber : String :=
  match info.direction with
  | .inbound => info.callingNumber
  | .outbound => info.calledNumber

/-- The call information with another name and number for the remote side. -/
def withRemote (name number : String) : CallInfo :=
  match info.direction with
  | .inbound => { info with callingName := name, callingNumber := number }
  | .outbound => { info with calledName := name, calledNumber := number }

theorem clearRestricted_eq (primary original redirecting : PartyIdentity) :
    clearRestricted info primary original redirecting =
      { withRemote info (cleared (remoteName info) primary.namePresentation)
          (cleared (remoteNumber info) primary.numberPresentation) with
        originalCalledName := cleared info.originalCalledName original.namePresentation
        originalCalledNumber := cleared info.originalCalledNumber original.numberPresentation
        lastRedirectingName := cleared info.lastRedirectingName redirecting.namePresentation
        lastRedirectingNumber :=
          cleared info.lastRedirectingNumber redirecting.numberPresentation } := by
  obtain ⟨direction⟩ := info
  unfold clearRestricted cleared
  cases direction <;>
    cases primary.namePresentation.isAllowed <;> cases primary.numberPresentation.isAllowed <;>
    cases original.namePresentation.isAllowed <;> cases original.numberPresentation.isAllowed <;>
    cases redirecting.namePresentation.isAllowed <;>
    cases redirecting.numberPresentation.isAllowed <;> rfl

theorem cleared_assignVisible (field : String) (text : Option String)
    (presentation : Presentation) (maximumBytes : Nat) :
    cleared (assignVisible field (if presentation.isAllowed then text else none) maximumBytes)
        presentation = shown field text presentation maximumBytes := by
  unfold cleared shown
  split <;> rfl

theorem apply_eq (update : PartyUpdate) : update.apply info
    = update.metadata.applyWithPrimary info (update.primary info.direction) := by
  cases update <;> rfl

/-- The reasons and the restriction mask that a snapshot leaves. -/
def partyRestrictions (s : PartySnapshot) (primary : PartyIdentity) : Nat :=
  if primary.isRestricted || s.redirectingOriginal.isRestricted || s.redirectingFrom.isRestricted
  then 0xf else 0

theorem applyWithPrimary_eq (s : PartySnapshot) (primary : PartyIdentity) :
    s.applyWithPrimary info primary =
      { withRemote info
          (shown (remoteName info) primary.name primary.namePresentation callInfoNameMaxBytes)
          (shown (remoteNumber info) primary.number primary.numberPresentation
            callInfoNumberMaxBytes) with
        originalCalledName := shown info.originalCalledName s.redirectingOriginal.name
          s.redirectingOriginal.namePresentation callInfoNameMaxBytes
        originalCalledNumber := shown info.originalCalledNumber s.redirectingOriginal.number
          s.redirectingOriginal.numberPresentation callInfoNumberMaxBytes
        lastRedirectingName := shown info.lastRedirectingName s.redirectingFrom.name
          s.redirectingFrom.namePresentation callInfoNameMaxBytes
        lastRedirectingNumber := shown info.lastRedirectingNumber s.redirectingFrom.number
          s.redirectingFrom.numberPresentation callInfoNumberMaxBytes
        originalRedirectReason := s.originalRedirectReason.toUInt32.toNat
        lastRedirectReason := s.redirectReason.toUInt32.toNat
        partyRestrictions := partyRestrictions s primary } := by
  obtain ⟨direction⟩ := info
  unfold PartySnapshot.applyWithPrimary
  rw [clearRestricted_eq]
  simp only [PartyIdentity.visibleName, PartyIdentity.visibleNumber, ← cleared_assignVisible]
  cases direction <;> rfl

variable {info}

/-! ## Fields and parties -/

/-- The name and the number of the appearance itself. -/
def localSide (info : CallInfo) : String × String :=
  match info.direction with
  | .inbound => (info.calledName, info.calledNumber)
  | .outbound => (info.callingName, info.callingNumber)

/-- A field of the call information, and the component of a party that it is for. -/
structure Field where
  shownIn : CallInfo → String
  text : PartyIdentity → Option String
  presentation : PartyIdentity → Presentation
  maximumBytes : Nat

def nameField (shownIn : CallInfo → String) : Field :=
  ⟨shownIn, PartyIdentity.name, PartyIdentity.namePresentation, callInfoNameMaxBytes⟩

def numberField (shownIn : CallInfo → String) : Field :=
  ⟨shownIn, PartyIdentity.number, PartyIdentity.numberPresentation, callInfoNumberMaxBytes⟩

/-- The parties that an update shows, each with its two fields. -/
def shownParties (info : CallInfo) (update : PartyUpdate) : List (PartyIdentity × List Field) :=
  [ (update.primary info.direction, [nameField remoteName, numberField remoteNumber]),
    (update.metadata.redirectingOriginal,
      [nameField CallInfo.originalCalledName, numberField CallInfo.originalCalledNumber]),
    (update.metadata.redirectingFrom,
      [nameField CallInfo.lastRedirectingName, numberField CallInfo.lastRedirectingNumber]) ]

/-- An update makes of every field what the component of its party makes of it. -/
theorem shownIn_apply {update : PartyUpdate} {fields : List Field}
    (hparty : (party, fields) ∈ shownParties info update) {f : Field} (hf : f ∈ fields) :
    f.shownIn (update.apply info)
      = shown (f.shownIn info) (f.text party) (f.presentation party) f.maximumBytes := by
  obtain ⟨direction⟩ := info
  rw [apply_eq, applyWithPrimary_eq]
  simp only [shownParties, List.mem_cons, List.not_mem_nil, or_false, Prod.mk.injEq] at hparty
  cases direction <;>
    rcases hparty with ⟨rfl, rfl⟩ | ⟨rfl, rfl⟩ | ⟨rfl, rfl⟩ <;>
    simp only [List.mem_cons, List.not_mem_nil, or_false] at hf <;>
    rcases hf with rfl | rfl <;> rfl

theorem localSide_apply (info : CallInfo) (update : PartyUpdate) :
    localSide (update.apply info) = localSide info := by
  obtain ⟨direction⟩ := info
  rw [apply_eq, applyWithPrimary_eq]
  cases direction <;> rfl

/-! ## What restricted texts leave -/

/-- Two parties that differ in the texts of restricted components only. -/
structure SameParty (party party' : PartyIdentity) : Prop where
  name : SameText party.namePresentation party.name party'.name
  number : SameText party.numberPresentation party.number party'.number
  nameCharset : party.nameCharset = party'.nameCharset
  namePresentation : party.namePresentation = party'.namePresentation
  numberPlan : party.numberPlan = party'.numberPlan
  numberPresentation : party.numberPresentation = party'.numberPresentation

structure SameSnapshot (s s' : PartySnapshot) : Prop where
  caller : SameParty s.caller s'.caller
  connected : SameParty s.connected s'.connected
  redirectingOriginal : SameParty s.redirectingOriginal s'.redirectingOriginal
  redirectingFrom : SameParty s.redirectingFrom s'.redirectingFrom
  redirectReason : s.redirectReason = s'.redirectReason
  originalRedirectReason : s.originalRedirectReason = s'.originalRedirectReason

/-- Two updates of one kind whose snapshots differ in restricted texts only. -/
inductive SameUpdate : PartyUpdate → PartyUpdate → Prop where
  | initialInbound {s s' : PartySnapshot} (h : SameSnapshot s s') :
      SameUpdate (.initialInbound s) (.initialInbound s')
  | snapshot {s s' : PartySnapshot} (h : SameSnapshot s s') :
      SameUpdate (.snapshot s) (.snapshot s')

theorem SameParty.isRestricted (h : SameParty party party') :
    party.isRestricted = party'.isRestricted := by
  unfold PartyIdentity.isRestricted
  rw [h.namePresentation, h.numberPresentation]

theorem SameParty.hasIdentity (h : SameParty party party') :
    party.hasIdentity = party'.hasIdentity := by
  unfold PartyIdentity.hasIdentity
  rw [h.name.isSome, h.number.isSome]

theorem SameUpdate.metadata {u u' : PartyUpdate} (h : SameUpdate u u') :
    SameSnapshot u.metadata u'.metadata := by
  cases h with
  | initialInbound h => exact h
  | snapshot h => exact h

theorem SameUpdate.primary {u u' : PartyUpdate} (h : SameUpdate u u')
    (direction : CallDirection) : SameParty (u.primary direction) (u'.primary direction) := by
  cases h with
  | initialInbound h => exact h.caller
  | @snapshot s s' h =>
    unfold PartyUpdate.primary PartySnapshot.primary
    cases direction with
    | inbound =>
      dsimp only
      rw [h.connected.hasIdentity]
      split
      · exact h.connected
      · exact h.caller
    | outbound => exact h.connected

theorem SameParty.shown_name (h : SameParty party party') (field : String) :
    shown field party.name party.namePresentation callInfoNameMaxBytes
      = shown field party'.name party'.namePresentation callInfoNameMaxBytes := by
  rw [h.name.shown_eq, h.namePresentation]

theorem SameParty.shown_number (h : SameParty party party') (field : String) :
    shown field party.number party.numberPresentation callInfoNumberMaxBytes
      = shown field party'.number party'.numberPresentation callInfoNumberMaxBytes := by
  rw [h.number.shown_eq, h.numberPresentation]

theorem SameSnapshot.partyRestrictions {s s' : PartySnapshot} (h : SameSnapshot s s')
    {p p' : PartyIdentity} (hp : SameParty p p') :
    Party.partyRestrictions s p = Party.partyRestrictions s' p' := by
  unfold Party.partyRestrictions
  rw [hp.isRestricted, h.redirectingOriginal.isRestricted, h.redirectingFrom.isRestricted]

/-- What an update makes of the call information does not depend on a restricted text. -/
theorem SameUpdate.apply_eq {u u' : PartyUpdate} (h : SameUpdate u u') (info : CallInfo) :
    u.apply info = u'.apply info := by
  have hprimary := h.primary info.direction
  have hs := h.metadata
  have horiginal := hs.redirectingOriginal
  have hfrom := hs.redirectingFrom
  rw [Party.apply_eq, Party.apply_eq, applyWithPrimary_eq, applyWithPrimary_eq,
    hprimary.shown_name, hprimary.shown_number, horiginal.shown_name, horiginal.shown_number,
    hfrom.shown_name, hfrom.shown_number, hs.redirectReason, hs.originalRedirectReason,
    hs.partyRestrictions hprimary]

/-- Nor does what a whole history leaves. -/
theorem run_apply_eq {updates updates' : List PartyUpdate}
    (h : List.Forall₂ SameUpdate updates updates') (info : CallInfo) :
    run PartyUpdate.apply info updates = run PartyUpdate.apply info updates' := by
  induction h generalizing info with
  | nil => rfl
  | cons hu _ ih =>
    change run _ (PartyUpdate.apply info _) _ = run _ (PartyUpdate.apply info _) _
    rw [hu.apply_eq, ih]

/-! ## Histories -/

/-- What one update of a history owes the handset. -/
structure Presented (info : CallInfo) (update : PartyUpdate) : Prop where
  /-- The fields of restricted components are empty. -/
  restricted : ∀ shownParty ∈ shownParties info update, ∀ f ∈ shownParty.2,
    (f.presentation shownParty.1).isAllowed = false → f.shownIn (update.apply info) = ""
  /-- Beside one component of a party nothing is shown but its other component. -/
  belongs : ∀ shownParty ∈ shownParties info update, shownParty.1.hasIdentity = true →
    ∀ f ∈ shownParty.2, Shows (f.shownIn (update.apply info)) (f.text shownParty.1)
      (f.presentation shownParty.1) f.maximumBytes
  /-- A text that is assigned is cut between characters. -/
  fits : ∀ shownParty ∈ shownParties info update, ∀ f ∈ shownParty.2,
    (f.presentation shownParty.1).isAllowed = true → ∀ text ∈ f.text shownParty.1,
      Fits (f.shownIn (update.apply info)) text f.maximumBytes
  keepsLocal : localSide (update.apply info) = localSide info

variable (info)

/-- A party with an identity finds the field of a component that it lacks empty. -/
def Unmixed (update : PartyUpdate) : Prop :=
  ∀ shownParty ∈ shownParties info update, shownParty.1.hasIdentity = true → ∀ f ∈ shownParty.2,
      Vacant (f.shownIn info) (f.text shownParty.1) (f.presentation shownParty.1)

theorem presented_iff (update : PartyUpdate) : Presented info update ↔ Unmixed info update := by
  constructor
  · intro h shownParty hparty hidentity f hf
    have hshows := h.belongs shownParty hparty hidentity f hf
    rw [shownIn_apply hparty hf] at hshows
    exact shows_shown_iff.mp hshows
  intro h
  refine ⟨fun shownParty hparty f hf hdenied => ?_, fun shownParty hparty hidentity f hf => ?_,
    fun shownParty hparty f hf hallowed text htext => ?_, localSide_apply info update⟩
  · rw [shownIn_apply hparty hf, shown, if_neg (by rw [hdenied]; nofun)]
  · rw [shownIn_apply hparty hf]
    exact shows_shown_iff.mpr (h shownParty hparty hidentity f hf)
  · rw [shownIn_apply hparty hf, shown, if_pos hallowed, Option.mem_def.mp htext]
    exact fitted_fits text f.maximumBytes

/-- What a history of updates owes the handset: restricted texts leave no trace in what it
    ends with, and each of its updates presents the parties. -/
def FaithfulHistory (updates : List PartyUpdate) : Prop :=
  (∀ updates', List.Forall₂ SameUpdate updates updates' →
      run PartyUpdate.apply info updates = run PartyUpdate.apply info updates')
    ∧ Each PartyUpdate.apply Presented info updates

/-- A history is faithful just when none of its parties with an identity lacks a component
    whose field is still filled. -/
theorem faithfulHistory_iff (updates : List PartyUpdate) :
    FaithfulHistory info updates ↔ Each PartyUpdate.apply Unmixed info updates := by
  have hsteps : Each PartyUpdate.apply Presented info updates
      ↔ Each PartyUpdate.apply Unmixed info updates :=
    each_congr (I := fun _ => True) (fun _ _ _ => trivial)
      (fun info update _ => presented_iff info update) trivial updates
  exact ⟨fun h => hsteps.mp h.2, fun h => ⟨fun _ hsame => run_apply_eq hsame info, hsteps.mpr h⟩⟩

variable {info}

/-- A transferred call shows the new number beside the name of the party before it. -/
theorem not_faithfulHistory_number_only : ¬ FaithfulHistory {}
    [.snapshot { connected := { name := some "Alice", number := some "1000" } },
      .snapshot { connected := { number := some "2000" } }] := by
  intro h
  have hunmixed := (presented_iff _ _).mp h.2.2.1
  have hvacant := hunmixed _ List.mem_cons_self rfl _ List.mem_cons_self rfl rfl
  exact absurd hvacant (by decide)

end Sccp.Party
