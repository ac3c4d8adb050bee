/-
  Sccp.Safety.InboundOffers

  Which of the candidates of a new inbound call ring, and when the call is
  forwarded or refused instead.  The selection is said over the list: first the
  candidates that can be shown, of these the first for every handset call, and of
  these the first for every button.  A candidate that repeats a handset call
  therefore does not reserve the button it names.
-/

import Sccp.Controller.Events
import Sccp.Ledger.Edits

namespace Sccp

/-! ## First occurrences -/

section Firsts

variable {α κ : Type*} [DecidableEq κ]

/-- The elements whose key occurs neither earlier in the list nor in `seen`. -/
def firstsBy (key : α → κ) (seen : List κ) : List α → List α
  | [] => []
  | a :: rest =>
    if key a ∈ seen then firstsBy key seen rest else a :: firstsBy key (key a :: seen) rest

theorem mem_of_mem_firstsBy {key : α → κ} {seen : List κ} {l : List α} {a : α}
    (h : a ∈ firstsBy key seen l) : a ∈ l ∧ key a ∉ seen := by
  induction l generalizing seen with
  | nil => cases h
  | cons b rest ih =>
    unfold firstsBy at h
    split at h
    · exact ⟨List.mem_cons_of_mem _ (ih h).1, (ih h).2⟩
    next hb =>
    rcases List.mem_cons.mp h with rfl | h
    · exact ⟨List.mem_cons_self, hb⟩
    · exact ⟨List.mem_cons_of_mem _ (ih h).1,
        fun hseen => (ih h).2 (List.mem_cons_of_mem _ hseen)⟩

theorem firstsBy_sublist (key : α → κ) (seen : List κ) (l : List α) :
    (firstsBy key seen l).Sublist l := by
  induction l generalizing seen with
  | nil => exact .slnil
  | cons a rest ih =>
    unfold firstsBy
    split
    · exact (ih seen).cons a
    · exact (ih (key a :: seen)).cons_cons a

theorem nodup_firstsBy (key : α → κ) (seen : List κ) (l : List α) :
    ((firstsBy key seen l).map key).Nodup := by
  induction l generalizing seen with
  | nil => exact List.nodup_nil
  | cons a rest ih =>
    unfold firstsBy
    split
    · exact ih seen
    rw [List.map_cons, List.nodup_cons]
    refine ⟨fun hmem => ?_, ih _⟩
    obtain ⟨b, hb, hkey⟩ := List.mem_map.mp hmem
    exact (mem_of_mem_firstsBy hb).2 (hkey ▸ List.mem_cons_self)

end Firsts

namespace Controller

variable (s : Controller)
variable {candidates : List InboundAppearance} {c : InboundAppearance}

/-! ## Who can be offered a call -/

/-- The button an inbound appearance is shown on. -/
def buttonOf (candidate : InboundAppearance) : DeviceId × Nat :=
  (candidate.binding.deviceId, candidate.binding.lineInstance)

variable (candidates)

/-- The line an inbound call is for: that of its first candidate. -/
def offeredLine : Option String :=
  candidates.head?.map (·.binding.line.number)

/-- The candidate shows the line, on a registered device, under a handset call that
    is not in use, and its button is not set to ignore calls. -/
def Presentable (line : Option String) (candidate : InboundAppearance) : Prop :=
  some candidate.binding.line.number = line ∧ s.devices.contains candidate.binding.deviceId = true
    ∧ candidate.binding.appearance.ringMode ≠ .disabled ∧ s.bySccp.contains candidate.callId = false

instance (line : Option String) : DecidablePred (s.Presentable line) := fun candidate => by
  unfold Presentable
  infer_instance

/-- The candidates that are considered: one for each handset call, and then one for
    each button. -/
def eligible : List InboundAppearance :=
  firstsBy buttonOf [] <| firstsBy (·.callId) [] <|
    candidates.filter fun candidate => s.Presentable (offeredLine candidates) candidate

def featuresOf (device : DeviceId) : DeviceFeatureState := (s.features.get? device).getD {}

/-- Where the device forwards a call to. -/
def divertsTo (device : DeviceId) : Option (ForwardingDestination × ForwardingRouteReason) :=
  match (s.featuresOf device).forwarding.all with
  | some destination => some (destination, .unconditional)
  | none =>
    if s.deviceIsBusy device then
      (s.featuresOf device).forwarding.busy.map fun destination => (destination, .busy)
    else none

/-- A candidate that neither rejects the call nor forwards it. -/
def CanRing (candidate : InboundAppearance) : Prop :=
  (s.featuresOf candidate.binding.deviceId).dnd ≠ .reject
    ∧ s.divertsTo candidate.binding.deviceId = none

instance : DecidablePred s.CanRing := fun candidate =>
  decidable_of_iff ((s.featuresOf candidate.binding.deviceId).dnd ≠ .reject
    ∧ (s.divertsTo candidate.binding.deviceId).isNone = true) (by simp [CanRing])

/-- The candidate as it rings: silently where the device asks for that. -/
def asRung (candidate : InboundAppearance) : InboundAppearance :=
  if (s.featuresOf candidate.binding.deviceId).dnd = .silent then
    { candidate with binding := { candidate.binding with
        appearance := { candidate.binding.appearance with ringMode := .silent } } }
  else candidate

/-- The candidates that ring. -/
def ringing : List InboundAppearance :=
  ((s.eligible candidates).filter fun candidate => s.CanRing candidate).map s.asRung

/-- Where the considered candidates that do not reject the call forward it to. -/
def diversions : List (ForwardingDestination × ForwardingRouteReason) :=
  ((s.eligible candidates).filter fun candidate =>
    (s.featuresOf candidate.binding.deviceId).dnd ≠ .reject).filterMap fun candidate =>
      s.divertsTo candidate.binding.deviceId

/-- The inbound calls of a line are below its limit. -/
def HasRoom (line : String) : Prop :=
  (s.pbx.values.filter fun call => call.direction = .inbound && call.line = line).length
    < (s.lineIncomingLimits.get? line).getD 6

/-- Inbound calls for the line of the candidates are below the limit of that line. -/
def HasRoomFor : Prop :=
  ∀ line ∈ offeredLine candidates, s.HasRoom line

variable {candidates}

@[simp] theorem asRung_callId (c : InboundAppearance) : (s.asRung c).callId = c.callId := by
  unfold asRung
  split <;> rfl

/-! ## The code's selection -/

theorem eligibleCandidates_eq (line : String) (seenCalls : List CallId)
    (seenButtons : List (DeviceId × Nat)) (candidates : List InboundAppearance) :
    (s.eligibleCandidates line seenCalls seenButtons candidates).1
      = firstsBy buttonOf seenButtons (firstsBy (·.callId) seenCalls
          (candidates.filter fun candidate => s.Presentable (some line) candidate)) := by
  induction candidates generalizing seenCalls seenButtons with
  | nil => rfl
  | cons c rest ih =>
    have hshown : s.Presentable (some line) c ↔ ¬ (c.binding.line.number ≠ line
        ∨ (!s.devices.contains c.binding.deviceId) = true
        ∨ c.binding.appearance.ringMode = .disabled ∨ s.bySccp.contains c.callId = true) := by
      simp [Presentable]
    unfold eligibleCandidates
    dsimp only
    by_cases hc : s.Presentable (some line) c
    · rw [List.filter_cons_of_pos (by simpa using hc)]
      by_cases hseen : c.callId ∈ seenCalls
      · -- the handset call is taken, so the button is not looked at
        rw [if_pos (by simp [hseen]), firstsBy, if_pos hseen]
        exact ih seenCalls seenButtons
      have hpass : ¬ (c.binding.line.number ≠ line
          ∨ (!s.devices.contains c.binding.deviceId) = true
          ∨ c.binding.appearance.ringMode = .disabled ∨ s.bySccp.contains c.callId = true
          ∨ c.callId ∈ seenCalls) := by
        have := hshown.mp hc
        tauto
      rw [if_neg hpass, firstsBy, if_neg hseen, firstsBy]
      by_cases hbutton : buttonOf c ∈ seenButtons
      · rw [if_pos (show (_, _) ∈ seenButtons from hbutton), if_pos hbutton]
        exact ih (c.callId :: seenCalls) seenButtons
      · rw [if_neg (show (_, _) ∉ seenButtons from hbutton), if_neg hbutton]
        exact congrArg (c :: ·) (ih (c.callId :: seenCalls) (buttonOf c :: seenButtons))
    · have hfail : c.binding.line.number ≠ line
          ∨ (!s.devices.contains c.binding.deviceId) = true
          ∨ c.binding.appearance.ringMode = .disabled ∨ s.bySccp.contains c.callId = true
          ∨ c.callId ∈ seenCalls := by
        have := hshown.not_left.mp hc
        tauto
      rw [List.filter_cons_of_neg (by simpa using hc), if_pos hfail]
      exact ih seenCalls seenButtons

theorem routeCandidate_eq (c : InboundAppearance) :
    s.routeCandidate c = if (s.featuresOf c.binding.deviceId).dnd = .reject then none
      else some ⟨s.asRung c, s.divertsTo c.binding.deviceId⟩ := by
  have hroute (device : DeviceId) : ((s.featuresOf device).forwarding.all.map fun d =>
        (d, ForwardingRouteReason.unconditional)).or
      ((if s.deviceIsBusy device then (s.featuresOf device).forwarding.busy else none).map
        fun d => (d, .busy)) = s.divertsTo device := by
    unfold divertsTo
    cases (s.featuresOf device).forwarding.all with
    | some destination => rfl
    | none => split <;> rfl
  unfold routeCandidate
  dsimp only
  rw [show (s.features.get? c.binding.deviceId).getD {} = s.featuresOf c.binding.deviceId from rfl]
  by_cases hreject : (s.featuresOf c.binding.deviceId).dnd = .reject
  · rw [if_pos hreject, if_pos hreject]
  rw [if_neg hreject, if_neg hreject]
  unfold asRung
  by_cases hsilent : (s.featuresOf c.binding.deviceId).dnd = .silent
  · simp only [if_pos hsilent, hroute]
  · simp only [if_neg hsilent, hroute]

/-- The routed candidates without a destination are those that ring. -/
theorem ringable_eq (l : List InboundAppearance) :
    ((l.filterMap s.routeCandidate).filter (·.route.isNone)).map (·.candidate)
      = (l.filter fun candidate => s.CanRing candidate).map s.asRung := by
  induction l with
  | nil => rfl
  | cons c rest ih =>
    by_cases hreject : (s.featuresOf c.binding.deviceId).dnd = .reject
    · have hroute : s.routeCandidate c = none := by rw [routeCandidate_eq, if_pos hreject]
      rw [List.filterMap_cons_none hroute, ih, List.filter_cons_of_neg]
      simp [CanRing, hreject]
    have hroute := (s.routeCandidate_eq c).trans (if_neg hreject)
    rw [List.filterMap_cons_some hroute]
    cases hdiverts : s.divertsTo c.binding.deviceId with
    | none =>
      rw [List.filter_cons_of_pos rfl, List.filter_cons_of_pos, List.map_cons, List.map_cons,
        ih]
      simp [CanRing, hreject, hdiverts]
    | some route =>
      rw [List.filter_cons_of_neg Bool.false_ne_true, List.filter_cons_of_neg, ih]
      simp [CanRing, hdiverts]

/-- The destinations of the routed candidates. -/
theorem forwarded_eq (l : List InboundAppearance) :
    ((l.filterMap s.routeCandidate).filterMap fun r =>
        r.route.map fun route => (r.candidate, route)).map Prod.snd
      = (l.filter fun candidate =>
          (s.featuresOf candidate.binding.deviceId).dnd ≠ .reject).filterMap fun candidate =>
            s.divertsTo candidate.binding.deviceId := by
  induction l with
  | nil => rfl
  | cons c rest ih =>
    by_cases hreject : (s.featuresOf c.binding.deviceId).dnd = .reject
    · have hroute : s.routeCandidate c = none := by rw [routeCandidate_eq, if_pos hreject]
      rw [List.filterMap_cons_none hroute, ih, List.filter_cons_of_neg]
      simp [hreject]
    have hroute := (s.routeCandidate_eq c).trans (if_neg hreject)
    rw [List.filterMap_cons_some hroute, List.filter_cons_of_pos (by simp [hreject])]
    cases hdiverts : s.divertsTo c.binding.deviceId with
    | none =>
      rw [List.filterMap_cons_none (by rfl), ih]
      simp only [List.filterMap_cons, hdiverts]
    | some route =>
      rw [List.filterMap_cons_some (by rfl), List.map_cons, ih]
      simp only [List.filterMap_cons, hdiverts]

theorem sameRoute_iff {destination : ForwardingDestination} {reason : ForwardingRouteReason}
    {route : ForwardingDestination × ForwardingRouteReason} :
    sameRoute destination reason route = true ↔ route = (destination, reason) := by
  obtain ⟨⟨text⟩, r⟩ := route
  obtain ⟨text'⟩ := destination
  unfold sameRoute
  cases r <;> cases reason <;> simp

/-! ## Attaching the appearances -/

/-- `s'` is `s` with the handset calls of `shown` added to a PBX call, each as a new
    ringing appearance, and nothing else of the four call tables changed. -/
structure Presented (pbxId : PbxCallId) (s s' : Controller)
    (shown : List (CallAppearanceId × InboundAppearance)) : Prop where
  fresh : ∀ x ∈ shown, s.appearances.get? x.1 = none
  nodup : (shown.map (·.1)).Nodup
  recorded : ∀ x ∈ shown, s'.appearances.get? x.1 = some (inboundCallAppearance x.1 pbxId x.2)
  indexed : ∀ x ∈ shown, s'.bySccp.get? x.2.callId = some x.1
  appearances : ∀ id ∉ shown.map (·.1), s'.appearances.get? id = s.appearances.get? id
  bySccp : ∀ callId ∉ shown.map (·.2.callId), s'.bySccp.get? callId = s.bySccp.get? callId
  byDevice : ∀ device id, id ∈ (s'.byDevice.get? device).getD []
    ↔ id ∈ (s.byDevice.get? device).getD []
      ∨ ∃ candidate, (id, candidate) ∈ shown ∧ candidate.binding.deviceId = device
  call : s'.pbx.get? pbxId = (s.pbx.get? pbxId).map fun call =>
    { call with appearanceIds := call.appearanceIds ++ shown.map (·.1) }
  calls : ∀ q, q ≠ pbxId → s'.pbx.get? q = s.pbx.get? q

variable {s} {s' s'' : Controller} {pbxId : PbxCallId}

theorem Presented.refl (pbxId : PbxCallId) (s : Controller) : Presented pbxId s s [] where
  fresh := fun _ hx => nomatch hx
  nodup := List.nodup_nil
  recorded := fun _ hx => nomatch hx
  indexed := fun _ hx => nomatch hx
  appearances := fun _ _ => rfl
  bySccp := fun _ _ => rfl
  byDevice := by simp
  call := by simp
  calls := fun _ _ => rfl

theorem Presented.trans {shown more : List (CallAppearanceId × InboundAppearance)}
    (h : Presented pbxId s s' shown) (h' : Presented pbxId s' s'' more)
    (hcalls : ∀ x ∈ shown, x.2.callId ∉ more.map (·.2.callId)) :
    Presented pbxId s s'' (shown ++ more) := by
  -- an id of the first part is taken when the second part chooses its ids
  have hids : ∀ x ∈ shown, x.1 ∉ more.map (·.1) := by
    intro x hx hmem
    obtain ⟨y, hy, hxy⟩ := List.mem_map.mp hmem
    have hnone := h'.fresh y hy
    rw [hxy, h.recorded x hx] at hnone
    cases hnone
  refine ⟨?_, ?_, ?_, ?_, ?_, ?_, ?_, ?_, ?_⟩
  · intro x hx
    rcases List.mem_append.mp hx with hx | hx
    · exact h.fresh x hx
    by_cases hold : x.1 ∈ shown.map (·.1)
    · obtain ⟨y, hy, hyx⟩ := List.mem_map.mp hold
      exact absurd (List.mem_map_of_mem hx) (hyx ▸ hids y hy)
    · rw [← h.appearances x.1 hold]
      exact h'.fresh x hx
  · rw [List.map_append, List.nodup_append]
    refine ⟨h.nodup, h'.nodup, fun a ha b hb hab => ?_⟩
    obtain ⟨x, hx, rfl⟩ := List.mem_map.mp ha
    exact hids x hx (hab ▸ hb)
  · intro x hx
    rcases List.mem_append.mp hx with hx | hx
    · rw [h'.appearances x.1 (hids x hx)]
      exact h.recorded x hx
    · exact h'.recorded x hx
  · intro x hx
    rcases List.mem_append.mp hx with hx | hx
    · rw [h'.bySccp x.2.callId (hcalls x hx)]
      exact h.indexed x hx
    · exact h'.indexed x hx
  · intro id hid
    rw [List.map_append, List.mem_append, not_or] at hid
    rw [h'.appearances id hid.2, h.appearances id hid.1]
  · intro callId hid
    rw [List.map_append, List.mem_append, not_or] at hid
    rw [h'.bySccp callId hid.2, h.bySccp callId hid.1]
  · intro device id
    rw [h'.byDevice, h.byDevice, or_assoc]
    refine or_congr_right ?_
    constructor
    · rintro (⟨c, hc, hdevice⟩ | ⟨c, hc, hdevice⟩)
      · exact ⟨c, List.mem_append_left _ hc, hdevice⟩
      · exact ⟨c, List.mem_append_right _ hc, hdevice⟩
    rintro ⟨c, hc, hdevice⟩
    rcases List.mem_append.mp hc with hc | hc
    · exact .inl ⟨c, hc, hdevice⟩
    · exact .inr ⟨c, hc, hdevice⟩
  · rw [h'.call, h.call, Option.map_map, List.map_append]
    refine congrArg (Option.map · _) (funext fun call => ?_)
    simp
  · intro q hq
    rw [h'.calls q hq, h.calls q hq]

/-- A new appearance of a known call is attached under a fresh id. -/
theorem attach_presented (hcall : s.pbx.contains pbxId = true)
    (hnew : s.bySccp.get? c.callId = none) {id : CallAppearanceId}
    (hid : s.appearances.get? id = none) :
    ∃ s', s.attachAppearance (inboundCallAppearance id pbxId c) = (s', true)
      ∧ Presented pbxId s s' [(id, c)] ∧ s'.nextAppearanceId = s.nextAppearanceId := by
  have hguard : (!s.pbx.contains pbxId || s.appearances.contains id
      || s.bySccp.contains c.callId) = false := by
    rw [hcall, Table.not_contains_iff.mpr hid, Table.not_contains_iff.mpr hnew]
    rfl
  refine ⟨_, if_neg (ne_true_of_eq_false hguard), ?_, rfl⟩
  refine ⟨?_, List.nodup_singleton _, ?_, ?_, ?_, ?_, ?_, ?_, ?_⟩
  · intro x hx
    rw [List.mem_singleton.mp hx]
    exact hid
  · intro x hx
    rw [List.mem_singleton.mp hx]
    exact (Table.get?_insert ..).trans (if_pos rfl)
  · intro x hx
    rw [List.mem_singleton.mp hx]
    exact (Table.get?_insert ..).trans (if_pos rfl)
  · intro x hx
    exact (Table.get?_insert ..).trans (if_neg fun h => hx (List.mem_singleton.mpr h))
  · intro x hx
    exact (Table.get?_insert ..).trans (if_neg fun h => hx (List.mem_singleton.mpr h))
  · intro device x
    show x ∈ ((s.byDevice.insert c.binding.deviceId _).get? device).getD [] ↔ _
    rw [Table.get?_insert]
    by_cases hdevice : device = c.binding.deviceId
    · rw [if_pos hdevice, hdevice, Option.getD_some, List.mem_insert_iff, or_comm]
      refine or_congr_right ⟨fun h => ⟨c, List.mem_singleton.mpr (h ▸ rfl), rfl⟩, ?_⟩
      rintro ⟨c', hc', -⟩
      exact congrArg Prod.fst (List.mem_singleton.mp hc')
    rw [if_neg hdevice]
    refine ⟨.inl, fun h => h.resolve_right ?_⟩
    rintro ⟨c', hc', rfl⟩
    exact absurd (congrArg (·.2.binding.deviceId) (List.mem_singleton.mp hc')) hdevice
  · exact (Table.get?_modify ..).trans (if_pos rfl)
  · intro q hq
    exact (Table.get?_modify ..).trans (if_neg hq)

/-- What tells one offer from another. -/
def offered (candidate : InboundAppearance) : DeviceId × Nat × CallId × AppearanceRingMode :=
  (candidate.binding.deviceId, candidate.binding.lineInstance, candidate.callId,
    candidate.binding.appearance.ringMode)

def InboundOffer.identity (offer : InboundOffer) : DeviceId × Nat × CallId × AppearanceRingMode :=
  (offer.deviceId, offer.lineInstance, offer.callId, offer.ringMode)

/-- Every candidate under an unused handset call of its own gets an appearance. -/
theorem attachOffers_presented (hcall : s.pbx.contains pbxId = true)
    (hnew : ∀ c ∈ candidates, s.bySccp.get? c.callId = none)
    (hdistinct : (candidates.map (·.callId)).Nodup) :
    ∃ shown, Presented pbxId s (attachOffers pbxId s candidates).1 shown
      ∧ shown.map (·.2) = candidates
      ∧ (attachOffers pbxId s candidates).2.map InboundOffer.identity = candidates.map offered := by
  induction candidates generalizing s with
  | nil => exact ⟨[], .refl pbxId s, rfl, rfl⟩
  | cons c rest ih =>
    rw [List.map_cons, List.nodup_cons] at hdistinct
    obtain ⟨s₁, hattach, hone, -⟩ := attach_presented (s := s.allocateAppearanceId.1) (c := c)
      hcall (hnew c List.mem_cons_self) s.allocateAppearanceId_fresh
    have hcall₁ : s₁.pbx.contains pbxId = true := by
      obtain ⟨call, hget⟩ := Table.contains_iff.mp hcall
      exact Table.contains_iff.mpr ⟨_, hone.call.trans (congrArg (Option.map _) hget)⟩
    have hother : ∀ d ∈ rest, d.callId ≠ c.callId := fun d hd heq =>
      hdistinct.1 (heq ▸ List.mem_map_of_mem hd)
    have hnew₁ : ∀ d ∈ rest, s₁.bySccp.get? d.callId = none := by
      intro d hd
      rw [hone.bySccp d.callId (by simpa using hother d hd)]
      exact hnew d (List.mem_cons_of_mem _ hd)
    obtain ⟨more, hmore, hsnd, hids⟩ := ih hcall₁ hnew₁ hdistinct.2
    have hrun : attachOffers pbxId s (c :: rest) = ((attachOffers pbxId s₁ rest).1,
        s₁.inboundOffer c :: (attachOffers pbxId s₁ rest).2) := by
      rw [attachOffers]
      dsimp only
      rw [hattach]
    rw [hrun]
    refine ⟨(s.allocateAppearanceId.2, c) :: more, ?_, ?_, ?_⟩
    · have hfirst : Presented pbxId s s₁ [(s.allocateAppearanceId.2, c)] :=
        ⟨hone.fresh, hone.nodup, hone.recorded, hone.indexed, hone.appearances, hone.bySccp,
          hone.byDevice, hone.call, hone.calls⟩
      refine hfirst.trans hmore fun x hx hmem => ?_
      rw [List.mem_singleton.mp hx] at hmem
      obtain ⟨y, hy, hyc⟩ := List.mem_map.mp hmem
      exact hother y.2 (hsnd ▸ List.mem_map_of_mem hy) hyc
    · rw [List.map_cons, hsnd]
    · rw [List.map_cons, List.map_cons, hids]
      rfl

variable (s)

variable (candidates) in
theorem nodup_eligible : ((s.eligible candidates).map (·.callId)).Nodup :=
  (nodup_firstsBy _ _ _).sublist ((firstsBy_sublist _ _ _).map _)

theorem presentable_of_mem_eligible (h : c ∈ s.eligible candidates) :
    s.Presentable (offeredLine candidates) c :=
  of_decide_eq_true (List.mem_filter.mp (mem_of_mem_firstsBy (mem_of_mem_firstsBy h).1).1).2

variable (candidates) in
theorem nodup_ringing : ((s.ringing candidates).map (·.callId)).Nodup := by
  unfold ringing
  rw [List.map_map, show (·.callId) ∘ s.asRung = (·.callId) from funext s.asRung_callId]
  exact (s.nodup_eligible candidates).sublist (List.filter_sublist.map _)

theorem unused_of_mem_ringing (h : c ∈ s.ringing candidates) : s.bySccp.get? c.callId = none := by
  obtain ⟨c', hc', rfl⟩ := List.mem_map.mp h
  rw [s.asRung_callId]
  exact Table.not_contains_iff.mp
    (s.presentable_of_mem_eligible (List.mem_filter.mp hc').1).2.2.2

/-! ## The disposition -/

/-- What becomes of a new inbound call.  It is offered to every candidate that can
    ring, each under a new appearance; or it is forwarded; and otherwise nothing has
    happened. -/
structure Disposed (pbxId : PbxCallId) (candidates : List InboundAppearance) (s : Controller)
    (outcome : Controller × InboundCallDisposition) : Prop where
  offers : (∃ offers, outcome.2 = .offer offers)
    ↔ s.ringing candidates ≠ [] ∧ s.HasRoomFor candidates
  rings : ∀ offers, outcome.2 = .offer offers →
    offers.map InboundOffer.identity = (s.ringing candidates).map offered
      ∧ ∃ line context shown, offeredLine candidates = some line
        ∧ shown.map (·.2) = s.ringing candidates
        ∧ Presented pbxId { s with pbx := s.pbx.insert pbxId (inboundCall pbxId line context) }
            outcome.1 shown
  forwards : ∀ destination reason,
    (∃ binding, outcome.2 = .forward binding destination reason)
      ↔ s.ringing candidates = [] ∧ s.diversions candidates ≠ []
        ∧ ∀ route ∈ s.diversions candidates, route = (destination, reason)
  keeps : (∀ offers, outcome.2 ≠ .offer offers) → outcome.1 = s

variable {s}

theorem Disposed.unavailable {reason : InboundUnavailableReason}
    (hoffer : s.ringing candidates ≠ [] → ¬ s.HasRoomFor candidates)
    (hforward : s.ringing candidates = [] → ∀ r, r ∈ s.diversions candidates →
      ∃ r' ∈ s.diversions candidates, r' ≠ r) :
    Disposed pbxId candidates s (s, .unavailable reason) where
  offers := ⟨fun ⟨_, h⟩ => (nomatch h), fun h => absurd h.2 (hoffer h.1)⟩
  rings := fun _ h => nomatch h
  forwards := fun destination reason => by
    refine ⟨fun ⟨_, h⟩ => (nomatch h), fun ⟨hring, hne, hall⟩ => ?_⟩
    obtain ⟨r, hr⟩ := List.exists_mem_of_ne_nil _ hne
    obtain ⟨r', hr', hdiff⟩ := hforward hring r hr
    exact absurd ((hall r' hr').trans (hall r hr).symm) hdiff
  keeps := fun _ => rfl

/-- The offers of a call that has candidates to ring and room on its line. -/
theorem Disposed.offer {others : List InboundAppearance} {line : String} {first : InboundAppearance}
    (hnew : s.pbx.get? pbxId = none) (hline : offeredLine candidates = some line)
    (hroom : s.HasRoom line) (hring : s.ringing candidates = first :: others) :
    Disposed pbxId candidates s
      (let s := s.reservePbxId pbxId
       let (s, appearanceId) := s.allocateAppearanceId
       match s.insertPbxCall (inboundCall pbxId line first.binding.line.context)
         (inboundCallAppearance appearanceId pbxId first) with
       | (s, false) => (s, .unavailable .conflict)
       | (s, true) =>
         let offer := s.inboundOffer first
         let (s, offers) := attachOffers pbxId s others
         (s, .offer (offer :: offers))) := by
  have hnodup := s.nodup_ringing candidates
  have hunused : ∀ c ∈ s.ringing candidates, s.bySccp.get? c.callId = none :=
    fun _ hc => s.unused_of_mem_ringing hc
  rw [hring] at hnodup hunused
  -- the call is recorded first; the loop over the others then starts one step late
  let call := inboundCall pbxId line first.binding.line.context
  let s₀ : Controller :=
    { s.reservePbxId pbxId with pbx := (s.reservePbxId pbxId).pbx.insert pbxId call }
  have hcall : s₀.pbx.contains pbxId = true :=
    Table.contains_iff.mpr ⟨call, (Table.get?_insert ..).trans (if_pos rfl)⟩
  obtain ⟨shown, hshown, hsnd, hids⟩ :=
    attachOffers_presented hcall hunused hnodup
  obtain ⟨s₁, hattach, -, -⟩ := attach_presented (s := s₀.allocateAppearanceId.1) (c := first)
    hcall (hunused first List.mem_cons_self) s₀.allocateAppearanceId_fresh
  have hrun : attachOffers pbxId s₀ (first :: others) = ((attachOffers pbxId s₁ others).1,
      s₁.inboundOffer first :: (attachOffers pbxId s₁ others).2) := by
    rw [attachOffers]
    dsimp only
    rw [hattach]
  have hinsert : (s.reservePbxId pbxId).allocateAppearanceId.1.insertPbxCall call
      (inboundCallAppearance s₀.allocateAppearanceId.2 pbxId first) = (s₁, true) := by
    have hguard : ¬ (call.id ≠ pbxId ∨ call.appearanceIds ≠ []
        ∨ s.pbx.contains call.id = true) := by
      rintro (h | h | h)
      · exact h rfl
      · exact h rfl
      · obtain ⟨v, hv⟩ := Table.contains_iff.mp h
        cases hnew.symm.trans hv
    refine (if_neg hguard).trans ?_
    erw [hattach]
  have heq : (let s := s.reservePbxId pbxId
       let (s, appearanceId) := s.allocateAppearanceId
       match s.insertPbxCall call (inboundCallAppearance appearanceId pbxId first) with
       | (s, false) => (s, .unavailable .conflict)
       | (s, true) =>
         let offer := s.inboundOffer first
         let (s, offers) := attachOffers pbxId s others
         (s, .offer (offer :: offers)))
      = ((attachOffers pbxId s₀ (first :: others)).1,
          InboundCallDisposition.offer (attachOffers pbxId s₀ (first :: others)).2) := by
    rw [hrun]
    dsimp only
    rw [show (s.reservePbxId pbxId).allocateAppearanceId.2 = s₀.allocateAppearanceId.2 from rfl,
      hinsert]
  rw [heq]
  refine ⟨⟨fun _ => ⟨hring ▸ List.cons_ne_nil _ _, fun line' hline' => ?_⟩, fun _ => ⟨_, rfl⟩⟩,
    fun offers h => ?_, fun destination reason => ⟨fun h => ?_, fun h => ?_⟩,
    fun h => absurd rfl (h _)⟩
  · cases hline.symm.trans hline'
    exact hroom
  · cases h
    rw [hring]
    exact ⟨hids, line, first.binding.line.context, shown, hline, hsnd, hshown.fresh, hshown.nodup,
      hshown.recorded, hshown.indexed, hshown.appearances, hshown.bySccp, hshown.byDevice,
      hshown.call, hshown.calls⟩
  · cases h.choose_spec
  · rw [hring] at h
    cases h.1

/-- A new inbound call is offered, forwarded or refused by its candidates. -/
theorem offerInboundCallWithPolicy_disposed (s : Controller) (pbxId : PbxCallId)
    (candidates : List InboundAppearance) (hnew : s.pbx.get? pbxId = none) :
    Disposed pbxId candidates s (s.offerInboundCallWithPolicy pbxId candidates) := by
  unfold offerInboundCallWithPolicy
  rw [if_neg (by rw [Table.not_contains_iff.mpr hnew]; exact Bool.false_ne_true)]
  cases candidates with
  | nil =>
    refine .unavailable (fun h => absurd rfl h) fun _ r hr => ?_
    cases hr
  | cons head rest =>
    dsimp only [List.head?]
    have hline : offeredLine (head :: rest) = some head.binding.line.number := rfl
    have heligible : (s.eligibleCandidates head.binding.line.number [] [] (head :: rest)).1
        = s.eligible (head :: rest) := s.eligibleCandidates_eq ..
    rw [heligible]
    have hring : _ = s.ringing (head :: rest) := s.ringable_eq (s.eligible (head :: rest))
    have hforward : _ = s.diversions (head :: rest) := s.forwarded_eq (s.eligible (head :: rest))
    split
    · next hnone =>
      rw [hnone] at hring
      split
      · next hempty =>
        rw [hempty] at hforward
        refine .unavailable (fun h => absurd hring.symm h) fun _ r hr => ?_
        rw [← hforward] at hr
        cases hr
      next first destination reason more hmore =>
      rw [hmore] at hforward
      split
      · next hany =>
        obtain ⟨r, hr, hdiff⟩ := List.any_eq_true.mp hany
        have hne : r.2 ≠ (destination, reason) := fun h => by
          rw [sameRoute_iff.mpr h] at hdiff
          cases hdiff
        refine .unavailable (fun h => absurd hring.symm h) fun _ q hq => ?_
        by_cases hqd : q = (destination, reason)
        · rw [hmore] at hr
          exact ⟨r.2, hforward ▸ List.mem_map_of_mem hr, hqd ▸ hne⟩
        · exact ⟨_, hforward ▸ List.mem_cons_self, fun h => hqd h.symm⟩
      · next hany =>
        have hall : ∀ r ∈ (first, destination, reason) :: more,
            r.2 = (destination, reason) := by
          intro r hr
          rw [← sameRoute_iff]
          by_contra hdiff
          rw [Bool.not_eq_true] at hdiff
          refine hany (List.any_eq_true.mpr ⟨r, hmore ▸ hr, ?_⟩)
          rw [hdiff]
          rfl
        refine ⟨⟨fun ⟨_, h⟩ => (nomatch h), fun h => absurd hring.symm h.1⟩,
          fun _ h => (nomatch h), fun d r => ⟨?_, fun h => ?_⟩, fun _ => rfl⟩
        · rintro ⟨binding, h⟩
          cases h
          refine ⟨hring.symm, hforward ▸ List.cons_ne_nil _ _, fun route hroute => ?_⟩
          rw [← hforward] at hroute
          obtain ⟨x, hx, rfl⟩ := List.mem_map.mp hroute
          exact hall x hx
        · have hfirst := h.2.2 (destination, reason) (hforward ▸ List.mem_cons_self)
          cases hfirst
          exact ⟨_, rfl⟩
    · next first others hsome =>
      rw [hsome] at hring
      split
      · next hfull =>
        refine .unavailable (fun _ h => Nat.not_lt.mpr hfull (h _ hline)) fun h => ?_
        rw [← hring] at h
        cases h
      · next hroom => exact .offer hnew hline (Nat.not_le.mp hroom) hring.symm

/-! ## Repeated candidates -/

/-- The candidates that share neither handset call nor button with an earlier one: an
    earlier one that was itself left out counts if `all` is set. -/
def apart (all : Bool) (before : List InboundAppearance) :
    List InboundAppearance → List InboundAppearance
  | [] => []
  | c :: rest =>
    if ∀ b ∈ before, b.callId ≠ c.callId ∧ buttonOf b ≠ buttonOf c then
      c :: apart all (before ++ [c]) rest
    else apart all (if all then before ++ [c] else before) rest

/-- The handset calls an inbound call is offered to. -/
def offeredCalls (s : Controller) (pbxId : PbxCallId) (candidates : List InboundAppearance) :
    List CallId :=
  match (s.offerInboundCallWithPolicy pbxId candidates).2 with
  | .offer offers => offers.map (·.callId)
  | _ => []

end Controller

namespace Sample

/-- The desk, registered and idle. -/
def deskOnly : Controller := (Controller.withDigitTimeouts 15000 3000).run [register desk]

/-- A candidate on one of the buttons of the desk. -/
def deskButton (callId lineInstance : Nat) : InboundAppearance :=
  { callId := ⟨callId⟩, binding := { binding desk with lineInstance }, codec }

/-- The second candidate repeats the handset call of the first, and the third has the
    button of the second. -/
def repeatedCall : List InboundAppearance := [deskButton 1 1, deskButton 1 2, deskButton 2 2]

/-- The second candidate repeats the button of the first, and the third has the handset
    call of the second. -/
def repeatedButton : List InboundAppearance := [deskButton 1 1, deskButton 2 1, deskButton 2 3]

end Sample

open Sample in
/-- A candidate with a repeated handset call does not reserve its button, and one with a
    repeated button does reserve its handset call. -/
theorem Controller.not_offered_apart :
    deskOnly.offeredCalls ⟨7⟩ repeatedCall = [⟨1⟩, ⟨2⟩]
      ∧ (apart true [] (repeatedCall.filter fun c =>
          deskOnly.Presentable (offeredLine repeatedCall) c)).map (·.callId) = [⟨1⟩]
      ∧ deskOnly.offeredCalls ⟨7⟩ repeatedButton = [⟨1⟩]
      ∧ (apart false [] (repeatedButton.filter fun c =>
          deskOnly.Presentable (offeredLine repeatedButton) c)).map (·.callId) = [⟨1⟩, ⟨2⟩] := by
  decide

open Sample in
theorem Controller.offerInboundCallWithPolicy_disposed_repeatedCall :
    Disposed ⟨7⟩ repeatedCall deskOnly (deskOnly.offerInboundCallWithPolicy ⟨7⟩ repeatedCall) :=
  offerInboundCallWithPolicy_disposed deskOnly ⟨7⟩ repeatedCall (by decide)

end Sccp
