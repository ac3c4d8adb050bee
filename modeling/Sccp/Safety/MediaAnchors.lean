/-
  Sccp.Safety.MediaAnchors

  Anchored periods.  What has happened to the anchors of a call says which of
  its leases live, which restore plan was remembered first since it was last
  without one, and how often a restore has started since.  The counts and plans
  of the owner agree with that, and a restore starts only for the one lease that
  is left, with the first plan, and once.
-/

import Sccp.Safety.MediaRequests

namespace Sccp

/-! ## The anchored period of a call -/

/-- A call from the moment it is anchored until its last lease goes. -/
structure Period (C : Type) where
  leases : List Nat := []
  plan : Option C := none
  restores : Nat := 0

namespace Period

variable {C : Type}

/-- The period of a call after one more action. -/
def after (call : PbxCallId) (p : Period C) : AnchorAction C → Period C
  | .acquired id c restore =>
    if c = call then { p with leases := p.leases ++ [id], plan := p.plan.or restore } else p
  | .released id c =>
    if c = call then
      if without p.leases id = [] then {} else { p with leases := without p.leases id }
    else p
  | .removed c => if c = call then {} else p
  | .restoring _ c _ => if c = call then { p with restores := p.restores + 1 } else p

/-- The call that an action is about. -/
def subject : AnchorAction C → PbxCallId
  | .acquired _ c _ => c
  | .released _ c => c
  | .removed c => c
  | .restoring _ c _ => c

theorem after_of_ne {call : PbxCallId} {a : AnchorAction C} (h : subject a ≠ call)
    (p : Period C) : p.after call a = p := by
  cases a <;> exact if_neg h

/-- The period of a call after a series of actions. -/
def of (call : PbxCallId) (actions : List (AnchorAction C)) : Period C :=
  actions.foldl (after call) {}

theorem of_append (call : PbxCallId) (actions : List (AnchorAction C)) (a : AnchorAction C) :
    of call (actions ++ [a]) = after call (of call actions) a := by
  unfold of
  rw [List.foldl_append, List.foldl_cons, List.foldl_nil]

/-- Every restore starts for the last lease, with the plan remembered first, and
    is the first of its period. -/
def Lawful (actions : List (AnchorAction C)) : Prop :=
  ∀ pre id c plan post, actions = pre ++ .restoring id c plan :: post →
    of c pre = { leases := [id], plan := some plan, restores := 0 }

theorem lawful_append {actions : List (AnchorAction C)} {a : AnchorAction C} (h : Lawful actions)
    (ha : ∀ id c plan, a = .restoring id c plan →
      of c actions = { leases := [id], plan := some plan, restores := 0 }) :
    Lawful (actions ++ [a]) := by
  intro pre id c plan post hsplit
  rcases List.eq_nil_or_concat post with rfl | ⟨init, last, rfl⟩
  · obtain ⟨hpre, hlast⟩ := List.append_inj' hsplit rfl
    rw [← hpre]
    exact ha id c plan (List.cons.inj hlast).1
  have hsplit' : actions ++ [a] = (pre ++ .restoring id c plan :: init) ++ [last] := by
    rw [hsplit, List.append_assoc]
    simp
  obtain ⟨hold, _⟩ := List.append_inj' hsplit' rfl
  exact h pre id c plan init hold

end Period

namespace MediaOwner

variable {C : Type} {o o' : MediaOwner C}
variable {ended : Option PbxCallId} {anchor : OwnedAnchor}

def period (o : MediaOwner C) (c : PbxCallId) : Period C := Period.of c o.trace.actions

/-- The number of live leases of a call for a reason. -/
def liveCount (o : MediaOwner C) (c : PbxCallId) (reason : MediaAnchorReason) : Nat :=
  o.leases.count fun _ anchor => anchor = { callId := c, reason }

/-! ## The invariant -/

/-- The owner agrees with the period of a call.  A restore that has been started
    in it is still running, unless it has just ended. -/
structure Agrees (ended : Bool) (o : MediaOwner C) (c : PbxCallId) (p : Period C) : Prop where
  leases : ∀ id, id ∈ p.leases ↔ ∃ reason, o.leases.get? id = some { callId := c, reason }
  nodup : p.leases.Nodup
  plan : p.plan = o.restores.get? c
  idle : p.leases = [] → p = {}
  busy : ended = false → p.restores ≠ 0 → ∃ w id plan, o.workers.get? w = some (.restore id c plan)
  working : ∀ w id plan, o.workers.get? w = some (.restore id c plan) →
    p.leases = [id] ∨ p.leases = []

/-- The registries agree with the periods of all calls. -/
structure Anchored (ended : Option PbxCallId) (o : MediaOwner C) : Prop where
  calls : ∀ c, Agrees (ended = some c) o c (o.period c)
  counts : ∀ c reason, (o.anchors.counts.get? (c, reason)).getD 0 = o.liveCount c reason
  positive : ∀ k n, o.anchors.counts.get? k = some n → 0 < n
  old : ∀ id anchor, o.leases.get? id = some anchor → id < o.nextId
  lawful : Period.Lawful o.trace.actions

theorem Agrees.congr {ended : Bool} {c : PbxCallId} {p : Period C} (h : Agrees ended o c p)
    (hleases : ∀ id, (∃ reason, o'.leases.get? id = some { callId := c, reason })
      ↔ ∃ reason, o.leases.get? id = some { callId := c, reason })
    (hrestores : o'.restores.get? c = o.restores.get? c)
    (hworkers : ∀ w id plan, o'.workers.get? w = some (.restore id c plan)
      ↔ o.workers.get? w = some (.restore id c plan)) : Agrees ended o' c p where
  leases := fun id => (h.leases id).trans (hleases id).symm
  nodup := h.nodup
  plan := h.plan.trans hrestores.symm
  idle := h.idle
  busy := by
    intro hended hp
    obtain ⟨w, id, plan, hw⟩ := h.busy hended hp
    exact ⟨w, id, plan, (hworkers w id plan).mpr hw⟩
  working := fun w id plan hw => h.working w id plan ((hworkers w id plan).mp hw)

theorem Anchored.congr (h : Anchored ended o) (hleases : o'.leases = o.leases)
    (hrestores : o'.restores = o.restores) (hanchors : o'.anchors = o.anchors)
    (hid : o.nextId ≤ o'.nextId)
    (hworkers : ∀ w id c plan, o'.workers.get? w = some (.restore id c plan)
      ↔ o.workers.get? w = some (.restore id c plan))
    (hactions : o'.trace.actions = o.trace.actions) : Anchored ended o' where
  calls := by
    intro c
    have hperiod : o'.period c = o.period c := by
      unfold period
      rw [hactions]
    rw [hperiod]
    exact (h.calls c).congr (fun id => by rw [hleases]) (by rw [hrestores])
      fun w id plan => hworkers w id c plan
  counts := by
    unfold liveCount
    rw [hleases, hanchors]
    exact h.counts
  positive := hanchors ▸ h.positive
  old := by
    intro id anchor hget
    rw [hleases] at hget
    exact Nat.lt_of_lt_of_le (h.old id anchor hget) hid
  lawful := hactions ▸ h.lawful

/-- An action is about one call, and the others do not notice it. -/
theorem Anchored.act {ended' : Option PbxCallId} {a : AnchorAction C} {d : PbxCallId}
    (h : Anchored ended o) (hd : Period.subject a = d)
    (hended : ∀ c, c ≠ d → ended = some c → ended' = some c)
    (hleases : ∀ id c reason, c ≠ d → (o'.leases.get? id = some { callId := c, reason }
      ↔ o.leases.get? id = some { callId := c, reason }))
    (hrestores : ∀ c, c ≠ d → o'.restores.get? c = o.restores.get? c)
    (hworkers : ∀ w id c plan, c ≠ d → (o'.workers.get? w = some (.restore id c plan)
      ↔ o.workers.get? w = some (.restore id c plan)))
    (hactions : o'.trace.actions = o.trace.actions ++ [a])
    (hagrees : Agrees (ended' = some d) o' d ((o.period d).after d a))
    (hcounts : ∀ c reason, (o'.anchors.counts.get? (c, reason)).getD 0 = o'.liveCount c reason)
    (hpositive : ∀ k n, o'.anchors.counts.get? k = some n → 0 < n)
    (hold : ∀ id anchor, o'.leases.get? id = some anchor → id < o'.nextId)
    (hlawful : ∀ id c plan, a = .restoring id c plan →
      o.period c = { leases := [id], plan := some plan, restores := 0 }) : Anchored ended' o' where
  calls := by
    intro c
    have hperiod : o'.period c = (o.period c).after c a := by
      unfold period
      rw [hactions, Period.of_append]
    rw [hperiod]
    by_cases hc : c = d
    · rw [hc]
      exact hagrees
    rw [Period.after_of_ne (by rw [hd]; exact fun heq => hc heq.symm)]
    have hagree := (h.calls c).congr
      (fun id => exists_congr fun reason => hleases id c reason hc) (hrestores c hc)
      fun w id plan => hworkers w id c plan hc
    refine { hagree with busy := fun hnot hp => hagree.busy ?_ hp }
    rw [decide_eq_false_iff_not] at hnot ⊢
    exact fun heq => hnot (hended c hc heq)
  counts := hcounts
  positive := hpositive
  old := hold
  lawful := by
    rw [hactions]
    exact Period.lawful_append h.lawful hlawful

/-- A call is anchored as long as a lease of it lives. -/
theorem isAnchored_iff {g : MediaAnchorRegistry} {leases : Table Nat OwnedAnchor}
    (hcounts : ∀ c reason, (g.counts.get? (c, reason)).getD 0
      = leases.count fun _ anchor => anchor = { callId := c, reason })
    (hpositive : ∀ k n, g.counts.get? k = some n → 0 < n) (c : PbxCallId) :
    g.isAnchored c = true ↔ ∃ id reason, leases.get? id = some { callId := c, reason } := by
  unfold MediaAnchorRegistry.isAnchored
  rw [Table.any_iff]
  constructor
  · rintro ⟨⟨c', reason⟩, n, hn, hc⟩
    have hc' : c' = c := by simpa using hc
    subst hc'
    have hpos : 0 < leases.count fun _ anchor => anchor = { callId := c', reason } := by
      rw [← hcounts, hn]
      exact hpositive _ n hn
    obtain ⟨id, anchor, hget, hanchor⟩ := Table.count_pos_iff.mp hpos
    have heq : anchor = { callId := c', reason } := by simpa using hanchor
    exact ⟨id, reason, heq ▸ hget⟩
  · rintro ⟨id, reason, hget⟩
    have hpos : 0 < leases.count fun _ anchor => anchor = { callId := c, reason } :=
      Table.count_pos_iff.mpr ⟨id, _, hget, by simp⟩
    rw [← hcounts] at hpos
    cases hn : g.counts.get? (c, reason) with
    | none =>
      rw [hn] at hpos
      exact absurd hpos (Nat.lt_irrefl _)
    | some n => exact ⟨(c, reason), n, hn, by simp⟩

/-- A lease that is not anchored for another reason is the only one of its call. -/
theorem Anchored.last_lease (h : Anchored ended o) {id : Nat}
    (hget : o.leases.get? id = some anchor)
    (hother : o.anchors.isAnchoredForOtherReason anchor.callId anchor.reason = false) :
    (o.period anchor.callId).leases = [id] := by
  have hall : ∀ reason n, o.anchors.counts.get? (anchor.callId, reason) = some n →
      reason = anchor.reason ∧ n ≤ 1 := by
    intro reason n hn
    have hfalse := Table.any_eq_false.mp hother (anchor.callId, reason) n hn
    simpa using hfalse
  have hmem : id ∈ (o.period anchor.callId).leases :=
    ((h.calls anchor.callId).leases id).mpr ⟨anchor.reason, hget⟩
  -- another lease of the call would count for a reason of its own or twice
  have honly : ∀ id' ∈ (o.period anchor.callId).leases, id' = id := by
    intro id' hid'
    obtain ⟨reason, hget'⟩ := ((h.calls anchor.callId).leases id').mp hid'
    have hpos : 0 < o.liveCount anchor.callId reason :=
      Table.count_pos_iff.mpr ⟨id', _, hget', by simp⟩
    rw [← h.counts] at hpos
    cases hn : o.anchors.counts.get? (anchor.callId, reason) with
    | none =>
      rw [hn] at hpos
      exact absurd hpos (Nat.lt_irrefl _)
    | some n =>
      obtain ⟨hreason, hle⟩ := hall reason n hn
      have hcount : o.liveCount anchor.callId reason ≤ 1 := by
        rw [← h.counts, hn]
        exact hle
      exact Table.eq_of_count_le_one hcount hget (by simp [hreason]) hget' (by simp)
  have hnodup := (h.calls anchor.callId).nodup
  generalize (o.period anchor.callId).leases = l at hmem honly hnodup
  cases l with
  | nil => cases hmem
  | cons x rest =>
    obtain rfl : x = id := honly x (List.mem_cons_self ..)
    cases rest with
    | nil => rfl
    | cons y tl =>
      have hy : y = x := honly y (List.mem_cons_of_mem _ (List.mem_cons_self ..))
      rw [hy] at hnodup
      exact absurd (List.mem_cons_self ..) (List.nodup_cons.mp hnodup).1

/-! ## Releasing -/

/-- The counts when a lease goes. -/
theorem counts_release (h : Anchored ended o) {id : Nat} (hget : o.leases.get? id = some anchor) :
    (o.anchors.release anchor.callId anchor.reason).2 = true
      ∧ (∀ c reason,
        ((o.anchors.release anchor.callId anchor.reason).1.counts.get? (c, reason)).getD 0
          = (o.leases.erase id).count fun _ a => a = { callId := c, reason })
      ∧ ∀ k n, (o.anchors.release anchor.callId anchor.reason).1.counts.get? k = some n →
        0 < n := by
  have hcount : ∀ c reason, ((o.leases.erase id).count fun _ a => a = { callId := c, reason })
      = o.liveCount c reason - if (c, reason) = (anchor.callId, anchor.reason) then 1 else 0 := by
    intro c reason
    have herase := Table.count_erase_of_some
      (p := fun _ (a : OwnedAnchor) => decide (a = { callId := c, reason })) hget
    have hiff : anchor = { callId := c, reason }
        ↔ (c, reason) = (anchor.callId, anchor.reason) := by
      constructor
      · intro heq
        rw [heq]
      · intro heq
        cases heq
        rfl
    unfold liveCount
    rw [← herase]
    by_cases hc : (c, reason) = (anchor.callId, anchor.reason)
    · rw [if_pos hc, if_pos (by simpa using hiff.mpr hc)]
      omega
    · rw [if_neg hc, if_neg (by simpa using fun heq => hc (hiff.mp heq))]
      omega
  have hpos : 0 < o.liveCount anchor.callId anchor.reason :=
    Table.count_pos_iff.mpr ⟨id, anchor, hget, by simp⟩
  have hold := h.counts
  unfold MediaAnchorRegistry.release
  cases hn : o.anchors.counts.get? (anchor.callId, anchor.reason) with
  | none =>
    have hzero := hold anchor.callId anchor.reason
    rw [hn] at hzero
    have hzero : 0 = o.liveCount anchor.callId anchor.reason := hzero
    omega
  | some n =>
    have hlive : n = o.liveCount anchor.callId anchor.reason := by
      have hsame := hold anchor.callId anchor.reason
      rw [hn] at hsame
      exact hsame
    simp only
    split
    · next hlast =>
      refine ⟨rfl, fun c reason => ?_, fun k m hm => ?_⟩
      · rw [hcount, Table.get?_erase]
        by_cases hk : (c, reason) = (anchor.callId, anchor.reason)
        · rw [if_pos hk, if_pos hk, (Prod.mk.inj hk).1, (Prod.mk.inj hk).2, ← hlive]
          show 0 = n - 1
          omega
        · rw [if_neg hk, if_neg hk, Nat.sub_zero]
          exact hold c reason
      · rw [Table.get?_erase] at hm
        split at hm
        · cases hm
        · exact h.positive k m hm
    · next hlast =>
      refine ⟨rfl, fun c reason => ?_, fun k m hm => ?_⟩
      · rw [hcount, Table.get?_insert]
        by_cases hk : (c, reason) = (anchor.callId, anchor.reason)
        · rw [if_pos hk, if_pos hk, (Prod.mk.inj hk).1, (Prod.mk.inj hk).2, ← hlive]
          rfl
        · rw [if_neg hk, if_neg hk, Nat.sub_zero]
          exact hold c reason
      rw [Table.get?_insert] at hm
      split at hm
      · cases hm
        omega
      · exact h.positive k m hm

theorem without_nodup {l : List Nat} (h : l.Nodup) (a : Nat) : (without l a).Nodup := h.filter _

theorem without_singleton (id a : Nat) : without [id] a = [id] ∨ without [id] a = [] := by
  by_cases h : id = a
  · exact .inr (by simp [without, h])
  · exact .inl (by simp [without, h])

/-- The period of a call when one of its leases goes. -/
theorem after_released (p : Period C) (id : Nat) (c : PbxCallId) :
    (p.after c (.released id c)).leases = without p.leases id
      ∧ (without p.leases id = [] → p.after c (.released id c) = {})
      ∧ (without p.leases id ≠ [] → (p.after c (.released id c)).plan = p.plan
        ∧ (p.after c (.released id c)).restores = p.restores) := by
  simp only [Period.after, if_true]
  split
  · next hnil => exact ⟨hnil.symm, fun _ => rfl, fun hne => absurd hnil hne⟩
  · next hne => exact ⟨rfl, fun hnil => absurd hnil hne, fun _ => ⟨rfl, rfl⟩⟩

theorem anchored_releaseAnchor (h : Anchored ended o) (id : Nat) :
    Anchored ended (o.releaseAnchor id) := by
  unfold releaseAnchor
  split
  · exact h.congr rfl rfl rfl (Nat.le_refl _) (fun _ _ _ _ => Iff.rfl) rfl
  next anchor hget =>
  obtain ⟨hreleased, hcounts, hpositive⟩ := counts_release h hget
  generalize o.anchors.release anchor.callId anchor.reason = rel at hreleased hcounts hpositive
  obtain ⟨anchors, released⟩ := rel
  simp only at hreleased hcounts hpositive
  subst hreleased
  have hcall := h.calls anchor.callId
  have hget' := Table.get?_erase o.leases id
  have hmem : ∀ x, x ∈ without (o.period anchor.callId).leases id
      ↔ ∃ reason, (o.leases.erase id).get? x = some { callId := anchor.callId, reason } := by
    intro x
    rw [mem_without, hcall.leases, hget']
    by_cases hx : x = id
    · simp [hx]
    · simp [hx]
  -- the plan goes with the last lease
  have hanchored : anchors.isAnchored anchor.callId = true
      ↔ without (o.period anchor.callId).leases id ≠ [] := by
    rw [isAnchored_iff hcounts hpositive]
    constructor
    · rintro ⟨x, reason, hx⟩ hnil
      have hin := (hmem x).mpr ⟨reason, hx⟩
      rw [hnil] at hin
      cases hin
    · intro hne
      obtain ⟨x, hx⟩ := List.exists_mem_of_ne_nil _ hne
      exact ⟨x, (hmem x).mp hx⟩
  obtain ⟨hleases, hreset, hkept⟩ := after_released (o.period anchor.callId) id anchor.callId
  refine h.act (a := .released id anchor.callId) (d := anchor.callId) rfl (fun _ _ heq => heq) ?_ ?_
    (fun _ _ _ _ _ => Iff.rfl) rfl ?_ hcounts hpositive ?_ (fun _ _ _ heq => by cases heq)
  · intro x c reason hc
    show (o.leases.erase id).get? x = _ ↔ _
    rw [hget']
    split
    · next hx =>
      rw [hx, hget]
      refine ⟨fun heq => (by cases heq), fun heq => ?_⟩
      cases heq
      exact absurd rfl hc
    · rfl
  · intro c hc
    show (if (true && !anchors.isAnchored anchor.callId) = true then
      o.restores.erase anchor.callId else o.restores).get? c = _
    split
    · rw [Table.get?_erase, if_neg hc]
    · rfl
  · constructor
    case leases =>
      intro x
      rw [hleases]
      exact hmem x
    case nodup =>
      rw [hleases]
      exact without_nodup hcall.nodup id
    case plan =>
      show _ = (if (true && !anchors.isAnchored anchor.callId) = true then
        o.restores.erase anchor.callId else o.restores).get? anchor.callId
      by_cases hnil : without (o.period anchor.callId).leases id = []
      · have hnot : anchors.isAnchored anchor.callId = false := by
          cases hb : anchors.isAnchored anchor.callId with
          | false => rfl
          | true => exact absurd hnil (hanchored.mp hb)
        have hlast : (true && !anchors.isAnchored anchor.callId) = true := by
          rw [hnot]
          rfl
        rw [hreset hnil, if_pos hlast, Table.get?_erase, if_pos rfl]
      · rw [(hkept hnil).1, hanchored.mpr hnil]
        exact hcall.plan
    case idle =>
      intro hnil
      rw [hleases] at hnil
      exact hreset hnil
    case busy =>
      intro hended hp
      by_cases hnil : without (o.period anchor.callId).leases id = []
      · rw [hreset hnil] at hp
        exact absurd rfl hp
      · rw [(hkept hnil).2] at hp
        exact hcall.busy hended hp
    case working =>
      intro w i plan hw
      rw [hleases]
      rcases hcall.working w i plan hw with hone | hnone
      · rw [hone]
        exact without_singleton i id
      · rw [hnone]
        exact .inr rfl
  · intro x a hx
    have hx := (hget' x).symm.trans hx
    split at hx
    · cases hx
    · exact h.old x a hx

/-! ## Restoring -/

theorem anchored_startRestore (he : Exclusive o) (h : Anchored none o) {id : Nat}
    (hget : o.leases.get? id = some anchor) (hfree : MediaResource.call anchor.callId ∉ o.reserved)
    {plan : C} (hplan : o.restores.get? anchor.callId = some plan)
    (hother : o.anchors.isAnchoredForOtherReason anchor.callId anchor.reason = false) :
    Anchored none (o.startRestore id anchor.callId plan) := by
  have hcall := h.calls anchor.callId
  have hleases := h.last_lease hget hother
  -- a restore of this call that runs would hold it
  have hnone : ∀ w i p, o.workers.get? w ≠ some (.restore i anchor.callId p) := by
    intro w i p hw
    exact hfree ((he.held _).mpr ⟨.worker w, _, hw, rfl⟩)
  have hzero : (o.period anchor.callId).restores = 0 := by
    by_contra hne
    obtain ⟨w, i, p, hw⟩ := hcall.busy rfl hne
    exact hnone w i p hw
  have hperiod : o.period anchor.callId = { leases := [id], plan := some plan, restores := 0 } := by
    have hp := hcall.plan
    rw [hplan] at hp
    cases hper : o.period anchor.callId with
    | mk leases plan' restores =>
      rw [hper] at hleases hzero hp
      cases hleases
      cases hzero
      cases hp
      rfl
  have hafter : (o.period anchor.callId).after anchor.callId (.restoring id anchor.callId plan)
      = { leases := [id], plan := some plan, restores := 1 } := by
    rw [hperiod]
    exact if_pos rfl
  have hworker : ∀ w work, (o.workers.insert o.nextWorker (.restore id anchor.callId plan)).get? w
      = some work ↔ (w = o.nextWorker ∧ work = .restore id anchor.callId plan)
        ∨ (w ≠ o.nextWorker ∧ o.workers.get? w = some work) := by
    intro w work
    rw [Table.get?_insert]
    split
    · next heq => simp [heq, eq_comm]
    · next hne => simp [hne]
  have hnew := he.fresh
  refine h.act (a := .restoring id anchor.callId plan) (d := anchor.callId) rfl
    (fun _ _ heq => heq) (fun _ _ _ _ => Iff.rfl) (fun _ _ => rfl) ?_ rfl ?_ h.counts h.positive
    h.old ?_
  · intro w i c p hc
    refine (hworker w _).trans ⟨?_, fun hw => .inr ⟨?_, hw⟩⟩
    · rintro (⟨_, heq⟩ | ⟨_, hw⟩)
      · cases heq
        exact absurd rfl hc
      · exact hw
    · rintro rfl
      cases hnew.symm.trans hw
  · rw [hafter]
    constructor
    case leases =>
      intro x
      have hx := hcall.leases x
      rw [hleases] at hx
      exact hx
    case nodup => exact List.nodup_singleton _
    case plan => exact hplan.symm
    case idle => exact fun hnil => (by cases hnil)
    case busy =>
      intro _ _
      exact ⟨o.nextWorker, id, plan, (hworker _ _).mpr (.inl ⟨rfl, rfl⟩)⟩
    case working =>
      intro w i p hw
      rcases (hworker w _).mp hw with ⟨_, heq⟩ | ⟨_, hw⟩
      · cases heq
        exact .inl rfl
      · exact absurd hw (hnone w i p)
  · intro i c p heq
    cases heq
    exact hperiod

theorem anchored_dispatchEach (ids : List Nat) (he : Exclusive o) (h : Anchored none o) :
    Anchored none (o.dispatchEach ids) := by
  induction ids generalizing o with
  | nil => exact h
  | cons id rest ih =>
    rw [dispatchEach]
    split
    · exact ih he h
    next anchor hget =>
    split
    · refine ih (he.congr rfl rfl rfl (Nat.le_refl _) rfl) ?_
      exact h.congr rfl rfl rfl (Nat.le_refl _) (fun _ _ _ _ => Iff.rfl) rfl
    next hfree =>
    split
    · exact ih ((o.sameHolds_releaseAnchor id).exclusive he) (anchored_releaseAnchor h id)
    next plan hplan =>
    obtain ⟨hrest, hother⟩ := Option.filter_eq_some_iff.mp hplan
    refine ih ((dispatched_startRestore id plan hfree).exclusive he) ?_
    exact anchored_startRestore he h hget hfree hrest (by simpa using hother)

theorem anchored_dispatch (he : Exclusive o) (h : Anchored none o) :
    Anchored none o.dispatchCancelledAnchors := by
  refine anchored_dispatchEach o.cancelledAnchors (he.congr rfl rfl rfl (Nat.le_refl _) rfl) ?_
  exact h.congr rfl rfl rfl (Nat.le_refl _) (fun _ _ _ _ => Iff.rfl) rfl

/-! ## Acquiring and removing -/

theorem get?_rememberRestore (restores : Table PbxCallId C) (callId c : PbxCallId) (plan : C) :
    (rememberRestore restores callId plan).get? c
      = if c = callId then (restores.get? callId).or (some plan) else restores.get? c := by
  unfold rememberRestore
  split
  · next hin =>
    obtain ⟨p, hp⟩ := Table.contains_iff.mp hin
    split
    · next hc => rw [hc, hp]; rfl
    · rfl
  next hout =>
  have hnone : restores.get? callId = none :=
    Table.not_contains_iff.mp (by simpa using hout)
  rw [Table.get?_insert]
  split
  · rw [hnone]; rfl
  · rfl

theorem anchored_acquireAnchor (he : Exclusive o) (h : Anchored none o) (reservation : Nat)
    (callId : PbxCallId) (reason : MediaAnchorReason) (restore : Option C) :
    Anchored none (o.acquireAnchor reservation callId reason restore) := by
  unfold acquireAnchor
  split
  · next hres =>
    unfold allocateId
    by_cases hid : o.nextId + 1 < 2 ^ 64
    · rw [if_pos hid]
      -- the call is reserved for the caller, so no restore of it runs
      have hnone : ∀ w i p, o.workers.get? w ≠ some (.restore i callId p) := by
        intro w i p hw
        cases hr : o.reservations.get? reservation with
        | none =>
          rw [hr] at hres
          cases hres
        | some resources =>
          rw [hr] at hres
          have hin : MediaResource.call callId ∈ resources := by simpa using hres
          cases he.alone (.reservation reservation) (.worker w) _ ⟨_, hr, hin⟩ ⟨_, hw, rfl⟩
      have hnew : o.leases.get? o.nextId = none := by
        by_contra hne
        obtain ⟨a, ha⟩ := Option.ne_none_iff_exists'.mp hne
        exact Nat.lt_irrefl _ (h.old _ a ha)
      have hcall := h.calls callId
      have hget := Table.get?_insert o.leases o.nextId
      have hafter : (o.period callId).after callId (.acquired o.nextId callId restore)
          = { o.period callId with
            leases := (o.period callId).leases ++ [o.nextId]
            plan := (o.period callId).plan.or restore } := if_pos rfl
      refine h.act (a := .acquired o.nextId callId restore) (d := callId) rfl
        (fun _ _ heq => heq) ?_ ?_ (fun _ _ _ _ _ => Iff.rfl) rfl ?_ ?_ ?_ ?_
        (fun _ _ _ heq => by cases heq)
      · intro x c r hc
        refine (iff_of_eq (congrArg (· = _) (hget x _))).trans ?_
        split
        · next hx =>
          rw [hx, hnew]
          refine ⟨fun heq => ?_, fun heq => (by cases heq)⟩
          cases heq
          exact absurd rfl hc
        · rfl
      · intro c hc
        cases restore with
        | none => rfl
        | some plan => exact (get?_rememberRestore ..).trans (if_neg hc)
      · rw [hafter]
        constructor
        case leases =>
          intro x
          rw [List.mem_append, List.mem_singleton, hcall.leases]
          constructor
          · rintro (⟨r, hx⟩ | hx)
            · refine ⟨r, (hget x _).trans ((if_neg ?_).trans hx)⟩
              rintro rfl
              cases hnew.symm.trans hx
            · exact ⟨reason, (hget x _).trans (if_pos hx)⟩
          rintro ⟨r, hx⟩
          have hx := (hget x _).symm.trans hx
          split at hx
          · next heq => exact .inr heq
          · exact .inl ⟨r, hx⟩
        case nodup =>
          refine hcall.nodup.append (List.nodup_singleton _) (List.disjoint_singleton.mpr ?_)
          intro hmem
          obtain ⟨r, hr⟩ := (hcall.leases _).mp hmem
          cases hnew.symm.trans hr
        case plan =>
          rw [hcall.plan]
          cases restore with
          | none => exact Option.or_none
          | some plan => exact ((get?_rememberRestore ..).trans (if_pos rfl)).symm
        case idle =>
          intro hnil
          have hlen := congrArg List.length hnil
          simp at hlen
        case busy => exact hcall.busy
        case working => exact fun w i p hw => absurd hw (hnone w i p)
      · intro c r
        show ((o.anchors.counts.insert (callId, reason) _).get? (c, r)).getD 0
          = (o.leases.insert o.nextId { callId, reason }).count _
        rw [Table.count_insert_of_none hnew, Table.get?_insert]
        have hlive := h.counts c r
        unfold liveCount at hlive
        rw [← hlive]
        by_cases hk : (c, r) = (callId, reason)
        · rw [if_pos hk]
          cases hk
          simp
        have hne : ¬ (({ callId, reason } : OwnedAnchor) = { callId := c, reason := r }) := by
          intro heq
          cases heq
          exact hk rfl
        rw [if_neg hk]
        simp [hne]
      · intro k n hn
        have hn : (o.anchors.counts.insert (callId, reason)
            ((o.anchors.counts.get? (callId, reason)).getD 0 + 1)).get? k = some n := hn
        rw [Table.get?_insert] at hn
        split at hn
        · cases hn
          exact Nat.succ_pos _
        · exact h.positive k n hn
      · intro x a hx
        show x < o.nextId + 1
        have hx := (hget x _).symm.trans hx
        split at hx
        · next heq => omega
        · exact Nat.lt_succ_of_lt (h.old x a hx)
    · rw [if_neg hid]
      exact h.congr rfl rfl rfl (Nat.le_refl _) (fun _ _ _ _ => Iff.rfl) rfl
  · exact h.congr rfl rfl rfl (Nat.le_refl _) (fun _ _ _ _ => Iff.rfl) rfl

theorem anchored_removeCall (h : Anchored none o) (callId : PbxCallId) :
    Anchored none (o.removeCall callId) := by
  have hget := o.leases.get?_filter fun _ anchor => decide (anchor.callId ≠ callId)
  have hafter : (o.period callId).after callId (.removed callId) = {} := if_pos rfl
  have hother : ∀ x c r, c ≠ callId → (((o.leases.filter
      fun _ anchor => decide (anchor.callId ≠ callId)).get? x) = some { callId := c, reason := r }
      ↔ o.leases.get? x = some { callId := c, reason := r }) := by
    intro x c r hc
    rw [hget]
    constructor
    · intro hx
      exact (Option.filter_eq_some_iff.mp hx).1
    · intro hx
      exact Option.filter_eq_some_iff.mpr ⟨hx, by simpa using hc⟩
  refine h.act (a := .removed callId) (d := callId) rfl (fun _ _ heq => heq) hother ?_
    (fun _ _ _ _ _ => Iff.rfl) rfl ?_ ?_ ?_ ?_ (fun _ _ _ heq => by cases heq)
  · intro c hc
    exact (Table.get?_erase ..).trans (if_neg hc)
  · rw [hafter]
    constructor
    case leases =>
      intro x
      refine ⟨fun hx => (by cases hx), ?_⟩
      rintro ⟨r, hx⟩
      have hx := (hget x).symm.trans hx
      have hne := (Option.filter_eq_some_iff.mp hx).2
      simp at hne
    case nodup => exact List.nodup_nil
    case plan => exact ((Table.get?_erase ..).trans (if_pos rfl)).symm
    case idle => exact fun _ => rfl
    case busy => exact fun _ hp => absurd rfl hp
    case working => exact fun _ _ _ _ => .inr rfl
  · intro c r
    show ((o.anchors.counts.filter fun k _ => decide (k.1 ≠ callId)).get? (c, r)).getD 0
      = (o.leases.filter fun _ anchor => decide (anchor.callId ≠ callId)).count
        fun _ a => decide (a = { callId := c, reason := r })
    rw [Table.get?_filter, Table.count_filter]
    by_cases hc : c = callId
    · -- nothing of this call is left on either side
      have hzero : (o.leases.count fun _ (a : OwnedAnchor) =>
          decide (a = { callId := c, reason := r }) && decide (a.callId ≠ callId)) = 0 := by
        by_contra hne
        obtain ⟨x, a, _, ha⟩ := Table.count_pos_iff.mp (Nat.pos_of_ne_zero hne)
        simp only [Bool.and_eq_true, decide_eq_true_eq] at ha
        rw [ha.1] at ha
        exact ha.2 hc
      rw [hzero]
      cases hn : o.anchors.counts.get? (c, r) with
      | none => rfl
      | some n => simp [Option.filter, hc]
    · have hsame : (fun _ (a : OwnedAnchor) =>
          decide (a = { callId := c, reason := r }) && decide (a.callId ≠ callId))
          = fun (_ : Nat) (a : OwnedAnchor) => decide (a = { callId := c, reason := r }) := by
        funext _ a
        by_cases ha : a = { callId := c, reason := r }
        · simp [ha, hc]
        · simp [ha]
      rw [hsame]
      have hlive := h.counts c r
      unfold liveCount at hlive
      rw [← hlive]
      cases hn : o.anchors.counts.get? (c, r) with
      | none => rfl
      | some n => simp [Option.filter, hc]
  · intro k n hn
    have hn : (o.anchors.counts.filter fun k _ => decide (k.1 ≠ callId)).get? k = some n := hn
    rw [Table.get?_filter] at hn
    exact h.positive k n (Option.filter_eq_some_iff.mp hn).1
  · intro x a hx
    have hx := (hget x).symm.trans hx
    exact h.old x a (Option.filter_eq_some_iff.mp hx).1

/-! ## Turns -/

theorem anchored_reserve (h : Anchored none o) (w : Waiter) : Anchored none (o.reserve w) := by
  rcases o.reserve_cases w with ⟨_, _, heq⟩ | ⟨heq, _⟩ | ⟨_, _, heq⟩
  · rw [heq]
    exact h.congr rfl rfl rfl (Nat.le_refl _) (fun _ _ _ _ => Iff.rfl) rfl
  · rw [heq]
    exact h.congr rfl rfl rfl (Nat.le_refl _) (fun _ _ _ _ => Iff.rfl) rfl
  · rw [heq]
    exact h.congr rfl rfl rfl (Nat.le_succ _) (fun _ _ _ _ => Iff.rfl) rfl

theorem anchored_foldl (ws : List Waiter) (h : Anchored none o) :
    Anchored none (ws.foldl reserve o) := by
  induction ws generalizing o with
  | nil => exact h
  | cons w rest ih => exact ih (anchored_reserve h w)

theorem anchored_retryWaiting (h : Anchored none o) : Anchored none o.retryWaiting :=
  anchored_foldl o.waiting (h.congr rfl rfl rfl (Nat.le_refl _) (fun _ _ _ _ => Iff.rfl) rfl)

theorem anchored_process (he : Exclusive o) (h : Anchored none o) (command : MediaCommand C) :
    Anchored none (o.process command) := by
  have hquiet : ∀ p : MediaOwner C, p.leases = o.leases → p.restores = o.restores →
      p.anchors = o.anchors → p.nextId = o.nextId → p.workers = o.workers →
      p.trace.actions = o.trace.actions → Anchored none p := by
    intro p h1 h2 h3 h4 h5 h6
    exact h.congr h1 h2 h3 (Nat.le_of_eq h4.symm) (fun _ _ _ _ => by rw [h5]) h6
  cases command with
  | reserve resources wait =>
    have hticket := hquiet { o with trace := { o.trace with arrivals := o.trace.arrivals + 1 } }
      rfl rfl rfl rfl rfl rfl
    exact anchored_reserve hticket _
  | releaseReservation id =>
    show Anchored none (o.releaseReservation id)
    unfold releaseReservation
    refine anchored_retryWaiting ?_
    split
    · exact anchored_dispatch he h
    next resources hresources =>
    refine anchored_dispatch ?_ (hquiet _ rfl rfl rfl rfl rfl rfl)
    refine exclusive_release he hresources (fun r => ?_) rfl rfl rfl rfl
    simp
  | acquireAnchor reservation callId reason restore =>
    exact anchored_acquireAnchor he h reservation callId reason restore
  | releaseAnchor id explicit =>
    cases explicit with
    | true =>
      exact (anchored_releaseAnchor h id).congr rfl rfl rfl (Nat.le_refl _)
        (fun _ _ _ _ => Iff.rfl) rfl
    | false => exact hquiet _ rfl rfl rfl rfl rfl rfl
  | removeCall id => exact anchored_removeCall h id
  | nextGeneration =>
    show Anchored none o.allocateGeneration
    unfold allocateGeneration
    split
    · exact hquiet _ rfl rfl rfl rfl rfl rfl
    · exact hquiet _ rfl rfl rfl rfl rfl rfl
  | takeAnnouncement id => exact hquiet _ rfl rfl rfl rfl rfl rfl
  | putAnnouncement id active => exact hquiet _ rfl rfl rfl rfl rfl rfl
  | announcementGeneration id => exact hquiet _ rfl rfl rfl rfl rfl rfl
  | announcementIds => exact hquiet _ rfl rfl rfl rfl rfl rfl
  | deferAnnouncement id generation timer => exact hquiet _ rfl rfl rfl rfl rfl rfl

theorem period_releaseAnchor (o : MediaOwner C) (id : Nat) (c : PbxCallId) :
    (o.releaseAnchor id).period c = match o.leases.get? id with
      | none => o.period c
      | some anchor => (o.period c).after c (.released id anchor.callId) := by
  unfold releaseAnchor
  cases o.leases.get? id with
  | none => rfl
  | some anchor =>
    generalize o.anchors.release anchor.callId anchor.reason = rel
    exact Period.of_append c _ _

/-- A restore that has come back ends the period of its call. -/
theorem restores_releaseAnchor (h : Anchored ended o) {id : Nat} {c : PbxCallId}
    (hlast : (o.period c).leases = [id] ∨ (o.period c).leases = []) :
    ((o.releaseAnchor id).period c).restores = 0 := by
  have hcall := h.calls c
  rw [period_releaseAnchor]
  split
  · next hnone =>
    rcases hlast with hone | hnil
    · obtain ⟨reason, hget⟩ := (hcall.leases id).mp (by rw [hone]; exact List.mem_singleton_self _)
      cases hnone.symm.trans hget
    · rw [hcall.idle hnil]
  next anchor hget =>
  by_cases hc : anchor.callId = c
  · subst hc
    have hnil : without (o.period anchor.callId).leases id = [] := by
      rcases hlast with hone | hnil
      · rw [hone]
        simp [without]
      · rw [hnil]
        rfl
    rw [(after_released (o.period anchor.callId) id anchor.callId).2.1 hnil]
  rw [Period.after_of_ne (a := .released id anchor.callId) hc]
  rcases hlast with hone | hnil
  · obtain ⟨reason, hget'⟩ :=
      (hcall.leases id).mp (by rw [hone]; exact List.mem_singleton_self _)
    cases hget.symm.trans hget'
    exact absurd rfl hc
  · rw [hcall.idle hnil]

theorem anchored_complete (he : Exclusive o) (h : Anchored none o) (worker : Nat)
    (timer : Option Instant) : Anchored none (o.complete worker timer) := by
  rcases o.complete_cases worker timer with heq | ⟨i, g, announcements, hw, heq⟩
    | ⟨i, c, plan, hw, heq⟩ <;> rw [heq]
  · exact h
  · have hrestore : ∀ w id c plan, (o.workers.erase worker).get? w = some (.restore id c plan)
        ↔ o.workers.get? w = some (.restore id c plan) := by
      intro w id c plan
      rw [Table.get?_erase]
      split
      · next heq =>
        rw [heq, hw]
        simp
      · rfl
    exact anchored_dispatch ((dispatched_announced hw announcements).exclusive he)
      (h.congr rfl rfl rfl (Nat.le_refl _) hrestore rfl)
  · have hget : ∀ w work, (o.workers.erase worker).get? w = some work →
        w ≠ worker ∧ o.workers.get? w = some work := by
      intro w work hwork
      rw [Table.get?_erase] at hwork
      split at hwork
      · cases hwork
      · next hne => exact ⟨hne, hwork⟩
    have hlast := (h.calls c).working worker i plan hw
    -- until the lease has been released, its restore counts without a worker
    have hended : Anchored (some c) { o with workers := o.workers.erase worker } := by
      refine { h with calls := fun d => ?_ }
      have hd := h.calls d
      refine { hd with busy := ?_, working := fun w id p hwork => ?_ }
      · intro hne hp
        rw [decide_eq_false_iff_not] at hne
        obtain ⟨w, id, p, hwork⟩ := hd.busy rfl hp
        refine ⟨w, id, p, (Table.get?_erase ..).trans ((if_neg ?_).trans hwork)⟩
        rintro rfl
        cases hw.symm.trans hwork
        exact hne rfl
      · exact hd.working w id p (hget w _ hwork).2
    have hreleased := anchored_releaseAnchor hended i
    have hzero := restores_releaseAnchor hended hlast
    have hp : Anchored none (o.restored worker i c) := by
      have hmoved : Anchored (some c) (o.restored worker i c) :=
        hreleased.congr rfl rfl rfl (Nat.le_refl _) (fun _ _ _ _ => Iff.rfl) rfl
      refine { hmoved with calls := fun d => ?_ }
      have hd := hmoved.calls d
      refine { hd with busy := fun _ hne => hd.busy ?_ hne }
      rw [decide_eq_false_iff_not]
      intro heq
      cases heq
      exact hne hzero
    have hpe := exclusive_restored he hw
    have hpd := (dispatched_dispatchCancelledAnchors _).exclusive hpe
    refine anchored_dispatch ?_ (anchored_retryWaiting (anchored_dispatch hpe hp))
    exact exclusive_retryWaiting hpd

theorem anchored_dueEach (now : Instant) (due : List (ConferenceId × ActiveConferenceAnnouncement))
    (he : Exclusive o) (h : Anchored none o) : Anchored none (o.dueEach now due) := by
  induction due generalizing o with
  | nil => exact h
  | cons d rest ih =>
    obtain ⟨id, active⟩ := d
    rw [dueEach]
    split
    · refine ih (exclusive_start he (fun _ => False.elim) (fun _ => by simp [WorkHolds])
        rfl rfl rfl rfl) ?_
      refine h.congr rfl rfl rfl (Nat.le_refl _) (fun w i c plan => ?_) rfl
      refine (iff_of_eq (congrArg (· = _) (Table.get?_insert ..))).trans ?_
      split
      · next heq =>
        rw [heq, he.fresh]
        simp
      · rfl
    · exact ih he h

theorem anchored_turn (ho : Orderly [] o) (h : Anchored none o) (t : MediaTurn C) :
    Anchored none (o.turn t) := by
  cases t with
  | command command =>
    exact anchored_dispatch ((keeps_process o command).orderly ho).exclusive
      (anchored_process ho.exclusive h command)
  | completed worker timer => exact anchored_complete ho.exclusive h worker timer
  | due now => exact anchored_dueEach now _ ho.exclusive h

theorem anchored_new : Anchored none ({} : MediaOwner C) := by
  constructor
  case calls =>
    intro c
    constructor
    case leases =>
      intro id
      refine ⟨fun hid => (by cases hid), ?_⟩
      rintro ⟨reason, hget⟩
      cases hget
    case nodup => exact List.nodup_nil
    case plan => rfl
    case idle => exact fun _ => rfl
    case busy => exact fun _ hne => absurd rfl hne
    case working => exact fun _ _ _ hw => (by cases hw)
  case counts => exact fun _ _ => rfl
  case positive => exact fun _ _ hn => (by cases hn)
  case old => exact fun _ _ hget => (by cases hget)
  case lawful =>
    intro pre id c plan post hsplit
    have hlen := congrArg List.length hsplit
    simp at hlen

/-- What the media owner promises after these turns. -/
structure MediaSound (turns : List (MediaTurn C)) (o : MediaOwner C) : Prop where
  /-- No two live reservations or running restores share a resource. -/
  alone : ∀ x y r, o.Holds x r → o.Holds y r → x = y
  held : ∀ r, r ∈ o.reserved ↔ ∃ x, o.Holds x r
  /-- Each request that has come waits or has one answer. -/
  each : (o.waiting.map Waiter.ticket ++ o.answers.map Prod.fst).Perm
    (List.range (asked turns).length)
  /-- Those that wait stand in the order of arrival, and wanted to wait. -/
  sorted : (o.waiting.map Waiter.ticket).Pairwise (· < ·)
  waits : ∀ w ∈ o.waiting, ∃ resources,
    (asked turns)[w.ticket]? = some (resources, true) ∧ Covers resources w.resources
  /-- Without a reservation the answer is given only when the ids have run out, or to a caller
      that does not wait, upon a conflict. -/
  refused : ∀ ticket, (ticket, none) ∈ o.answers →
    2 ^ 64 ≤ o.issued + 2 ∨ Refusable turns ticket
  /-- A request that is granted holds what it asked for until its release. -/
  grants : ∀ ticket id, (ticket, some id) ∈ o.answers →
    (o.reservations.get? id = none ↔ Released turns id)
    ∧ ∃ resources wait, (asked turns)[ticket]? = some (resources, wait)
      ∧ ∀ rs, o.reservations.get? id = some rs → Covers resources rs
  live : ∀ id rs, o.reservations.get? id = some rs → ∃ ticket, (ticket, some id) ∈ o.answers
  granted : o.trace.granted = o.answers.filterMap fun a => a.2.map fun _ => a.1
  /-- Of two that wait for a common resource, the one that came first is granted first. -/
  ordered : ∀ v ∈ o.waiting, ∀ w ∈ o.waiting, v.ticket < w.ticket →
    (∃ r ∈ v.resources, r ∈ w.resources) → ∀ later : List (MediaTurn C),
      ∃ new, (Runs.run turn o later).trace.granted = o.trace.granted ++ new
        ∧ (w.ticket ∈ new → ∃ l₁ l₂ l₃, new = l₁ ++ v.ticket :: (l₂ ++ w.ticket :: l₃))
  /-- Whoever waits conflicts with a reserved resource or an earlier waiter. -/
  blocked : Blocked o
  /-- The anchors of a call for a reason count its live leases. -/
  counts : ∀ c reason, (o.anchors.counts.get? (c, reason)).getD 0 = o.liveCount c reason
  /-- A restore starts once in a period, with the first plan and for the last
      lease. -/
  lawful : Period.Lawful o.trace.actions

end MediaOwner

end Sccp
