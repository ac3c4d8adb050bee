/-
  Sccp.Safety.Tokens

  Conference mutation tokens.  Generations only grow, a token that was given up
  never comes back, and a commit or an abort with a stale token does nothing.
-/

import Sccp.Ledger.Events

namespace Sccp

open Ledger (Via)
open Function (update)

/-! ## Generations only grow -/

/-- The tokens of a later ledger: generations are not taken back, and a token of
    an old generation has been there all the time. -/
structure Ledger.TokensGrow (l l' : Ledger) : Prop where
  next : l.nextToken ≤ l'.nextToken
  old : ∀ o g, l'.token o = some g → g < l.nextToken → l.token o = some g

/-- Every token in the table has been issued, each generation to one owner. -/
structure Ledger.TokensIssued (l : Ledger) : Prop where
  below : ∀ o g, l.token o = some g → g < l.nextToken
  single : ∀ o o' g, l.token o = some g → l.token o' = some g → o = o'

namespace Ledger

variable {l l' l'' : Ledger}

theorem TokensGrow.refl (l : Ledger) : l.TokensGrow l := ⟨Nat.le_refl _, fun _ _ h _ => h⟩

theorem TokensGrow.trans (h : l.TokensGrow l') (h' : l'.TokensGrow l'') : l.TokensGrow l'' where
  next := Nat.le_trans h.next h'.next
  old := fun o g hg hlt => h.old o g (h'.old o g hg (Nat.lt_of_lt_of_le hlt h.next)) hlt

/-- A move that does not issue a token keeps some of the tokens. -/
def TokensKept (l l' : Ledger) : Prop :=
  l'.nextToken = l.nextToken ∧ ∀ o, l'.token o = l.token o ∨ l'.token o = none

theorem TokensKept.of_eq (hn : l'.nextToken = l.nextToken) (ht : l'.token = l.token) :
    TokensKept l l' := ⟨hn, fun o => .inl (congrFun ht o)⟩

theorem tokensKept_update (l : Ledger) (o : ConferenceMutationOwner) :
    TokensKept l { l with token := update l.token o none } := by
  refine ⟨rfl, fun x => ?_⟩
  by_cases hx : x = o
  · exact .inr (by simp [hx])
  · exact .inl (by simp [hx])

/-- Every move issues one token or keeps some of the tokens. -/
theorem move_tokens (l : Ledger) (m : Move) : TokensKept l (m.apply l) ∨ ∃ o, m = .issue o := by
  cases m with
  | issue o => exact .inr ⟨o, rfl⟩
  | dropToken o => exact .inl (tokensKept_update l o)
  | endCall p =>
    refine .inl ?_
    obtain ⟨_, _, _, _, _, _, h⟩ := l.endCall_eq p
    rw [Move.apply, h]
    exact tokensKept_update l (.destination p)
  | detach a =>
    refine .inl ?_
    obtain ⟨_, _, _, _, _, _, h⟩ := l.detach_eq a
    rw [Move.apply, h]
    exact .of_eq rfl rfl
  | _ => exact .inl (.of_eq rfl rfl)

theorem tokensGrow_move {m : Move} (l : Ledger) : l.TokensGrow (m.apply l) := by
  rcases l.move_tokens m with ⟨hn, ht⟩ | ⟨o, rfl⟩
  · refine ⟨Nat.le_of_eq hn.symm, fun o g hg _ => ?_⟩
    rcases ht o with h | h
    · rw [← h]
      exact hg
    · rw [h] at hg
      cases hg
  refine ⟨Nat.le_succ _, fun x g hg hlt => ?_⟩
  by_cases hx : x = o
  · subst hx
    simp only [Move.apply, issue, Function.update_self, Option.some.injEq] at hg
    omega
  · simpa [Move.apply, issue, hx] using hg

theorem tokensIssued_move {m : Move} (h : l.TokensIssued) : (m.apply l).TokensIssued := by
  rcases l.move_tokens m with ⟨hn, ht⟩ | ⟨o, rfl⟩
  · have hold : ∀ o g, (m.apply l).token o = some g → l.token o = some g := by
      intro o g hg
      rcases ht o with heq | heq
      · rw [← heq]
        exact hg
      · rw [heq] at hg
        cases hg
    exact ⟨fun o g hg => hn ▸ h.below o g (hold o g hg),
      fun o o' g hg hg' => h.single o o' g (hold o g hg) (hold o' g hg')⟩
  · have hold : ∀ x g, (l.issue o).token x = some g →
        x = o ∧ g = l.nextToken ∨ x ≠ o ∧ l.token x = some g := by
      intro x g hg
      by_cases hx : x = o
      · subst hx
        simp only [issue, Function.update_self, Option.some.injEq] at hg
        exact .inl ⟨rfl, hg.symm⟩
      · exact .inr ⟨hx, by simpa [issue, hx] using hg⟩
    refine ⟨fun x g hg => ?_, fun x y g hx hy => ?_⟩
    · rcases hold x g hg with ⟨_, rfl⟩ | ⟨_, hg⟩
      · exact Nat.lt_succ_self _
      · exact Nat.lt_succ_of_lt (h.below x g hg)
    rcases hold x g hx with ⟨rfl, rfl⟩ | ⟨_, hx'⟩
    · rcases hold y _ hy with ⟨rfl, _⟩ | ⟨_, hy'⟩
      · rfl
      · exact absurd (h.below y _ hy') (Nat.lt_irrefl _)
    · rcases hold y _ hy with ⟨rfl, rfl⟩ | ⟨_, hy'⟩
      · exact absurd (h.below x _ hx') (Nat.lt_irrefl _)
      · exact h.single x y g hx' hy'

theorem Via.tokensGrow (h : Via l l') : l.TokensGrow l' := by
  induction h with
  | refl => exact .refl _
  | step m _ _ ih => exact (tokensGrow_move _).trans ih

theorem Via.tokensIssued (h : Via l l') (hl : l.TokensIssued) : l'.TokensIssued :=
  h.preserves (fun _ _ _ => tokensIssued_move) hl

end Ledger

namespace Controller

variable (s : Controller)
variable {t mutation : ConferenceMutationToken} {s' : Controller} {effects : List DriverEffect}

/-! ## Stale tokens -/

theorem reserved_stale {α : Type} (stale : α) (operation : Controller → Controller × α)
    (h : s.conferenceMutationIsActive mutation = false) :
    s.reserved mutation stale operation = (s, stale) := by
  simp [reserved, h]

/-- A commit or an abort with a token that is not the active one does nothing. -/
theorem settle_stale (h : s.conferenceMutationIsActive mutation = false) (settlement : Settlement) :
    s.settle mutation settlement = (s, []) := by
  have key := fun {α : Type} (stale : α) (operation : Controller → Controller × α) =>
    s.reserved_stale stale operation h
  cases settlement <;>
    simp [settle, abortReservedConferenceRemoval, commitReservedConferenceRemoval,
      abortReservedConferenceMute, commitReservedConferenceMute,
      abortReservedConferenceRoleChange, commitReservedConferenceRoleChange,
      abortReservedConference, commitReservedConference, abortReservedConferenceInvite,
      commitReservedConferenceInvite, abortReservedJoin, abortReservedHold, commitReservedHold, key]

/-- A failed destination conference with a token that is not stored does
    nothing. -/
theorem conferenceDestinationFailed_stale
    (h : s.conferenceMutations.get? mutation.owner ≠ some mutation.generation) (c : CallId)
    (heldCalls completedHolds : List PbxCallId) :
    s.conferenceDestinationFailed mutation c heldCalls completedHolds = (s, []) := by
  simp [conferenceDestinationFailed, completeConferenceMutation, h]

/-! ## Runs -/

/-- The tokens that are in the table of `s'` and were not in that of `s`. -/
def newTokens (s s' : Controller) : List ConferenceMutationToken :=
  s'.conferenceMutations.entries.filterMap fun e =>
    if s.conferenceMutations.get? e.1 = some e.2 then none
    else some { owner := e.1, generation := e.2 }

/-- The tokens issued along a sequence of events, in order. -/
def issuedTokens : Controller → List Event → List ConferenceMutationToken
  | _, [] => []
  | s, event :: rest => newTokens s (s.handle event) ++ issuedTokens (s.handle event) rest

theorem mem_newTokens {s : Controller} :
    t ∈ newTokens s s' ↔ s'.ledger.token t.owner = some t.generation
      ∧ s.ledger.token t.owner ≠ some t.generation := by
  simp only [newTokens, List.mem_filterMap]
  constructor
  · rintro ⟨⟨o, g⟩, he, ht⟩
    split at ht
    · cases ht
    · next hne =>
      cases ht
      exact ⟨Table.get?_eq_some.mpr he, hne⟩
  · rintro ⟨hnew, hold⟩
    refine ⟨(t.owner, t.generation), Table.get?_eq_some.mp hnew, ?_⟩
    exact if_neg hold

/-- The tokens of one step have distinct generations. -/
theorem newTokens_nodup {s : Controller} (h : s'.ledger.TokensIssued) :
    ((newTokens s s').map (·.generation)).Nodup := by
  have hentries : s'.conferenceMutations.entries.Pairwise fun a b => a.2 ≠ b.2 := by
    have hkeys := List.pairwise_map.mp s'.conferenceMutations.nodup
    refine hkeys.imp_of_mem fun {a b} ha hb hne heq => hne ?_
    exact h.single a.1 b.1 a.2 (Table.get?_eq_some.mpr ha) (heq ▸ Table.get?_eq_some.mpr hb)
  refine List.pairwise_map.mpr (List.Pairwise.filterMap _ (fun a b hab t ht u hu => ?_) hentries)
  split at ht <;> cases ht
  split at hu <;> cases hu
  exact hab

/-- Tokens issued later have generations that had not been reached. -/
theorem issuedTokens_ge (events : List Event) (h : t ∈ issuedTokens s events) :
    s.nextConferenceMutationGeneration ≤ t.generation := by
  induction events generalizing s with
  | nil => cases h
  | cons event rest ih =>
    have hgrow := (s.via_handle event).tokensGrow
    rcases List.mem_append.mp h with h | h
    · obtain ⟨hnew, hold⟩ := mem_newTokens.mp h
      by_contra hlt
      exact hold (hgrow.old _ _ hnew (Nat.lt_of_not_le hlt))
    · exact Nat.le_trans hgrow.next (ih _ h)

theorem issuedTokens_nodup (events : List Event) (h : s.ledger.TokensIssued) :
    ((issuedTokens s events).map (·.generation)).Nodup := by
  induction events generalizing s with
  | nil => exact List.nodup_nil
  | cons event rest ih =>
    have hissued := (s.via_handle event).tokensIssued h
    rw [issuedTokens, List.map_append, List.nodup_append']
    refine ⟨newTokens_nodup hissued, ih _ hissued, ?_⟩
    intro g hg hg'
    obtain ⟨t, ht, rfl⟩ := List.mem_map.mp hg
    obtain ⟨u, hu, heq⟩ := List.mem_map.mp hg'
    have hbelow := hissued.below _ _ (mem_newTokens.mp ht).1
    have hge := issuedTokens_ge _ rest hu
    have : (s.handle event).ledger.nextToken = (s.handle event).nextConferenceMutationGeneration :=
      rfl
    omega

/-- A token that is stored is the only one of its owner. -/
theorem active_unique {t' : ConferenceMutationToken} (h : s.conferenceMutationIsActive t = true)
    (h' : s.conferenceMutationIsActive t' = true) (howner : t.owner = t'.owner) : t = t' := by
  simp only [conferenceMutationIsActive, Bool.and_eq_true, decide_eq_true_eq] at h h'
  have hg := h.1
  rw [howner, h'.1] at hg
  obtain ⟨o, g⟩ := t
  obtain ⟨o', g'⟩ := t'
  cases howner
  cases Option.some.inj hg
  rfl

theorem tokensIssued_handleAll (events : List Event) (h : s.ledger.TokensIssued) :
    (s.handleAll events).ledger.TokensIssued := by
  induction events generalizing s with
  | nil => exact h
  | cons event rest ih => exact ih _ ((s.via_handle event).tokensIssued h)

/-! The tokens that preparations hand out are new. -/

/-- What a successful claim says about its token. -/
def Fresh (s s' : Controller) (t : ConferenceMutationToken) : Prop :=
  s'.ledger.token t.owner = some t.generation ∧ s.ledger.nextToken ≤ t.generation

theorem allocateConferenceMutation_fresh {o : ConferenceMutationOwner}
    (h : s.allocateConferenceMutation o = (s', some t)) : Fresh s s' t := by
  unfold allocateConferenceMutation at h
  split at h
  · cases h
  simp only at h
  split at h
  · cases h
  · cases h
    exact ⟨by simp [ledger, Table.get?_insert], Nat.le_refl _⟩

theorem claimConferenceMutation_fresh {c : CallId} {s' : Controller}
    {t : ConferenceMutationToken} (h : s.claimConferenceMutation c = (s', some t)) :
    Fresh s s' t := by
  unfold claimConferenceMutation at h
  split at h
  · cases h
  · exact s.allocateConferenceMutation_fresh h

theorem claimConferenceMutationById_fresh {i : ConferenceId}
    (h : s.claimConferenceMutationById i = (s', some t)) : Fresh s s' t := by
  unfold claimConferenceMutationById at h
  split at h
  · cases h
  · exact s.allocateConferenceMutation_fresh h

theorem Fresh.after {s s₁ : Controller} (h : Fresh s₁ s' t) (hs : Via s.ledger s₁.ledger) :
    Fresh s s' t :=
  ⟨h.1, Nat.le_trans hs.tokensGrow.next h.2⟩

theorem withToken_fresh {ε : Type} {conflict : ε}
    {claim : Controller → Controller × Option ConferenceMutationToken}
    {begun : Controller × Except ε (List DriverEffect)}
    (hclaim : ∀ (s₁ s' : Controller) t, claim s₁ = (s', some t) → Fresh s₁ s' t)
    (hbegin : Via s.ledger begun.1.ledger)
    (h : (prepared (withToken conflict claim begun)).2 = some (t, effects)) :
    Fresh s (prepared (withToken conflict claim begun)).1 t := by
  obtain ⟨s₁, _ | begunEffects⟩ := begun
  · cases h
  rcases hc : claim s₁ with ⟨s₂, _ | mutation⟩
  · simp [withToken, hc, prepared] at h
  · simp only [withToken, hc, prepared, Option.some.injEq, Prod.mk.injEq] at h ⊢
    obtain ⟨rfl, _⟩ := h
    exact (hclaim _ _ _ hc).after hbegin

theorem prepareConferenceHold_fresh {c : CallId} {isHeld : Bool} {i : ConferenceId}
    {participant : ParticipantId}
    (h : s.prepareConferenceHold c isHeld = (s', .ok (i, participant, t, effects))) :
    Fresh s s' t := by
  have hbegin : Via s.ledger (s.beginConferenceModeratorLegTransition c isHeld).1.ledger :=
    s.via_step (.beginConferenceModeratorLegTransition c isHeld)
  unfold prepareConferenceHold at h
  split at h
  · cases h
  next s₁ begun heq =>
  rw [heq] at hbegin
  split at h
  · cases h
  split at h
  · cases h
  split at h
  · cases h
  · next s₂ mutation hc =>
    cases h
    exact (s₁.claimConferenceMutationById_fresh hc).after hbegin

theorem prepare_fresh {preparation : Preparation}
    (h : (s.prepare preparation).2 = some (t, effects)) : Fresh s (s.prepare preparation).1 t := by
  have hclaim : ∀ (c : CallId) (s₁ s' : Controller) t,
      s₁.claimConferenceMutation c = (s', some t) → Fresh s₁ s' t :=
    fun _ s₁ _ _ => s₁.claimConferenceMutation_fresh
  have hclaimById : ∀ (i : ConferenceId) (s₁ s' : Controller) t,
      s₁.claimConferenceMutationById i = (s', some t) → Fresh s₁ s' t :=
    fun _ s₁ _ _ => s₁.claimConferenceMutationById_fresh
  cases preparation with
  | joinCalls d c permitted policy =>
    exact s.withToken_fresh (hclaim c) (s.via_step (.joinCallsWithMedia d c permitted policy)) h
  | conference request policy =>
    exact s.withToken_fresh (hclaim _) (s.via_step (.beginConferenceWithMedia request policy)) h
  | confirmConference c =>
    exact s.withToken_fresh (hclaim c) (s.via_step (.confirmConference c)) h
  | conferenceInvite c c' binding codec now =>
    exact s.withToken_fresh (hclaim c')
      (s.via_step (.beginConferenceInvite c c' binding codec now)) h
  | confirmConferenceInvite c => exact s.withToken_fresh (hclaim c) (.refl _) h
  | conferenceRemoval d i participant =>
    exact s.withToken_fresh (hclaimById i)
      (s.via_step (.beginConferenceParticipantRemoval d i participant)) h
  | conferenceMute d i participant muted =>
    exact s.withToken_fresh (hclaimById i)
      (s.via_step (.beginConferenceParticipantMute d i participant muted)) h
  | conferenceRoleChange d i participant moderator =>
    exact s.withToken_fresh (hclaimById i)
      (s.via_step (.beginConferenceParticipantRoleChange d i participant moderator)) h
  | conferenceHold c isHeld =>
    rcases heq : s.prepareConferenceHold c isHeld with ⟨s', _ | ⟨i, participant, u, e⟩⟩
    · simp [prepare, heq] at h
    · simp only [prepare, heq, Option.some.injEq, Prod.mk.injEq] at h ⊢
      obtain ⟨rfl, _⟩ := h
      exact s.prepareConferenceHold_fresh heq

theorem Fresh.mem_newTokens {s : Controller} (h : Fresh s s' t) (hs : s.ledger.TokensIssued) :
    t ∈ newTokens s s' :=
  Controller.mem_newTokens.mpr ⟨h.1, fun hold =>
    Nat.lt_irrefl _ (Nat.lt_of_lt_of_le (hs.below _ _ hold) h.2)⟩

theorem tokensIssued_init (firstDigit interdigit : Duration) :
    (withDigitTimeouts firstDigit interdigit).ledger.TokensIssued :=
  ⟨fun _ _ h => (by cases h), fun _ _ _ h => (by cases h)⟩

/-- Over every run: one active token for each owner at most, no generation
    issued twice, every token that a preparation hands out is one of the issued
    ones, and stale tokens change nothing and cause no effect. -/
theorem conference_mutation_tokens (firstDigit interdigit : Duration) (events : List Event) :
    let s := (withDigitTimeouts firstDigit interdigit).handleAll events
    (∀ t t', s.conferenceMutationIsActive t = true → s.conferenceMutationIsActive t' = true →
        t.owner = t'.owner → t = t')
      ∧ ((issuedTokens (withDigitTimeouts firstDigit interdigit) events).map (·.generation)).Nodup
      ∧ (∀ preparation t effects, (s.prepare preparation).2 = some (t, effects) →
        t ∈ newTokens s (s.handle (.prepare preparation)))
      ∧ (∀ t settlement, s.conferenceMutationIsActive t = false → s.settle t settlement = (s, []))
      ∧ (∀ t c heldCalls completedHolds, s.conferenceMutations.get? t.owner ≠ some t.generation →
        s.conferenceDestinationFailed t c heldCalls completedHolds = (s, [])) :=
  ⟨fun _ _ => active_unique _, issuedTokens_nodup _ events (tokensIssued_init ..),
    fun _ _ _ h => (prepare_fresh _ h).mem_newTokens
      (tokensIssued_handleAll _ events (tokensIssued_init ..)),
    fun _ settlement h => settle_stale _ h settlement, fun _ c heldCalls completedHolds h =>
      conferenceDestinationFailed_stale _ h c heldCalls completedHolds⟩

end Controller

end Sccp
