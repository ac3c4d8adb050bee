/-
  Sccp.Ledger.Events

  Preparations and settlements are sequences of moves, like the operations they
  are made of.
-/

import Sccp.Ledger.Coherence

namespace Sccp

open Ledger (Via)

namespace Controller

variable (s : Controller)

theorem via_withToken {ε : Type} {conflict : ε}
    {claim : Controller → Controller × Option ConferenceMutationToken}
    {begun : Controller × Except ε (List DriverEffect)}
    (hclaim : ∀ s' : Controller, Via s'.ledger (claim s').1.ledger)
    (hbegin : Via s.ledger begun.1.ledger) :
    Via s.ledger (prepared (withToken conflict claim begun)).1.ledger := by
  obtain ⟨s₁, _ | effects⟩ := begun
  · exact hbegin
  have h := hclaim s₁
  rcases hc : claim s₁ with ⟨s₂, _ | mutation⟩ <;>
    · rw [hc] at h
      simp only [withToken, hc, prepared]
      exact Via.trans hbegin h

theorem via_prepareConferenceHold (c : CallId) (isHeld : Bool) :
    Via s.ledger (s.prepareConferenceHold c isHeld).1.ledger := by
  have hbegin : Via s.ledger (s.beginConferenceModeratorLegTransition c isHeld).1.ledger :=
    s.via_step (.beginConferenceModeratorLegTransition c isHeld)
  unfold prepareConferenceHold
  split
  · next s₁ _ heq =>
    rw [heq] at hbegin
    exact hbegin
  next s₁ effects heq =>
  rw [heq] at hbegin
  split
  · exact hbegin
  next session _ =>
  split
  · exact hbegin
  have hclaim : Via s₁.ledger (s₁.claimConferenceMutationById session.id).1.ledger :=
    via_claimConferenceMutationById
  split
  · next s₂ hc =>
    rw [hc] at hclaim
    exact Via.trans hbegin hclaim
  · next s₂ mutation hc =>
    rw [hc] at hclaim
    exact Via.trans hbegin hclaim

theorem via_prepare (preparation : Preparation) :
    Via s.ledger (s.prepare preparation).1.ledger := by
  have hclaim : ∀ (c : CallId) (s' : Controller),
      Via s'.ledger (s'.claimConferenceMutation c).1.ledger :=
    fun _ _ => via_claimConferenceMutation
  have hclaimById : ∀ (i : ConferenceId) (s' : Controller),
      Via s'.ledger (s'.claimConferenceMutationById i).1.ledger :=
    fun _ _ => via_claimConferenceMutationById
  cases preparation with
  | joinCalls d c permitted policy =>
    exact s.via_withToken (hclaim c) (s.via_step (.joinCallsWithMedia d c permitted policy))
  | conference request policy =>
    exact s.via_withToken (hclaim _) (s.via_step (.beginConferenceWithMedia request policy))
  | confirmConference c =>
    exact s.via_withToken (hclaim c) (s.via_step (.confirmConference c))
  | conferenceInvite c c' binding codec now =>
    exact s.via_withToken (hclaim c') (s.via_step (.beginConferenceInvite c c' binding codec now))
  | confirmConferenceInvite c => exact s.via_withToken (hclaim c) (.refl _)
  | conferenceRemoval d i participant =>
    exact s.via_withToken (hclaimById i)
      (s.via_step (.beginConferenceParticipantRemoval d i participant))
  | conferenceMute d i participant muted =>
    exact s.via_withToken (hclaimById i)
      (s.via_step (.beginConferenceParticipantMute d i participant muted))
  | conferenceRoleChange d i participant moderator =>
    exact s.via_withToken (hclaimById i)
      (s.via_step (.beginConferenceParticipantRoleChange d i participant moderator))
  | conferenceHold c isHeld =>
    have hhold := s.via_prepareConferenceHold c isHeld
    rcases heq : s.prepareConferenceHold c isHeld with ⟨s', _ | ⟨_, _, mutation, effects⟩⟩ <;>
      · rw [heq] at hhold
        simp only [prepare, heq]
        exact hhold

theorem via_reserved {α : Type} {mutation : ConferenceMutationToken} {stale : α}
    {operation : Controller → Controller × α} (h : Via s.ledger (operation s).1.ledger) :
    Via s.ledger (s.reserved mutation stale operation).1.ledger := by
  unfold reserved
  split
  · exact .refl _
  · exact h.trans via_completeConferenceMutation

theorem via_commitHold (i : ConferenceId) (participant : ParticipantId) (isHeld : Bool)
    (music : List ParticipantId) (attempted : Bool) :
    Via s.ledger (match s.conferenceModeratorLegTransitioned i participant isHeld with
      | (s, true) => (s, true, [])
      | (s, false) =>
        let (s, rollback) := s.abortConferenceModeratorLegTransition i participant isHeld music
          attempted
        (s, false, rollback)).1.ledger := by
  have hdone : Via s.ledger (s.conferenceModeratorLegTransitioned i participant isHeld).1.ledger :=
    s.via_step (.conferenceModeratorLegTransitioned i participant isHeld)
  split
  · next s' heq =>
    rw [heq] at hdone
    exact hdone
  next s' heq =>
  rw [heq] at hdone
  exact Via.trans hdone
    (s'.via_step (.abortConferenceModeratorLegTransition i participant isHeld music attempted))

theorem via_settle (mutation : ConferenceMutationToken) (settlement : Settlement) :
    Via s.ledger (s.settle mutation settlement).1.ledger := by
  cases settlement with
  | abortRemoval i participant =>
    exact s.via_reserved (s.via_step (.abortConferenceParticipantRemoval i participant))
  | commitRemoval i participant =>
    show Via s.ledger (s.commitReservedConferenceRemoval mutation i participant).1.ledger
    exact s.via_reserved (s.via_step (.conferenceParticipantRemoved i participant))
  | abortMute i participant muted =>
    exact s.via_reserved (s.via_step (.abortConferenceParticipantMute i participant muted))
  | commitMute i participant muted =>
    exact s.via_reserved (s.via_step (.conferenceParticipantMuted i participant muted))
  | abortRoleChange i participant moderator =>
    exact s.via_reserved
      (s.via_step (.abortConferenceParticipantRoleChange i participant moderator))
  | commitRoleChange i participant moderator =>
    exact s.via_reserved (s.via_step (.conferenceParticipantRoleChanged i participant moderator))
  | abortConference c created channel needsResume media =>
    exact s.via_reserved (via_abortConference ..)
  | commitConference c i =>
    have hmerge : Via s.ledger (s.conferenceMerged c).1.ledger :=
      s.via_step (.conferenceMerged c)
    show Via s.ledger (s.commitReservedConference mutation c i).1.ledger
    refine s.via_reserved ?_
    rcases heq : s.conferenceMerged c with ⟨s', _ | _⟩ <;>
      · rw [heq] at hmerge
        exact hmerge
  | abortInvite c channel needsResume media =>
    exact s.via_reserved (via_abortConferenceInvite ..)
  | commitInvite c i participant =>
    have hmerge : Via s.ledger (s.conferenceInviteMerged c).1.ledger :=
      s.via_step (.conferenceInviteMerged c)
    show Via s.ledger (s.commitReservedConferenceInvite mutation c i participant).1.ledger
    refine s.via_reserved ?_
    rcases heq : s.conferenceInviteMerged c with ⟨s', _ | _⟩ <;>
      · rw [heq] at hmerge
        exact hmerge
  | abortJoin c created resumed =>
    exact s.via_reserved (s.via_step (.abortJoinConference c created resumed))
  | abortHold i participant isHeld music attempted =>
    exact s.via_reserved
      (s.via_step (.abortConferenceModeratorLegTransition i participant isHeld music attempted))
  | commitHold i participant isHeld music attempted =>
    show Via s.ledger (s.commitReservedHold mutation i participant isHeld music attempted).1.ledger
    exact s.via_reserved (s.via_commitHold i participant isHeld music attempted)

theorem via_handle (event : Event) : Via s.ledger (s.handle event).ledger := by
  cases event with
  | operate op => exact s.via_step op
  | prepare preparation => exact s.via_prepare preparation
  | settle mutation settlement => exact s.via_settle mutation settlement

/-- Every run of the controller is a sequence of enabled moves of the ledger. -/
theorem via_handleAll (events : List Event) : Via s.ledger (s.handleAll events).ledger := by
  induction events generalizing s with
  | nil => exact .refl _
  | cons event rest ih => exact (s.via_handle event).trans (ih _)

/-! ## Sessions -/

theorem sessionsSound_init (firstDigit interdigit : Duration) :
    (withDigitTimeouts firstDigit interdigit).ledger.SessionsSound where
  keyed := fun _ _ h => by cases h
  single := fun _ _ _ _ h => by cases h
  early := fun _ _ h => by cases h

theorem sessionsSound_handleAll (events : List Event) (h : s.ledger.SessionsSound) :
    (s.handleAll events).ledger.SessionsSound := by
  induction events generalizing s with
  | nil => exact h
  | cons event rest ih => exact ih _ ((s.via_handle event).sessionsSound h)

end Controller

end Sccp
