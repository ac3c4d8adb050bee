/-
  Sccp.Ledger.Coherence

  What the end of a call and of an appearance leaves alone: the detached
  appearances edit the four call tables, the pointers and the claims, and a call
  that ends takes along what is tied to it.
-/

import Sccp.Ledger.Step

namespace Sccp

open Ledger (Via)
open Function (update)

namespace Ledger

variable {l : Ledger}

/-! ## What an ending call leaves alone -/

/-- Detaching appearances edits the four tables, the pointers and the claims. -/
theorem detachAll_eq (l : Ledger) (ids : List CallAppearanceId) :
    ∃ call app bySccp byDevice device claim, l.detachAll ids =
      { l with
        call := call, app := app, bySccp := bySccp, byDevice := byDevice, device := device
        claim := claim } := by
  induction ids generalizing l with
  | nil => exact ⟨l.call, l.app, l.bySccp, l.byDevice, l.device, l.claim, rfl⟩
  | cons a rest ih =>
    obtain ⟨_, _, _, _, _, _, h⟩ := ih (l.detach a)
    rw [detachAll, h]
    unfold detach
    split
    · exact ⟨_, _, _, _, _, _, rfl⟩
    · exact ⟨_, _, _, _, _, _, rfl⟩

theorem detach_eq (l : Ledger) (a : CallAppearanceId) :
    ∃ call app bySccp byDevice device claim, l.detach a =
      { l with
        call := call, app := app, bySccp := bySccp, byDevice := byDevice, device := device
        claim := claim } := l.detachAll_eq [a]

/-- The end of a call also releases what is tied to the call. -/
theorem endCall_eq (l : Ledger) (p : PbxCallId) :
    ∃ call app bySccp byDevice device claim, l.endCall p =
      { l with
        call := call, app := app, bySccp := bySccp, byDevice := byDevice, device := device
        claim := claim
        token := update l.token (.destination p) none
        divert := fun d => (l.divert d).filter (·.pbxCallId ≠ p)
        redirect := fun q => l.redirect q ∧ q ≠ p } := by
  obtain ⟨_, _, _, _, _, _, h⟩ := (l.release p).detachAll_eq (((l.call p).map (·.ids)).getD [])
  rw [endCall, h]
  exact ⟨_, _, _, _, _, _, rfl⟩

end Ledger

end Sccp
