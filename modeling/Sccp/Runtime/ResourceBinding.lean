/-
  Sccp.Runtime.ResourceBinding

  The gate of a resource that callback threads share (`runtime/resource.rs`).

  An operation enters and gets a permit with its own copy of the resource; the resource is
  replaced while no permit is out.  A thread that cannot go on sleeps on the condition
  variable of the binding until it is notified, and may also wake for no reason; either way
  it looks at the state again.  Every method runs under the lock, so a method and a look are
  one step each.

  Beside the state are the threads that sleep, the resources of the permits that are out,
  what `suspend` and `try_suspend` have answered, and what `close` has handed back.
-/

import Sccp.Types
import Sccp.Lib.Table

namespace Sccp

inductive BindingPhase where
  | active
  | suspended
  | closed
  deriving DecidableEq

structure BindingState (T : Type) where
  phase : BindingPhase := .active
  activeOperations : Nat := 0
  current : Option T

structure ThreadId where
  val : Nat
  deriving DecidableEq

/-- The methods that wait. -/
inductive BindingWait where
  | enter
  | suspend
  deriving DecidableEq

/-- The condition of the loop that the method waits in. -/
def BindingState.blocks {T : Type} (state : BindingState T) : BindingWait → Bool
  | .enter => state.phase = .suspended
  | .suspend => state.activeOperations ≠ 0 && state.phase ≠ .closed

structure ResourceBinding (T : Type) where
  state : BindingState T
  /-- What each sleeping thread waits in, and whether it has been notified. -/
  sleeping : Table ThreadId (BindingWait × Bool) := ∅
  permits : List T := []
  suspensions : List (ThreadId × Bool) := []
  handedBack : List T := []

inductive BindingCall (T : Type) where
  | enter
  | tryEnter
  | suspend
  | trySuspend
  | resume
  | replaceQuiescent (resource : T)
  | close

inductive BindingEvent (T : Type) where
  | call (thread : ThreadId) (call : BindingCall T)
  | wake (thread : ThreadId)
  | dropPermit (index : Nat)

namespace ResourceBinding

variable {T : Type} (b : ResourceBinding T)

def new (resource : T) : ResourceBinding T where
  state := { current := some resource }

def notifyAll : ResourceBinding T :=
  { b with sleeping := b.sleeping.mapValues fun _ sleep => (sleep.1, true) }

/-- The end of `enter` and `try_enter`: a permit for the current resource. -/
def grant : ResourceBinding T :=
  match b.state.current with
  | none => b
  | some resource =>
    { b with
      state.activeOperations := b.state.activeOperations + 1
      permits := b.permits ++ [resource] }

def answer (thread : ThreadId) (suspended : Bool) : ResourceBinding T :=
  { b with suspensions := b.suspensions ++ [(thread, suspended)] }

/-- One look at the state in the loop of a method that waits. -/
def look (thread : ThreadId) (wait : BindingWait) : ResourceBinding T :=
  if b.state.blocks wait then { b with sleeping := b.sleeping.insert thread (wait, false) }
  else
    let b := { b with sleeping := b.sleeping.erase thread }
    match wait with
    | .enter => if b.state.phase = .closed then b else b.grant
    | .suspend => b.answer thread (b.state.phase ≠ .closed)

def enter (thread : ThreadId) : ResourceBinding T := b.look thread .enter

def tryEnter : ResourceBinding T := if b.state.phase ≠ .active then b else b.grant

def suspend (thread : ThreadId) : ResourceBinding T :=
  if b.state.phase = .closed then b.answer thread false
  else { b with state.phase := .suspended }.look thread .suspend

def trySuspend (thread : ThreadId) : ResourceBinding T :=
  if b.state.phase ≠ .active ∨ b.state.activeOperations ≠ 0 then b.answer thread false
  else { b with state.phase := .suspended }.answer thread true

def resume : ResourceBinding T :=
  if b.state.phase ≠ .suspended then b else { b with state.phase := .active }.notifyAll

def replaceQuiescent (resource : T) : ResourceBinding T :=
  if b.state.phase = .closed ∨ b.state.activeOperations ≠ 0 then b
  else { b with state.current := some resource }

def close : ResourceBinding T :=
  { b with
    state := { b.state with phase := .closed, current := none }
    handedBack := b.handedBack ++ b.state.current.toList }.notifyAll

/-- The drop of the permit at an index. -/
def dropPermit (index : Nat) : ResourceBinding T :=
  if index < b.permits.length then
    let b := { b with
      state.activeOperations := b.state.activeOperations - 1
      permits := b.permits.eraseIdx index }
    if b.state.activeOperations = 0 then b.notifyAll else b
  else b

def call (thread : ThreadId) : BindingCall T → ResourceBinding T
  | .enter => b.enter thread
  | .tryEnter => b.tryEnter
  | .suspend => b.suspend thread
  | .trySuspend => b.trySuspend thread
  | .resume => b.resume
  | .replaceQuiescent resource => b.replaceQuiescent resource
  | .close => b.close

/-- A thread that sleeps calls nothing. -/
def handle : BindingEvent T → ResourceBinding T
  | .call thread call => if b.sleeping.contains thread then b else b.call thread call
  | .wake thread =>
    match b.sleeping.get? thread with
    | none => b
    | some (wait, _) => b.look thread wait
  | .dropPermit index => b.dropPermit index

end ResourceBinding

end Sccp
