/-
  Sccp.Runtime.CallbackUpdates

  Bounded delivery of native callbacks (`runtime/callback_updates.rs`).

  Each key retains its first update and the latest subsequent value of one
  generation; a terminal update stays until it is consumed.  `entries` and `order`
  are behind one lock, so that an operation is one step.
-/

import Sccp.Lib.Table

namespace Sccp

structure PendingUpdate (V : Type*) where
  generation : Nat
  first : V
  latest : Option V
  terminal : Bool
  deriving DecidableEq

/-- `wake` is whether a permit of the worker's `Notify` is stored. -/
structure CallbackUpdates (K V : Type*) where
  capacity : Nat
  entries : Table K (PendingUpdate V)
  order : List K
  wake : Bool

/-- What a callback hands in for its key. -/
structure CallbackUpdate (V : Type*) where
  generation : Nat
  value : V
  terminal : Bool
  deriving DecidableEq

namespace CallbackUpdates

variable {K V : Type*} [DecidableEq K]

def new (capacity : Nat) : CallbackUpdates K V := ⟨capacity, ∅, [], false⟩

/-- The entry of a key that becomes pending, or is taken over by a generation. -/
def pendingUpdate (update : CallbackUpdate V) : PendingUpdate V where
  generation := update.generation
  first := update.value
  latest := none
  terminal := update.terminal

variable (c : CallbackUpdates K V)

/-- A replacement generation supersedes queued values for an old subscription.
    Terminal updates cannot be overwritten by later callbacks from that generation. -/
def push (key : K) (update : CallbackUpdate V) : CallbackUpdates K V × Bool :=
  match c.entries.get? key with
  | some entry =>
    if entry.generation = update.generation then
      let entry := if !entry.terminal then
          { entry with latest := some update.value, terminal := update.terminal }
        else entry
      ({ c with entries := c.entries.insert key entry, wake := true }, true)
    -- a callback of an old subscription: nothing is queued and nobody is woken
    else if entry.generation > update.generation then (c, true)
    else ({ c with entries := c.entries.insert key (pendingUpdate update), wake := true }, true)
  | none =>
    if c.capacity ≤ c.entries.size then (c, false)
    else
      ({ c with
          order := c.order ++ [key]
          entries := c.entries.insert key (pendingUpdate update)
          wake := true }, true)

/-- Call only after the source has been unregistered and its callbacks joined. -/
def discard (retired : K → Bool) : CallbackUpdates K V :=
  let entries := c.entries.filter fun key _ => !retired key
  { c with entries := entries, order := c.order.filter entries.contains }

/-- The worker consumes one key at a time. -/
def pop : CallbackUpdates K V × Option (V × Option V) :=
  match c.order with
  | [] => (c, none)
  | key :: order =>
    ({ c with
        order := order
        entries := c.entries.erase key
        wake := c.wake || !order.isEmpty },
      (c.entries.get? key).map fun entry => (entry.first, entry.latest))

/-- A call of one of the three. -/
inductive Operation (K V : Type*)
  | push (key : K) (update : CallbackUpdate V)
  | discard (retired : K → Bool)
  | pop

/-- What the operations do to the queue. -/
def step : CallbackUpdates K V → Operation K V → CallbackUpdates K V
  | c, .push key update => (c.push key update).1
  | c, .discard retired => c.discard retired
  | c, .pop => c.pop.1

end CallbackUpdates

end Sccp
