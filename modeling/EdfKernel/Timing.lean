import EdfKernel.Ticks

/-!
The window of a task: when it may start, when it must be over, and how much
of the end its runtime budget reserves. A task that slipped past the last
instant at which it could still start is moved to a later window of twice the
length; `realign` looks for one in phase with the old window and otherwise
restarts one window after the current time.
-/

namespace EdfKernel

structure Timing where
  start : Ticks
  deadline : Ticks
  maxRuntime : Ticks
deriving DecidableEq, Repr

namespace Timing

def unset (maxRuntime : Ticks) : Timing := ⟨0, 0, maxRuntime⟩

/-- The latest instant that still leaves the runtime budget before the deadline. -/
def effectiveDeadline (timing : Timing) : Ticks :=
  timing.deadline.satSub timing.maxRuntime

/-- Too late to start: the budget no longer fits before the deadline. -/
def isMissed (timing : Timing) (current : Ticks) : Bool :=
  timing.effectiveDeadline ≤ current

def window (timing : Timing) : Ticks :=
  timing.deadline.satSub timing.start

def place (timing : Timing) (start length : Ticks) : Timing :=
  { timing with start, deadline := start.satAdd length }

/-- How many whole windows `realign` tries before it gives up the phase. -/
def alignTries : Nat := 10

inductive Realignment where
  /-- The phase is kept, after this many whole windows. -/
  | aligned (attempts : Nat)
  /-- No window in phase is far enough ahead; the task restarts. -/
  | exhausted
deriving DecidableEq, Repr

namespace Realignment

def isExhausted : Realignment → Bool
  | aligned _ => false
  | exhausted => true

end Realignment

/-- Moves `start` on by one length at a time, at most `tries` times, until it
passes `horizon`; a start beyond `latest` would cut the window short. -/
def seek (length horizon latest : Ticks) (start : Ticks) (attempt : Nat) :
    (tries : Nat) → Option (Ticks × Nat)
  | 0 => none
  | tries + 1 =>
      let start := start.satAdd length
      if latest < start then none
      else if horizon < start then some (start, attempt)
      else seek length horizon latest start (attempt + 1) tries

/-- The next window for a task that missed this one, twice as long and at
least one such length after `current` as far as the tick range allows. -/
def realign (timing : Timing) (current : Ticks) : Timing × Realignment :=
  let length := timing.window.satMul 2
  let latest := Ticks.last.satSub length
  let horizon := min (current.satAdd length) latest
  match seek length horizon latest timing.start 1 alignTries with
  | some (start, attempts) => (timing.place start length, .aligned attempts)
  | none => (timing.place horizon length, .exhausted)

@[simp] theorem realign_maxRuntime (timing : Timing) (current : Ticks) :
    (timing.realign current).1.maxRuntime = timing.maxRuntime := by
  simp only [realign]
  split <;> rfl

theorem toNat_effectiveDeadline (timing : Timing) :
    timing.effectiveDeadline.toNat = timing.deadline.toNat - timing.maxRuntime.toNat :=
  Ticks.toNat_satSub _ _

theorem toNat_window (timing : Timing) :
    timing.window.toNat = timing.deadline.toNat - timing.start.toNat :=
  Ticks.toNat_satSub _ _

theorem isMissed_iff (timing : Timing) (current : Ticks) :
    timing.isMissed current = true ↔
      timing.deadline.toNat - timing.maxRuntime.toNat ≤ current.toNat := by
  simp only [isMissed, decide_eq_true_eq, UInt64.le_iff_toNat_le, toNat_effectiveDeadline]

end Timing

end EdfKernel
