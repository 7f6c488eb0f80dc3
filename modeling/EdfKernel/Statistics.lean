/-!
Counters of one scheduler. Each is a 64-bit word and wraps.
-/

namespace EdfKernel

structure Statistics where
  /-- Passes that ran. -/
  passes : UInt64
  /-- Passes asked for while one was running. -/
  coalesced : UInt64
  /-- Works handed to the executor. -/
  dispatched : UInt64
  /-- Tasks the selector cancelled. -/
  deadlineMisses : UInt64
  /-- Late tasks the selector moved to a later window. -/
  repairs : UInt64
  /-- Repairs that lost the phase. -/
  exhaustedRepairs : UInt64
  /-- Calls refused because the task was running. -/
  busyRejections : UInt64
deriving DecidableEq, Repr

namespace Statistics

def zero : Statistics := ⟨0, 0, 0, 0, 0, 0, 0⟩

end Statistics

end EdfKernel
