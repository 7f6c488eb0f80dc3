import EdfKernel.Notice
import EdfKernel.Table

/-!
Earliest deadline first. One scan of the queue, in admission order, finds the
queued task whose effective deadline is nearest to the current time, ties
going to the task admitted first. Of the tasks that missed their slot the
first is cancelled and leaves the queue; the others are moved to a later
window and keep their place, and are not candidates in the same scan.
-/

namespace EdfKernel

structure Selection where
  next : Option TaskHandle
  cancelled : Option TaskHandle
  repaired : Nat
  exhausted : Nat
deriving DecidableEq, Repr

/-- A scan under way. `slack` is the time left to the nearest deadline so far;
a task is a candidate only if it beats it. -/
structure Scan (ω : Type) where
  table : TaskTable ω
  selection : Selection
  slack : Ticks
  notices : List Notice

namespace Scan

variable {ω : Type}

def start (table : TaskTable ω) : Scan ω := ⟨table, ⟨none, none, 0, 0⟩, Ticks.last, []⟩

/-- A task that can still run: it is next if its deadline is nearer than any before. -/
def consider (scan : Scan ω) (current : Ticks) (task : TaskHandle) (timing : Timing) : Scan ω :=
  -- The task is not late, so the difference is that of the numbers.
  let slack := timing.effectiveDeadline - current
  if slack < scan.slack then
    { scan with slack, selection := { scan.selection with next := some task } }
  else scan

def giveUp (scan : Scan ω) (current : Ticks) (task : TaskHandle) (timing : Timing) : Scan ω :=
  { scan with
    table := (scan.table.update task (·.cancel .deadlineMissed)).dequeue task
    selection := { scan.selection with cancelled := some task }
    notices := scan.notices ++ [.missed task timing.effectiveDeadline current] }

def repair (scan : Scan ω) (current : Ticks) (task : TaskHandle) (timing : Timing) : Scan ω :=
  let (later, realignment) := timing.realign current
  { scan with
    table := scan.table.update task fun record => { record with timing := later }
    selection :=
      { scan.selection with
        repaired := scan.selection.repaired + 1
        exhausted := scan.selection.exhausted + if realignment.isExhausted then 1 else 0 }
    notices := scan.notices ++
      [if realignment.isExhausted then .restarted task later.start
        else .realigned task later.start later.deadline] }

def visit (current : Ticks) (scan : Scan ω) (task : TaskHandle) : Scan ω :=
  match scan.table.find? task with
  | none => scan
  | some record =>
      if record.state ≠ .queued then scan
      else if !record.timing.isMissed current then scan.consider current task record.timing
      else if scan.selection.cancelled.isNone then scan.giveUp current task record.timing
      else scan.repair current task record.timing

end Scan

namespace TaskTable

/-- Scans the queue once at `current`. -/
def select {ω : Type} (table : TaskTable ω) (current : Ticks) : Scan ω :=
  table.queue.foldl (Scan.visit current) (Scan.start table)

end TaskTable

end EdfKernel
