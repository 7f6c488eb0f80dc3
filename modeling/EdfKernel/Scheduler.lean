import EdfKernel.Lifecycle
import EdfKernel.Script
import EdfKernel.Selection
import EdfKernel.Statistics

/-!
One scheduler: its task table behind a lock, the flag that says a pass is
under way, and its counters.
-/

namespace EdfKernel

/-- What a task of the kernel does: a work of its own, or the copy of a pipeline. -/
inductive Work where
  | task (routine : Routine)
  | copy (pipeline : Nat) (routine : Routine)

namespace Work

def advance : Work → Work
  | task routine => .task routine.advance
  | copy pipeline routine => .copy pipeline routine.advance

end Work

structure Scheduler where
  config : SchedulerConfig
  executor : Executor Call
  table : TaskTable Work
  locked : Bool
  inPass : Bool
  statistics : Statistics
  /-- Every handle handed out, in order. -/
  issued : List TaskHandle
  owned : Bool

namespace Scheduler

def fresh (config : SchedulerConfig) (executor : Executor Call) : Scheduler where
  config := config
  executor := executor
  table := .empty config.maxTasks
  locked := false
  inPass := false
  statistics := .zero
  issued := []
  owned := true

def refuse (scheduler : Scheduler) : SchedulerError → Scheduler
  | .busy _ =>
      { scheduler with
        statistics :=
          { scheduler.statistics with
            busyRejections := scheduler.statistics.busyRejections + 1 } }
  | _ => scheduler

def account (scheduler : Scheduler) (selection : Selection) : Scheduler :=
  { scheduler with
    statistics :=
      { scheduler.statistics with
        deadlineMisses :=
          scheduler.statistics.deadlineMisses + if selection.cancelled.isSome then 1 else 0
        repairs := scheduler.statistics.repairs + UInt64.ofNat selection.repaired
        exhaustedRepairs :=
          scheduler.statistics.exhaustedRepairs + UInt64.ofNat selection.exhausted } }

def create (scheduler : Scheduler) (work : Work) (settings : TaskSettings) :
    Option (TaskHandle × Scheduler) :=
  (scheduler.table.alloc (.fresh work settings)).map fun (task, table) =>
    (task, { scheduler with table, issued := scheduler.issued ++ [task] })

def coalesce (scheduler : Scheduler) : Scheduler :=
  { scheduler with
    statistics :=
      { scheduler.statistics with coalesced := scheduler.statistics.coalesced + 1 } }

def beginPass (scheduler : Scheduler) : Scheduler :=
  { scheduler with
    inPass := true
    statistics := { scheduler.statistics with passes := scheduler.statistics.passes + 1 } }

def endPass (scheduler : Scheduler) : Scheduler := { scheduler with inPass := false }

/-- Counts a task handed to the executor, which moves on to its next turn. -/
def countDispatch (scheduler : Scheduler) : Scheduler :=
  { scheduler with
    executor := scheduler.executor.advance
    statistics :=
      { scheduler.statistics with dispatched := scheduler.statistics.dispatched + 1 } }

def snapshots (scheduler : Scheduler) : List TaskSnapshot :=
  scheduler.issued.filterMap fun task =>
    (scheduler.table.find? task).map fun record => record.snapshot task

end Scheduler

end EdfKernel
