import EdfKernel.Config
import EdfKernel.Task

/-!
Why a scheduler refuses a call, what to tell the caller about it and how bad
it is. A task that is running may not be removed, re-admitted or changed; it
is the only refusal that waiting cures.
-/

namespace EdfKernel

inductive SchedulerError where
  | busy (task : TaskHandle)
  | unknownTask (task : TaskHandle)
  | tableFull (capacity : Nat)
  | invalidWindow (task : TaskHandle) (deadlineUs : UInt64)
  | deadlineMissed (task : TaskHandle) (deadline : Ticks)
  | invalidConfig (fault : ConfigFault)
  | line (error : LineError)
deriving DecidableEq, Repr

namespace SchedulerError

def message : SchedulerError → String
  | busy task => s!"{task} is running"
  | unknownTask task => s!"{task} is not a live task"
  | tableFull capacity => s!"task table full ({capacity} slots)"
  | invalidWindow task deadlineUs =>
      s!"{task}: {deadlineUs}us deadline is shorter than one tick"
  | deadlineMissed task deadline => s!"{task} missed its deadline ({deadline})"
  | invalidConfig fault => "invalid scheduler config: " ++ fault.message
  | line error => "scheduler irq: " ++ error.message

def hint : SchedulerError → String
  | busy _ => "Wait for the task to complete, then retry"
  | unknownTask _ => "Handle is stale; re-initialize the task"
  | tableFull _ => "Free unused tasks or raise max_tasks"
  | invalidWindow _ _ => "Use a deadline of at least one clock tick"
  | deadlineMissed _ _ => "Report an xrun and re-admit the task"
  | invalidConfig _ | line _ => "Check scheduler configuration"

def isRecoverable : SchedulerError → Bool
  | invalidConfig _ | line _ => false
  | _ => true

/-- From 0, harmless, to 3, final. -/
def severity : SchedulerError → Nat
  | invalidConfig _ | line _ => 3
  | deadlineMissed _ _ | tableFull _ => 2
  | invalidWindow _ _ | unknownTask _ => 1
  | busy _ => 0

end SchedulerError

end EdfKernel
