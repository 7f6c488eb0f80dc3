import EdfKernel.Error
import EdfKernel.Pipeline
import EdfKernel.Statistics

/-!
What a call answers, and what others can see while it runs. A failure is one
of the scheduler's, one of the interrupt controller's, or a refusal: a call
that names nothing there is.
-/

namespace EdfKernel

/-- What one scheduling pass did and what it leaves to wake for. -/
structure PassOutcome where
  dispatched : Option TaskHandle
  next : Option TaskHandle
deriving DecidableEq, Repr

namespace PassOutcome

def idle : PassOutcome := ⟨none, none⟩

def isIdle (outcome : PassOutcome) : Bool :=
  outcome.dispatched.isNone && outcome.next.isNone

end PassOutcome

inductive Refusal where
  | noScheduler
  | noPipeline
  | schedulerHasPipelines
  | unknownCall
deriving DecidableEq, Repr

namespace Refusal

def message : Refusal → String
  | noScheduler => "no such scheduler"
  | noPipeline => "no such pipeline"
  | schedulerHasPipelines => "scheduler has pipelines"
  | unknownCall => "unknown op"

end Refusal

inductive Failure where
  | scheduler (error : SchedulerError)
  | line (error : LineError)
  | refused (refusal : Refusal)
deriving DecidableEq, Repr

namespace Failure

def message : Failure → String
  | scheduler error => error.message
  | line error => error.message
  | refused refusal => refusal.message

end Failure

inductive Answer where
  | done
  | flag (value : Bool)
  | count (value : Nat)
  | ticks (value : Ticks)
  | depth (value : UInt32)
  | config (value : SchedulerConfig)
  | handle (task : TaskHandle)
  | handles (tasks : List TaskHandle)
  | snapshot (value : Option TaskSnapshot)
  | state (value : TaskState)
  | outcome (value : PassOutcome)
  | statistics (value : Statistics)
  | lineState (pending enabled masked : Bool)
  | guarded (before after : Bool)
  | locked (held after : Bool) (value : UInt64)
  | pipeline (value : Pipeline) (state : Option TaskState)
deriving DecidableEq, Repr

inductive Reply where
  | ok (answer : Answer)
  | failed (failure : Failure)
deriving DecidableEq, Repr

/-- What happens outside the kernel while a call runs. -/
inductive Event where
  | work (task : TaskHandle) (n : Nat)
  | copy (id : UInt32) (n : Nat)
  | execute (task : TaskHandle)
  | interrupt (line : Nat)
  | timer
  | interposed
  | xrun (id bytes : UInt32)
  | returned (reply : Reply)
deriving DecidableEq, Repr

end EdfKernel
