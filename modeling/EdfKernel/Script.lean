import EdfKernel.Config
import EdfKernel.Pipeline

/-!
The calls of the kernel, and scripts of them. A work, a handler, an armed
wake-up and whatever interrupts the kernel at a lock are scripts: lists of
calls to make, each of which may carry scripts of its own. A script stands
for code outside the kernel, so a statement about all scripts is a statement
about all that such code can do to the kernel in one run.
-/

namespace EdfKernel

/-- One run of a work: the calls it makes and what it returns. -/
structure Turn (κ : Type) where
  calls : List κ
  status : WorkStatus

/-- Calls of the platform: clock, timer and interrupt controller. -/
inductive PlatformCall (κ : Type) where
  | now
  | setClock (instant : Ticks)
  | advanceClock (delta : Ticks)
  | step
  | advance (delta : Ticks)
  | armTimer (instant : Ticks) (script : List κ)
  | disarmTimer
  | pollTimer (now : Ticks)
  | register (line : Nat) (scripts : List (List κ))
  | enable (line : Nat)
  | disable (line : Nat)
  | request (line : Nat)
  | clear (line : Nat)
  | lineState (line : Nat)
  | mask
  | unmask
  | dispatch
  | guarded (script : List κ)
  | locked (value add : UInt64) (script : List κ)

/-- Calls of one scheduler. A task that is not named is the current one. -/
inductive SchedulerCall (κ : Type) where
  | create (turns : List (Turn κ)) (settings : TaskSettings)
  | configure (task : Option TaskHandle) (settings : TaskSettings)
  | retire (task : Option TaskHandle)
  | insert (task : Option TaskHandle) (startUs deadlineUs : UInt64)
  | cancel (task : Option TaskHandle)
  | complete (task : Option TaskHandle)
  | inspect (task : Option TaskHandle)
  | check (task : Option TaskHandle)
  | queued
  | queuedLength
  | requestPass
  | timerFired
  | run
  | runPass
  | now
  | statistics
  | createPipeline (desc : PipelineDesc) (turns : List (Turn κ))

/-- Calls of one pipeline. -/
inductive PipelineCall where
  | command (command : PipelineCommand)
  | scheduleCopy (startUs : UInt64)
  | xrun (bytes : UInt32)
  | checkDeadline
  | free
  | describe
  | unknown
deriving DecidableEq, Repr

/-- What is left of a list of turns once the first was taken; the last one repeats. -/
def laterTurns {α : Type} : List α → List α
  | _ :: next :: rest => next :: rest
  | turns => turns

/-- One call of an executor: what it calls before and after the work, whether
it runs the work at all, and what it answers in the work's place. -/
structure ExecutorTurn (κ : Type) where
  before : List κ
  runs : Bool
  after : List κ
  status : Option WorkStatus

/-- Who runs the works of a scheduler: the pass itself, or an executor with a
turn for each task it is handed. -/
inductive Executor (κ : Type) where
  | inline
  | custom (turns : List (ExecutorTurn κ))

namespace Executor

variable {κ : Type}

def isInline : Executor κ → Bool
  | inline => true
  | custom _ => false

/-- The turn that comes next; without one, the work is just run. -/
def turn : Executor κ → ExecutorTurn κ
  | custom (turn :: _) => turn
  | _ => ⟨[], true, [], none⟩

def advance : Executor κ → Executor κ
  | inline => inline
  | custom turns => custom (laterTurns turns)

end Executor

inductive Call where
  | init (config : SchedulerConfig) (executor : Executor Call)
  | drop (number : Nat)
  | platform (call : PlatformCall Call)
  | scheduler (number : Nat) (call : SchedulerCall Call)
  | pipeline (number : Nat) (call : PipelineCall)
  | unknown

instance : Inhabited Call := ⟨.unknown⟩

abbrev Script := List Call

/-- A work that runs again and again: once its turns are used up, the last one
repeats. -/
structure Routine where
  turns : List (Turn Call)
  runs : Nat

namespace Routine

def ofTurns (turns : List (Turn Call)) : Routine := ⟨turns, 0⟩

/-- The turn that comes next; a work without turns does nothing and is done. -/
def turn (routine : Routine) : Turn Call :=
  match routine.turns[routine.runs]? with
  | some turn => turn
  | none => routine.turns.getLastD ⟨[], .done⟩

def advance (routine : Routine) : Routine := { routine with runs := routine.runs + 1 }

end Routine

end EdfKernel
