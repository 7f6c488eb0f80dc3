import EdfKernel.Reply
import EdfKernel.Scheduler

/-!
What the kernel still has to do. A section is what happens in one hold of a
scheduler's table lock; an activity is one indivisible thing to do. The work
left is a stack of activities, so a callback's calls come before the rest of
whatever called it.

A pass is a chain: it selects, dispatches, executes, finishes, perhaps
reinserts, and concludes. While it is under way, exactly one link of the chain
is on the stack, with whatever the link has called on top.
-/

namespace EdfKernel

/-- A task handed to the executor: when the pass selected it, what the pass
will wake for, and whether it is to arm the timer for that. -/
structure Dispatch where
  task : TaskHandle
  current : Ticks
  next : Option TaskHandle
  wake : Bool
deriving DecidableEq, Repr

namespace Dispatch

def outcome (dispatch : Dispatch) : PassOutcome := ⟨some dispatch.task, dispatch.next⟩

end Dispatch

inductive Section where
  | create (routine : Routine) (settings : TaskSettings)
  | createPipeline (desc : PipelineDesc) (routine : Routine)
  | configure (task : TaskHandle) (settings : TaskSettings)
  | retire (task : TaskHandle)
  | insert (task : TaskHandle) (startUs deadlineUs : UInt64)
  | cancel (task : TaskHandle)
  | complete (task : TaskHandle)
  | inspect (task : TaskHandle)
  | check (task : TaskHandle)
  | queued
  | queuedLength
  | describe (pipeline : Pipeline)
  | checkDeadline (number : Nat) (task : TaskHandle)
  /-- A pass looks for a task; it will arm the timer if `wake`. -/
  | select (wake : Bool)
  /-- A pass takes the task it found due at `current`. -/
  | dispatch (wake : Bool) (current : Ticks) (task : TaskHandle)
  /-- A pass puts the work back. -/
  | finish (dispatch : Dispatch) (work : Option Work) (status : WorkStatus)
  /-- A pass admits the task again, as its work asked. -/
  | reinsert (dispatch : Dispatch) (startUs deadlineUs : UInt64)
  /-- A run looks when its next task starts. -/
  | wake (outcome : PassOutcome) (task : TaskHandle)

/-- Where the status of an executed work comes from. -/
inductive Verdict where
  | fixed (status : WorkStatus)
  /-- The pipeline decides, after its copy. -/
  | pipeline (number : Nat)
deriving DecidableEq, Repr

/-- Who takes the number of handlers that a dispatch ran: its caller, or a
round of a step with `rounds` more to go. -/
inductive Tally where
  | caller
  | round (rounds delivered : Nat) (fired : Bool)
deriving DecidableEq, Repr

inductive Activity where
  | call (current : Option TaskHandle) (call : Call)
  | script (current : Option TaskHandle) (script : Script)
  /-- Shows the reply of the call just made. -/
  | report
  /-- Is about to mask interrupts and take a lock: others may come first. -/
  | acquire (scheduler : Nat) (part : Section)
  | enter (scheduler : Nat) (part : Section)
  | leave (scheduler : Nat)
  | execute (scheduler : Nat) (dispatch : Dispatch) (work : Option Work)
  /-- The executor comes to the work. -/
  | engage (scheduler : Nat) (dispatch : Dispatch) (work : Work) (turn : ExecutorTurn Call)
  | returned (scheduler : Nat) (dispatch : Dispatch) (work : Work) (verdict : Verdict)
      (after : Script)
  | conclude (scheduler : Nat) (wake : Bool) (outcome : PassOutcome)
  | xrun (pipeline : Nat) (bytes : UInt32)
  | round (rounds delivered : Nat)
  | dispatch (tally : Tally)
  | sweep (line delivered : Nat) (tally : Tally)
  | unguard
  | unlock (value : UInt64)
  | reply (reply : Reply)

namespace Activity

def scheduler? : Activity → Option Nat
  | acquire scheduler _ | enter scheduler _ | leave scheduler | execute scheduler _ _
  | engage scheduler _ _ _ | returned scheduler _ _ _ _ | conclude scheduler _ _ =>
      some scheduler
  | _ => none

end Activity

end EdfKernel
