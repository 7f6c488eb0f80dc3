import EdfKernel.Task

/-!
A pipeline is a task that copies audio. It is active between a start or
release and the next pause or stop, and it reports at most one overrun per
start. A timer-driven pipeline asks for its next period after every copy.
-/

namespace EdfKernel

structure PipelineDesc where
  id : UInt32
  deadlineUs : UInt64
  maxRuntime : Ticks
  priority : UInt16
  core : UInt8
  timerDriven : Bool
deriving DecidableEq, Repr

namespace PipelineDesc

def settings (desc : PipelineDesc) : TaskSettings :=
  ⟨desc.maxRuntime, desc.priority, desc.core⟩

end PipelineDesc

inductive PipelineCommand where
  | start
  | release
  | pause
  | stop
  | suspend
  | resume
deriving DecidableEq, Repr

namespace PipelineCommand

def name : PipelineCommand → String
  | start => "Start"
  | release => "Release"
  | pause => "Pause"
  | stop => "Stop"
  | suspend => "Suspend"
  | resume => "Resume"

end PipelineCommand

structure Pipeline where
  scheduler : Nat
  task : TaskHandle
  desc : PipelineDesc
  active : Bool
  xrunReported : Bool
deriving DecidableEq, Repr

namespace Pipeline

def activate (pipeline : Pipeline) : Pipeline :=
  { pipeline with active := true, xrunReported := false }

def deactivate (pipeline : Pipeline) : Pipeline :=
  { pipeline with active := false }

/-- An overrun is reported unless the pipeline is idle or has reported one. -/
def mayReport (pipeline : Pipeline) : Bool :=
  pipeline.active && !pipeline.xrunReported

def status (pipeline : Pipeline) : WorkStatus :=
  if pipeline.desc.timerDriven && pipeline.active then
    .reschedule pipeline.desc.deadlineUs pipeline.desc.deadlineUs
  else .done

end Pipeline

end EdfKernel
