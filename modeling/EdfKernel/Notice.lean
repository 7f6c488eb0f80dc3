import EdfKernel.Error
import EdfKernel.Log
import EdfKernel.Pipeline

/-!
What the kernel tells its log. A notice is a fact; its level, the part of the
kernel that it comes from and its wording are read off it.
-/

namespace EdfKernel

inductive Notice where
  | schedulerUp (config : SchedulerConfig)
  | registered (task : TaskHandle) (live capacity : Nat) (settings : TaskSettings)
  | tableFull (capacity : Nat)
  | freed (task : TaskHandle)
  | queued (task : TaskHandle) (start deadline : Ticks)
  | wake (task : TaskHandle) (start : Ticks)
  | idlePass (current : Ticks)
  | notDue (current : Ticks) (task : TaskHandle) (start : Ticks)
  | dispatch (task : TaskHandle) (current : Ticks)
  | noWork (task : TaskHandle)
  | changedWhileRunning (task : TaskHandle)
  | notRescheduled (task : TaskHandle) (error : SchedulerError)
  | missed (task : TaskHandle) (deadline current : Ticks)
  | restarted (task : TaskHandle) (start : Ticks)
  | realigned (task : TaskHandle) (start deadline : Ticks)
  | pipelineCreated (id : UInt32) (task : TaskHandle)
  | pipelineCommand (id : UInt32) (command : PipelineCommand)
  | pipelineXrun (id bytes : UInt32)
deriving DecidableEq, Repr

namespace Notice

def level : Notice → LogLevel
  | noWork _ => .error
  | tableFull _ | notRescheduled _ _ | missed _ _ _ | restarted _ _ | pipelineXrun _ _ => .warn
  | schedulerUp _ => .info
  | registered _ _ _ _ | freed _ | queued _ _ _ | changedWhileRunning _ | realigned _ _ _
  | pipelineCreated _ _ | pipelineCommand _ _ => .debug
  | wake _ _ | idlePass _ | notDue _ _ _ | dispatch _ _ => .trace

def target : Notice → String
  | missed _ _ _ | restarted _ _ | realigned _ _ _ => "reef_kernel::scheduler::realtime::edf"
  | pipelineCreated _ _ | pipelineCommand _ _ | pipelineXrun _ _ => "reef_kernel::pipeline"
  | _ => "reef_kernel::scheduler::core::scheduler"

def message : Notice → String
  | schedulerUp ⟨rate, cost, line, slots⟩ =>
      s!"sched: EDF scheduler up ({rate} Hz, {slots} slots, cost {cost} ticks, " ++
        lineName line ++ ")"
  | registered task live capacity ⟨runtime, priority, core⟩ =>
      s!"sched: {task} registered, {live}/{capacity} slots " ++
        s!"(runtime {runtime} ticks, prio {priority}, core {core})"
  | tableFull capacity => s!"sched: task table full ({capacity} slots)"
  | freed task => s!"sched: {task} freed"
  | queued task start deadline => s!"sched: {task} queued for {start}..{deadline}"
  | wake task start => s!"sched: wake for {task} at {start}"
  | idlePass current => s!"sched: pass at {current}: idle"
  | notDue current task start => s!"sched: pass at {current}: {task} due at {start}"
  | dispatch task current => s!"sched: dispatch {task} at {current}"
  | noWork task => s!"sched: {task} has no work attached"
  | changedWhileRunning task => s!"sched: {task} changed state while running"
  | notRescheduled task error => s!"sched: {task} not rescheduled: " ++ error.message
  | missed task deadline current =>
      s!"edf: {task} missed its slot (deadline {deadline} <= now {current}), cancelled"
  | restarted task start => s!"edf: {task} slipped too far, restarted at {start}"
  | realigned task start deadline => s!"edf: {task} realigned to {start}..{deadline}"
  | pipelineCreated id task => s!"pipe{id}: created on {task}"
  | pipelineCommand id command => s!"pipe{id}: " ++ command.name
  | pipelineXrun id bytes => s!"pipe{id}: xrun of {bytes} bytes"

def line (notice : Notice) : List UInt8 :=
  logLine notice.level notice.target notice.message

end Notice

end EdfKernel
