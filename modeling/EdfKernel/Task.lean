import EdfKernel.Timing

/-!
A task is named by a handle: a slot of the task table and the generation of
that slot, so that a handle kept past the end of its task does not name the
next one. A record holds what the scheduler knows of a task. Why a task was
cancelled is part of being cancelled, so no other state carries a reason; kept as
two fields, the state and the reason are the marks of the record, and the lemmas
say what each operation writes there.
-/

namespace EdfKernel

structure TaskHandle where
  index : Nat
  generation : UInt32
deriving DecidableEq, Repr

instance : ToString TaskHandle where
  toString handle := s!"task{handle.index}.{handle.generation.toNat}"

inductive CancelReason where
  /-- Somebody withdrew the task. -/
  | caller
  /-- The selector found that its slot had elapsed. -/
  | deadlineMissed
deriving DecidableEq, Repr

inductive TaskState where
  | init
  | queued
  | running
  | completed
  | cancelled (reason : CancelReason)
deriving DecidableEq, Repr

namespace TaskState

def cancelReason : TaskState → Option CancelReason
  | cancelled reason => some reason
  | _ => none

end TaskState

/-- A state without its reason. -/
inductive Stage where
  | init
  | queued
  | running
  | completed
  | cancelled
deriving DecidableEq

def TaskState.stage : TaskState → Stage
  | init => .init
  | queued => .queued
  | running => .running
  | completed => .completed
  | cancelled _ => .cancelled

/-- The state of a task and the reason why it was cancelled, each written by itself. -/
structure Marks where
  stage : Stage
  reason : Option CancelReason

namespace Marks

def fresh : Marks := ⟨.init, none⟩

/-- To write another state than `cancelled` clears the reason. -/
def setStage (marks : Marks) (stage : Stage) : Marks :=
  ⟨stage, if stage = .cancelled then marks.reason else none⟩

def cancel (marks : Marks) (reason : CancelReason) : Marks :=
  { marks with stage := .cancelled, reason := some reason }

end Marks

/-- What a caller chooses for a task. Priority and core are only recorded. -/
structure TaskSettings where
  maxRuntime : Ticks
  priority : UInt16
  core : UInt8
deriving DecidableEq, Repr

namespace TaskSettings

def default : TaskSettings := ⟨0, 0, 0⟩

end TaskSettings

/-- What a work asks for when it returns. -/
inductive WorkStatus where
  | done
  | reschedule (startUs deadlineUs : UInt64)
deriving DecidableEq, Repr

structure TaskRecord (ω : Type) where
  state : TaskState
  timing : Timing
  priority : UInt16
  core : UInt8
  missedDeadlines : UInt32
  /-- Absent while the work is being executed. -/
  work : Option ω

/-- A record as callers see it. -/
structure TaskSnapshot where
  handle : TaskHandle
  state : TaskState
  timing : Timing
  priority : UInt16
  core : UInt8
  missedDeadlines : UInt32
deriving DecidableEq, Repr

namespace TaskRecord

variable {ω : Type}

def fresh (work : ω) (settings : TaskSettings) : TaskRecord ω where
  state := .init
  timing := .unset settings.maxRuntime
  priority := settings.priority
  core := settings.core
  missedDeadlines := 0
  work := some work

def configure (record : TaskRecord ω) (settings : TaskSettings) : TaskRecord ω :=
  { record with
    timing := { record.timing with maxRuntime := settings.maxRuntime }
    priority := settings.priority
    core := settings.core }

/-- The count of misses stays at the last number its word holds. -/
def cancel (record : TaskRecord ω) (reason : CancelReason) : TaskRecord ω :=
  { record with
    state := .cancelled reason
    missedDeadlines :=
      if reason = .deadlineMissed ∧ record.missedDeadlines < 4294967295
      then record.missedDeadlines + 1
      else record.missedDeadlines }

def snapshot (record : TaskRecord ω) (handle : TaskHandle) : TaskSnapshot where
  handle := handle
  state := record.state
  timing := record.timing
  priority := record.priority
  core := record.core
  missedDeadlines := record.missedDeadlines

def marks (record : TaskRecord ω) : Marks := ⟨record.state.stage, record.state.cancelReason⟩

theorem marks_fresh (work : ω) (settings : TaskSettings) :
    (fresh work settings).marks = .fresh := rfl

theorem marks_cancel (record : TaskRecord ω) (reason : CancelReason) :
    (record.cancel reason).marks = record.marks.cancel reason := rfl

/-- Every other write of a state is a write of the stage, which clears the reason. -/
theorem marks_of_plain {record : TaskRecord ω} (plain : record.state.cancelReason = none)
    (earlier : Marks) : record.marks = earlier.setStage record.state.stage := by
  cases state : record.state with
  | cancelled reason =>
      rw [state] at plain
      cases plain
  | init | queued | running | completed => simp only [marks, state]; rfl

theorem marks_inj {record other : TaskRecord ω} :
    record.marks = other.marks ↔ record.state = other.state := by
  constructor
  · intro same
    obtain ⟨stage, reason⟩ := Marks.mk.inj same
    cases here : record.state <;> cases there : other.state <;>
      simp_all [TaskState.stage, TaskState.cancelReason]
  · intro same
    rw [marks, marks, same]

end TaskRecord

end EdfKernel
