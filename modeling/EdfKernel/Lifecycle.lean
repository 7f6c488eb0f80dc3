import EdfKernel.Table

/-!
What callers do to one task: admit it to the queue for a window, withdraw it,
mark it done, change its settings, end it. A task that is running refuses all
of these but being marked done. A refused call gives a cause and no table, so
nothing has changed.

The executor takes a task out and hands it back: `claim` marks it running and
detaches its work, `finish` puts the work back and ends the run.
-/

namespace EdfKernel

/-- A window that a task was admitted for. -/
structure Window where
  start : Ticks
  deadline : Ticks
deriving DecidableEq, Repr

namespace TaskTable

variable {ω : Type}

def idle? (table : TaskTable ω) (task : TaskHandle) :
    Except SchedulerError (TaskRecord ω) :=
  match table.find? task with
  | none => .error (.unknownTask task)
  | some record => if record.state = .running then .error (.busy task) else .ok record

def configure (table : TaskTable ω) (task : TaskHandle) (settings : TaskSettings) :
    Except SchedulerError (TaskTable ω) :=
  (table.idle? task).map fun _ => table.update task (·.configure settings)

def retire (table : TaskTable ω) (task : TaskHandle) :
    Except SchedulerError (TaskTable ω) :=
  (table.idle? task).map fun _ => table.release task

def cancel (table : TaskTable ω) (task : TaskHandle) :
    Except SchedulerError (TaskTable ω) :=
  (table.idle? task).map fun _ => (table.update task (·.cancel .caller)).dequeue task

def complete (table : TaskTable ω) (task : TaskHandle) :
    Except SchedulerError (TaskTable ω) :=
  match table.find? task with
  | none => .error (.unknownTask task)
  | some _ =>
      .ok ((table.update task fun record => { record with state := .completed }).dequeue task)

/-- Where the next window of a task starts: now, or a span after the start it
had, less what deciding costs. -/
def startAfter (config : SchedulerConfig) (now previous : Ticks) (startUs : UInt64) : Ticks :=
  if startUs = 0 then now
  else (previous.satAdd (config.toTicks startUs)).satSub config.scheduleCost

/-- Admits a task that is not running. A task already in the queue keeps its
place; a window without a tick in it is refused. -/
def insert (table : TaskTable ω) (config : SchedulerConfig) (now : Ticks)
    (task : TaskHandle) (startUs deadlineUs : UInt64) :
    Except SchedulerError (Window × TaskTable ω) :=
  match table.idle? task with
  | .error error => .error error
  | .ok record =>
      let start := startAfter config now record.timing.start startUs
      let deadline := start.satAdd (config.toTicks deadlineUs)
      if deadline ≤ start then .error (.invalidWindow task deadlineUs)
      else
        .ok (⟨start, deadline⟩,
          (table.update task fun record =>
            { record with
              state := .queued
              timing := { record.timing with start, deadline } }).enqueue task)

def check (table : TaskTable ω) (task : TaskHandle) : Except SchedulerError TaskState :=
  match table.find? task with
  | none => .error (.unknownTask task)
  | some record =>
      if record.state = .cancelled .deadlineMissed then
        .error (.deadlineMissed task record.timing.deadline)
      else .ok record.state

/-- Marks a task running and detaches its work, if it is still queued and due. -/
def claim (table : TaskTable ω) (current : Ticks) (task : TaskHandle) :
    Option (Option ω × TaskTable ω) :=
  match table.find? task with
  | none => none
  | some record =>
      if record.state = .queued ∧ record.timing.start ≤ current then
        some (record.work, table.update task fun record =>
          { record with
            state := .running
            timing := { record.timing with start := current }
            work := none })
      else none

/-- Puts the work of an executed task back, if the task still lives, and marks
it done; true if it was running until now. -/
def finish (table : TaskTable ω) (task : TaskHandle) (work : Option ω) :
    Bool × TaskTable ω :=
  match table.find? task with
  | none => (false, table)
  | some record =>
      if record.state = .running then
        (true, (table.update task fun record =>
          { record with state := .completed, work }).dequeue task)
      else (false, table.update task fun record => { record with work })

theorem idle?_eq_ok_iff (table : TaskTable ω) (task : TaskHandle) (record : TaskRecord ω) :
    table.idle? task = .ok record ↔
      table.find? task = some record ∧ record.state ≠ .running := by
  unfold idle?
  cases table.find? task with
  | none => simp
  | some found =>
      by_cases running : found.state = .running
      · simp only [running, if_true, reduceCtorEq, false_iff, not_and, Option.some.injEq]
        intro same
        subst same
        exact fun differs => differs running
      · simp only [running, if_false, Except.ok.injEq, Option.some.injEq]
        constructor
        · intro same
          subst same
          exact ⟨rfl, running⟩
        · exact fun ⟨same, _⟩ => same

theorem idle?_eq_busy_iff (table : TaskTable ω) (task : TaskHandle) :
    table.idle? task = .error (.busy task) ↔
      ∃ record, table.find? task = some record ∧ record.state = .running := by
  unfold idle?
  cases table.find? task with
  | none => simp
  | some found => by_cases running : found.state = .running <;> simp [running]

theorem idle?_eq_unknownTask_iff (table : TaskTable ω) (task : TaskHandle) :
    table.idle? task = .error (.unknownTask task) ↔ table.find? task = none := by
  unfold idle?
  cases table.find? task with
  | none => simp
  | some found => by_cases running : found.state = .running <;> simp [running]

end TaskTable

end EdfKernel
