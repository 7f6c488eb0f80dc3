import EdfKernel.Proofs.Candidates

/-!
What the sections of a pass come to, and the admission of a task, by what each of them finds in
the table. Each finding has an equation for the effect as a whole.
-/

namespace EdfKernel

def Scheduler.scanned (scheduler : Scheduler) (scan : Scan Work) : Scheduler :=
  { scheduler with table := scan.table }.account scan.selection

namespace Effect

variable {scheduler : Scheduler} {number : Nat} {clock current : Ticks} {wakes : Bool}
  {task : TaskHandle} {record : TaskRecord Work} {table : TaskTable Work} {work : Option Work}
  {run : Dispatch} {startUs deadlineUs : UInt64} {window : Window} {error : SchedulerError}

theorem insert_granted
    (done : scheduler.table.insert scheduler.config clock task startUs deadlineUs =
      .ok (window, table)) :
    insert scheduler clock task startUs deadlineUs =
      { answer { scheduler with table } .done with
        requests := true
        notices := [.queued task window.start window.deadline] } := by
  rw [insert, done]

theorem insert_denied
    (refused : scheduler.table.insert scheduler.config clock task startUs deadlineUs =
      .error error) :
    insert scheduler clock task startUs deadlineUs = refusal scheduler error := by
  rw [insert, refused]

theorem select_idle (next : (scheduler.table.select clock).selection.next = none) :
    select scheduler number clock wakes =
      { quiet (scheduler.scanned (scheduler.table.select clock)) with
        notices := (scheduler.table.select clock).notices ++ [.idlePass clock]
        next := [.conclude number wakes .idle] } := by
  simp only [select, next, Option.bind_none]
  rfl

theorem select_early (next : (scheduler.table.select clock).selection.next = some task)
    (found : (scheduler.table.select clock).table.find? task = some record)
    (early : clock < record.timing.start) :
    select scheduler number clock wakes =
      { quiet (scheduler.scanned (scheduler.table.select clock)) with
        notices := (scheduler.table.select clock).notices ++
          [.notDue clock task record.timing.start]
        next := [.conclude number wakes ⟨none, some task⟩] } := by
  simp only [select, next, Option.bind_some, found, Option.map_some, early, if_true]
  rfl

theorem select_due (next : (scheduler.table.select clock).selection.next = some task)
    (found : (scheduler.table.select clock).table.find? task = some record)
    (due : record.timing.start ≤ clock) :
    select scheduler number clock wakes =
      { quiet (scheduler.scanned (scheduler.table.select clock)) with
        notices := (scheduler.table.select clock).notices
        next := [.acquire number (.dispatch wakes clock task)] } := by
  have reached : ¬ clock < record.timing.start := UInt64.not_lt.mpr due
  simp only [select, next, Option.bind_some, found, Option.map_some, reached, if_false]
  rfl

theorem dispatch_lost (lost : scheduler.table.claim current task = none) :
    dispatch scheduler number wakes current task =
      { quiet scheduler with
        requests := true
        next := [.conclude number wakes .idle] } := by
  rw [dispatch, lost]

theorem dispatch_claimed (taken : scheduler.table.claim current task = some (work, table)) :
    dispatch scheduler number wakes current task =
      { quiet (scheduler.scanned (table.select current)) with
        notices := (table.select current).notices
        next := [.execute number ⟨task, current, (table.select current).selection.next, wakes⟩
          work] } := by
  rw [dispatch, taken]
  rfl

theorem finish_done (finished : scheduler.table.finish run.task work = (true, table)) :
    finish scheduler number run work .done =
      { quiet { scheduler with table } with
        next := [.conclude number run.wake run.outcome] } := by
  rw [finish, finished]
  rfl

theorem finish_again (finished : scheduler.table.finish run.task work = (true, table)) :
    finish scheduler number run work (.reschedule startUs deadlineUs) =
      { quiet { scheduler with table } with
        next := [.acquire number (.reinsert run startUs deadlineUs)] } := by
  rw [finish, finished]
  rfl

theorem reinsert_granted
    (done : scheduler.table.insert scheduler.config clock run.task startUs deadlineUs =
      .ok (window, table)) :
    reinsert scheduler number clock run startUs deadlineUs =
      { quiet { scheduler with table } with
        requests := true
        notices := [.queued run.task window.start window.deadline]
        next := [.conclude number run.wake run.outcome] } := by
  rw [reinsert, done]

theorem reinsert_denied
    (refused : scheduler.table.insert scheduler.config clock run.task startUs deadlineUs =
      .error error) :
    reinsert scheduler number clock run startUs deadlineUs =
      { quiet (scheduler.refuse error) with
        notices := [.notRescheduled run.task error]
        next := [.conclude number run.wake run.outcome] } := by
  rw [reinsert, refused]

end Effect

end EdfKernel
