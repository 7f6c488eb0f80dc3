import EdfKernel.Proofs.Deliveries
import EdfKernel.Proofs.SectionEffects

/-!
The sections of a pass while nobody interposes: where each leads, given what its scan or its
look at the table finds. A scan is taken to find nothing late, so that it leaves the table
and the counters as they are.
-/

namespace EdfKernel

theorem Scheduler.scanned_timely (scheduler : Scheduler) (table : TaskTable Work)
    (next : Option TaskHandle) (slack : Ticks) :
    scheduler.scanned ⟨table, ⟨next, none, 0, 0⟩, slack, []⟩ = { scheduler with table } := by
  simp [scanned, account]

namespace Scene.Leads

open Machine

variable {number p : Nat} {scene : Scene} {rest : List Activity} {task : TaskHandle}
  {record : TaskRecord Work} {wakes : Bool} {slack : Ticks}

theorem carry_plain (part : Section) (free : scene.scheduler.locked = false) {effect : Effect}
    (made : part.effect scene.scheduler number scene.clock scene.pipelines.length = effect)
    (alone : effect.attaches = none) (unlocked : effect.scheduler.locked = false) :
    Leads number p scene (.acquire number part :: rest) []
      { scene with
        irq := if effect.requests then scene.irq.request scene.scheduler.config.line else scene.irq
        armed := (effect.arms.map fun instant => ⟨instant, .scheduler number⟩).or scene.armed
        scheduler := effect.scheduler } (effect.next ++ rest) := by
  have carried := @carry number p scene rest part free effect made
  have same : { effect.scheduler with locked := false } = effect.scheduler := by rw [← unlocked]
  simp only [enact, alone, same, Option.toList_none, List.append_nil] at carried
  exact carried

theorem select_due (free : scene.scheduler.locked = false)
    (chosen : scene.scheduler.table.select scene.clock =
      ⟨scene.scheduler.table, ⟨some task, none, 0, 0⟩, slack, []⟩)
    (found : scene.scheduler.table.find? task = some record)
    (due : record.timing.start ≤ scene.clock) :
    Leads number p scene (.acquire number (.select wakes) :: rest) [] scene
      (.acquire number (.dispatch wakes scene.clock task) :: rest) := by
  have made : Effect.select scene.scheduler number scene.clock wakes = _ :=
    Effect.select_due (congrArg (·.selection.next) chosen) (by rw [chosen]; exact found) due
  rw [chosen, Scheduler.scanned_timely] at made
  exact carry_plain (.select wakes) free made rfl free

theorem select_early (free : scene.scheduler.locked = false)
    (chosen : scene.scheduler.table.select scene.clock =
      ⟨scene.scheduler.table, ⟨some task, none, 0, 0⟩, slack, []⟩)
    (found : scene.scheduler.table.find? task = some record)
    (early : scene.clock < record.timing.start) :
    Leads number p scene (.acquire number (.select wakes) :: rest) [] scene
      (.conclude number wakes ⟨none, some task⟩ :: rest) := by
  have made : Effect.select scene.scheduler number scene.clock wakes = _ :=
    Effect.select_early (congrArg (·.selection.next) chosen) (by rw [chosen]; exact found) early
  rw [chosen, Scheduler.scanned_timely] at made
  exact carry_plain (.select wakes) free made rfl free

theorem select_idle (free : scene.scheduler.locked = false)
    (none : scene.scheduler.table.select scene.clock = Scan.start scene.scheduler.table) :
    Leads number p scene (.acquire number (.select wakes) :: rest) [] scene
      (.conclude number wakes .idle :: rest) := by
  have made : Effect.select scene.scheduler number scene.clock wakes = _ :=
    Effect.select_idle (congrArg (·.selection.next) none)
  rw [none, Scan.start, Scheduler.scanned_timely] at made
  exact carry_plain (.select wakes) free made rfl free

theorem dispatch_due (free : scene.scheduler.locked = false) {current : Ticks}
    {work : Option Work} {table : TaskTable Work} {next : Option TaskHandle}
    (taken : scene.scheduler.table.claim current task = some (work, table))
    (chosen : table.select current = ⟨table, ⟨next, none, 0, 0⟩, slack, []⟩) :
    Leads number p scene (.acquire number (.dispatch wakes current task) :: rest) []
      { scene with scheduler := { scene.scheduler with table } }
      (.execute number ⟨task, current, next, wakes⟩ work :: rest) := by
  have made : Effect.dispatch scene.scheduler number wakes current task = _ :=
    Effect.dispatch_claimed taken
  rw [chosen, Scheduler.scanned_timely] at made
  exact carry_plain (.dispatch wakes current task) free made rfl free

section Finishing

variable {work : Option Work} {table : TaskTable Work} (run : Dispatch)

theorem finish_done (free : scene.scheduler.locked = false)
    (finished : scene.scheduler.table.finish run.task work = (true, table)) :
    Leads number p scene (.acquire number (.finish run work .done) :: rest) []
      { scene with scheduler := { scene.scheduler with table } }
      (.conclude number run.wake run.outcome :: rest) := by
  exact carry_plain (.finish run work .done) free (Effect.finish_done finished) rfl free

theorem finish_again (free : scene.scheduler.locked = false)
    (finished : scene.scheduler.table.finish run.task work = (true, table))
    (startUs deadlineUs : UInt64) :
    Leads number p scene
      (.acquire number (.finish run work (.reschedule startUs deadlineUs)) :: rest) []
      { scene with scheduler := { scene.scheduler with table } }
      (.acquire number (.reinsert run startUs deadlineUs) :: rest) := by
  exact carry_plain (.finish run work (.reschedule startUs deadlineUs)) free
    (Effect.finish_again finished) rfl free

end Finishing

theorem wake (free : scene.scheduler.locked = false)
    (found : scene.scheduler.table.find? task = some record) (queued : record.state = .queued)
    (outcome : PassOutcome) :
    Leads number p scene (.acquire number (.wake outcome task) :: rest) []
      { scene with armed := some ⟨record.timing.start, .scheduler number⟩ } rest := by
  have made : (Section.wake outcome task).effect scene.scheduler number scene.clock
      scene.pipelines.length =
      { Effect.answer scene.scheduler (.outcome outcome) with
        arms := some record.timing.start
        notices := [.wake task record.timing.start] } := by
    simp only [Section.effect, Effect.wake, found, queued, if_true]
  exact carry_plain _ free made rfl free

end Scene.Leads

end EdfKernel
