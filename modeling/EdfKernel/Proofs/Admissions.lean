import EdfKernel.Proofs.PassRequests
import EdfKernel.Proofs.Handles
import EdfKernel.Proofs.Revisions
import EdfKernel.Proofs.SectionEffects
import Mathlib.Algebra.Group.Nat.Defs

/-!
The admission of a task, in exact numbers. Its window begins now, or so long after the start that
the task had, less what deciding costs; each sum is capped by itself, and the cost is taken off
what was capped. The window is refused just if it has no tick in it.
-/

namespace EdfKernel

namespace SchedulerConfig

def span (config : SchedulerConfig) (us : UInt64) : Nat :=
  min (us.toNat * config.clockRate.toNat / 1000000) (2 ^ 64 - 1)

/-- Where a window begins that is asked for at `now`, for a task whose last one began at
`previous`. -/
def opening (config : SchedulerConfig) (now previous : Ticks) (startUs : UInt64) : Nat :=
  if startUs = 0 then now.toNat
  else min (previous.toNat + config.span startUs) (2 ^ 64 - 1) - config.scheduleCost.toNat

/-- Where that window ends, if it is to last so long. -/
def closing (config : SchedulerConfig) (now previous : Ticks) (startUs deadlineUs : UInt64) : Nat :=
  min (config.opening now previous startUs + config.span deadlineUs) (2 ^ 64 - 1)

variable (config : SchedulerConfig) (now previous : Ticks) (startUs deadlineUs : UInt64)

theorem toNat_toTicks (us : UInt64) : (config.toTicks us).toNat = config.span us :=
  Ticks.toNat_ofMicros us config.clockRate

theorem opening_lt_closing_iff :
    config.opening now previous startUs < config.closing now previous startUs deadlineUs ↔
      1 ≤ deadlineUs.toNat * config.clockRate.toNat / 1000000 ∧
        config.opening now previous startUs < 2 ^ 64 - 1 := by
  rw [closing, span]
  omega

end SchedulerConfig

namespace TaskTable

variable {ω : Type} {table : TaskTable ω} {task : TaskHandle} {record : TaskRecord ω}

theorem toNat_startAfter (config : SchedulerConfig) (now previous : Ticks) (startUs : UInt64) :
    (startAfter config now previous startUs).toNat = config.opening now previous startUs := by
  rw [startAfter, SchedulerConfig.opening]
  split
  · rfl
  · rw [Ticks.toNat_satSub, Ticks.toNat_satAdd, config.toNat_toTicks]
    rfl

theorem insert_decides (found : table.find? task = some record) (idle : record.state ≠ .running)
    (config : SchedulerConfig) (now : Ticks) (startUs deadlineUs : UInt64) :
    (config.opening now record.timing.start startUs <
          config.closing now record.timing.start startUs deadlineUs ∧
        ∃ window after, table.insert config now task startUs deadlineUs = .ok (window, after) ∧
          window.start.toNat = config.opening now record.timing.start startUs ∧
          window.deadline.toNat = config.closing now record.timing.start startUs deadlineUs) ∨
      (¬ config.opening now record.timing.start startUs <
          config.closing now record.timing.start startUs deadlineUs ∧
        table.insert config now task startUs deadlineUs =
          .error (.invalidWindow task deadlineUs)) := by
  have live := (idle?_eq_ok_iff table task record).mpr ⟨found, idle⟩
  have opens := toNat_startAfter config now record.timing.start startUs
  have closes : ((startAfter config now record.timing.start startUs).satAdd
      (config.toTicks deadlineUs)).toNat =
        config.closing now record.timing.start startUs deadlineUs := by
    rw [Ticks.toNat_satAdd, opens, config.toNat_toTicks]
    rfl
  simp only [insert, live]
  split
  case isTrue empty =>
    rw [UInt64.le_iff_toNat_le, opens, closes] at empty
    exact .inr ⟨Nat.not_lt.mpr empty, rfl⟩
  case isFalse room =>
    rw [UInt64.le_iff_toNat_le, opens, closes] at room
    exact .inl ⟨Nat.lt_of_not_le room, _, _, rfl, opens, closes⟩

end TaskTable

namespace Machine

variable {machine : Machine} {number : Nat} {scheduler : Scheduler} {task : TaskHandle}
  {startUs deadlineUs : UInt64} {rest : List Activity} {steps : Nat} {record : TaskRecord Work}

theorem Reachable.line_lt (reachable : Reachable machine)
    (found : machine.scheduler? number = some scheduler) : scheduler.config.line < lineCount :=
  Controller.lt_lineCount_of_handler? (reachable.listens number scheduler found)

/-- An admission of a task that is not running, from its call, or from when its section comes to
the lock, to the end. It is granted just if the window has a tick in it, which it has if it is long
enough for one and does not begin with the last of the ticks. Then the task is queued for the window
where it stands, or at the end, the line of the scheduler is raised, and all else is as it was; and
if it is not granted, all is as it was. -/
theorem admission_as_specified (reachable : Reachable machine)
    (poised : machine.Poised number scheduler (.insert task startUs deadlineUs) rest steps)
    (found : scheduler.table.find? task = some record) (idle : record.state ≠ .running) :
    ((machine.run steps).reply = .ok .done ↔
      scheduler.config.opening machine.clock record.timing.start startUs <
        scheduler.config.closing machine.clock record.timing.start startUs deadlineUs) ∧
    (scheduler.config.opening machine.clock record.timing.start startUs <
        scheduler.config.closing machine.clock record.timing.start startUs deadlineUs ↔
      1 ≤ deadlineUs.toNat * scheduler.config.clockRate.toNat / 1000000 ∧
        scheduler.config.opening machine.clock record.timing.start startUs < 2 ^ 64 - 1) ∧
    ((machine.run steps).reply = .ok .done →
      ∃ (window : Window) (table : TaskTable Work) (acquisitions : Nat),
        window.start.toNat =
          scheduler.config.opening machine.clock record.timing.start startUs ∧
        window.deadline.toNat =
          scheduler.config.closing machine.clock record.timing.start startUs deadlineUs ∧
        scheduler.table.Revises table task
          { record with
            state := .queued
            timing := { record.timing with start := window.start, deadline := window.deadline } }
          (if task ∈ scheduler.table.queue then scheduler.table.queue
            else scheduler.table.queue ++ [task]) ∧
        machine.run steps =
          { machine with
            irq := machine.irq.request scheduler.config.line
            schedulers := machine.schedulers.set number (some { scheduler with table })
            acquisitions
            notices := machine.notices.push (.queued task window.start window.deadline)
            reply := .ok .done
            agenda := rest } ∧
        ∀ line, (machine.run steps).irq.isPending line = true ↔
          line = scheduler.config.line ∨ machine.irq.isPending line = true) ∧
    ((machine.run steps).reply ≠ .ok .done →
      ∃ acquisitions,
        machine.run steps =
          { machine with
            acquisitions
            reply := .failed (.scheduler (.invalidWindow task deadlineUs))
            agenda := rest }) := by
  obtain ⟨acquisitions, ran⟩ := poised.run reachable
  have free := poised.free reachable
  have inside := reachable.line_lt poised.found
  have fits := scheduler.config.opening_lt_closing_iff machine.clock record.timing.start startUs
    deadlineUs
  rw [Section.effect] at ran
  rcases TaskTable.insert_decides found idle scheduler.config machine.clock startUs deadlineUs with
    ⟨room, window, table, done, opens, closes⟩ | ⟨empty, refused⟩
  · rw [Effect.insert_granted done] at ran
    have after : machine.run steps =
        { machine with
          irq := machine.irq.request scheduler.config.line
          schedulers := machine.schedulers.set number (some { scheduler with table })
          acquisitions
          notices := machine.notices.push (.queued task window.start window.deadline)
          reply := .ok .done
          agenda := rest } := by
      rw [ran]
      simp [enact, Effect.answer, Effect.quiet, free]
    have granted : (machine.run steps).reply = .ok .done := by rw [after]
    refine ⟨iff_of_true granted room, fits, fun _ => ?_, fun denied => absurd granted denied⟩
    refine ⟨window, table, acquisitions, opens, closes, TaskTable.insert_revises found done, after,
      fun line => ?_⟩
    rw [after, Controller.isPending_request]
    by_cases own : line = scheduler.config.line
    · simp [own, inside]
    · simp [own]
  · rw [Effect.insert_denied refused] at ran
    have after : machine.run steps =
        { machine with
          acquisitions
          reply := .failed (.scheduler (.invalidWindow task deadlineUs))
          agenda := rest } := by
      rw [ran]
      simp [enact, Effect.refusal, Effect.quiet, Scheduler.refuse, set_unlocked poised.found free]
    have denied : (machine.run steps).reply ≠ .ok .done := by
      rw [after]
      intro same
      cases same
    exact ⟨iff_of_false denied empty, fits, fun granted => absurd granted denied, fun _ =>
      ⟨acquisitions, after⟩⟩

/-- Two tasks are queued, their line is down, and the first is about to be admitted again. -/
def readmitting : Machine :=
  let quiet : Nat → Option Script := fun _ => none
  let made := ((boot 0).exec 1 (.init ⟨1000000, 200, 7, 2⟩ .inline) quiet).exec 4
    (.scheduler 0 (.create [] .default)) quiet
  let first := (made.exec 4 (.scheduler 0 (.create [] .default)) quiet).exec 4
    (.scheduler 0 (.insert (some ⟨0, 0⟩) 0 1000)) quiet
  let second := first.exec 4 (.scheduler 0 (.insert (some ⟨1, 0⟩) 0 1000)) quiet
  (second.exec 1 (.platform (.clear 7)) quiet).start
    (.scheduler 0 (.insert (some ⟨0, 0⟩) 500 100)) quiet

theorem readmitting_reachable : Reachable readmitting := by
  unfold readmitting
  refine .start _ _ (.exec (.exec (.exec (.exec (.exec ?_ rfl 4 _ _) rfl 4 _ _) rfl 4 _ _)
    rfl 4 _ _) rfl 1 _ _) rfl
  exact (Reachable.boot 0).exec rfl 1 _ _

/-- It gets its window, from 300 to 400, and stays in front of the other. -/
theorem readmitting_granted :
    readmitting.irq.isPending 7 = false ∧ (readmitting.run 4).irq.isPending 7 = true ∧
      ∃ (scheduler : Scheduler) (record : TaskRecord Work) (window : Window)
          (table : TaskTable Work), readmitting.scheduler? 0 = some scheduler ∧
        scheduler.table.find? ⟨0, 0⟩ = some record ∧ record.state ≠ .running ∧
        window.start.toNat = 300 ∧ window.deadline.toNat = 400 ∧
        table.find? ⟨0, 0⟩ = some { record with
          state := .queued
          timing := { record.timing with start := window.start, deadline := window.deadline } } ∧
        table.queue = [⟨0, 0⟩, ⟨1, 0⟩] ∧
        (readmitting.run 4).scheduler? 0 = some { scheduler with table } := by
  obtain ⟨scheduler, record, found, free, here, queue, idle, opening, closing⟩ :
      ∃ scheduler record, readmitting.scheduler? 0 = some scheduler ∧ scheduler.owned = true ∧
        scheduler.table.find? ⟨0, 0⟩ = some record ∧
        scheduler.table.queue = [⟨0, 0⟩, ⟨1, 0⟩] ∧ record.state ≠ .running ∧
        scheduler.config.opening readmitting.clock record.timing.start 500 = 300 ∧
        scheduler.config.closing readmitting.clock record.timing.start 500 100 = 400 :=
    ⟨_, _, rfl, rfl, rfl, rfl, by decide, by decide, by decide⟩
  have poised : readmitting.Poised 0 scheduler (.insert ⟨0, 0⟩ 500 100) [] 4 :=
    .asking none (.insert (some ⟨0, 0⟩) 500 100) found free rfl rfl rfl
  obtain ⟨granted, _, admitted, _⟩ :=
    admission_as_specified readmitting_reachable poised here idle
  rw [opening, closing] at granted admitted
  obtain ⟨window, table, acquisitions, opens, closes, revises, after, raised⟩ :=
    admitted (granted.mpr (by decide))
  refine ⟨by decide, ?_, scheduler, record, window, table, found, here, idle, opens, closes,
    revises.record, ?_, ?_⟩
  · have line : scheduler.config.line = 7 := by
      cases found
      rfl
    exact (raised 7).mpr (.inl line.symm)
  · rw [revises.queue, queue]
    rfl
  · rw [after]
    exact scheduler?_setScheduler_self readmitting 0 scheduler _ found

end Machine

end EdfKernel
