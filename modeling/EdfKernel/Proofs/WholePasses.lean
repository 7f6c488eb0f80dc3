import EdfKernel.Proofs.Admissions
import EdfKernel.Proofs.LentTasks
import Mathlib.Algebra.GroupWithZero.Nat

/-!
A whole pass. Nobody comes first when the pass takes the lock, and what the executor and the work
call is no call on the scheduler. One scan decides whether the pass is idle, finds a task that is to
come, or hands over the one that is due; a second one finds what to wake for. What the work asks for
when it comes back decides what becomes of its task.
-/

namespace EdfKernel

def WorkStatus.window? (config : SchedulerConfig) (now previous : Ticks) :
    WorkStatus → Option (Nat × Nat)
  | .done => none
  | .reschedule startUs deadlineUs =>
      if config.opening now previous startUs < config.closing now previous startUs deadlineUs then
        some (config.opening now previous startUs, config.closing now previous startUs deadlineUs)
      else none

/-- In how many sections a pass puts back a work that asks for this. -/
def WorkStatus.sections : WorkStatus → Nat
  | .done => 1
  | .reschedule _ _ => 2

def PassOutcome.lookups (outcome : PassOutcome) (wakes : Bool) : Nat :=
  if wakes && outcome.next.isSome then 1 else 0

/-- The counters, once a pass has begun and made these scans. -/
def Statistics.begun (statistics : Statistics) (scans : List Selection) : Statistics :=
  { statistics with
    passes := statistics.passes + 1
    deadlineMisses :=
      statistics.deadlineMisses + UInt64.ofNat (scans.countP (·.cancelled.isSome))
    repairs := statistics.repairs + UInt64.ofNat (scans.map (·.repaired)).sum
    exhaustedRepairs :=
      statistics.exhaustedRepairs + UInt64.ofNat (scans.map (·.exhausted)).sum }

namespace Scheduler

variable (scheduler : Scheduler) (first second : Scan Work)

theorem statistics_scanned_once :
    (scheduler.beginPass.scanned first).statistics =
      scheduler.statistics.begun [first.selection] := by
  cases missed : first.selection.cancelled <;>
    simp [scanned, account, beginPass, Statistics.begun, missed]

theorem statistics_scanned_twice :
    ((scheduler.beginPass.scanned first).scanned second).statistics =
      scheduler.statistics.begun [first.selection, second.selection] := by
  cases missed : first.selection.cancelled <;> cases misses : second.selection.cancelled <;>
    simp [scanned, account, beginPass, Statistics.begun, missed, misses, UInt64.add_assoc]

end Scheduler

namespace TaskTable

variable {ω : Type} {table : TaskTable ω} {task : TaskHandle} {record : TaskRecord ω}

def startOf? (table : TaskTable ω) (task : TaskHandle) : Option Ticks :=
  (table.find? task).bind fun record =>
    if record.state = .queued then some record.timing.start else none

theorem select_passes_running (consistent : table.Consistent)
    (found : table.find? task = some record) (running : record.state = .running) (current : Ticks) :
    (table.select current).table.find? task = some record ∧
      (table.select current).selection.next ≠ some task := by
  obtain ⟨after, there, scanned⟩ := find?_select consistent current task record found
  have same : after = record := by
    cases scanned with
    | same => rfl
    | missed queued | moved queued =>
        rw [running] at queued
        cases queued
  subst same
  refine ⟨there, fun again => ?_⟩
  obtain ⟨held, here, queued, _⟩ := table.select_choosesInTime current task again
  cases there.symm.trans here
  rw [running] at queued
  cases queued

/-- What becomes of a task whose work is put back: it is queued again at the end for the window that
was asked for, or it is done. -/
def PutsBack (table after : TaskTable ω) (task : TaskHandle) (record : TaskRecord ω) (left : ω) :
    Option (Nat × Nat) → Prop
  | none =>
      table.Revises after task { record with state := .completed, work := some left }
        (table.queue.erase task)
  | some (opening, closing) =>
      ∃ window : Window, window.start.toNat = opening ∧ window.deadline.toNat = closing ∧
        table.Revises after task
          { record with
            state := .queued
            timing := { record.timing with start := window.start, deadline := window.deadline }
            work := some left }
          (table.queue.erase task ++ [task])

end TaskTable

theorem Effect.wake_eq (scheduler : Scheduler) (outcome : PassOutcome) (task : TaskHandle) :
    wake scheduler outcome task =
      { answer scheduler (.outcome outcome) with
        arms := scheduler.table.startOf? task
        notices := (scheduler.table.startOf? task).toList.map (.wake task) } := by
  simp only [wake, TaskTable.startOf?]
  cases scheduler.table.find? task with
  | none => rfl
  | some record =>
      by_cases queued : record.state = .queued
      · simp only [queued, if_true, Option.bind_some]
        rfl
      · simp only [queued, if_false, Option.bind_some]
        rfl

namespace Machine

variable {machine : Machine} {number : Nat} {scheduler after : Scheduler} {part : Section}
  {wakes requests : Bool} {outcome : PassOutcome} {below rest next : List Activity}
  {notices : List Notice} {steps : Nat}

/-- Nobody comes first at so many moments at which a lock is about to be taken. -/
def Alone (machine : Machine) (moments : Nat) : Prop :=
  ∀ k < moments, machine.interposed (machine.acquisitions + 1 + k) = none

/-- The timer, set for the scheduler if it is to wake for something. -/
def armedFor (machine : Machine) (number : Nat) (wakes : Bool) (start : Option Ticks) :
    Timer WakeUp :=
  if wakes then
    (start.map fun instant => machine.timer.armAt instant (.scheduler number)).getD machine.timer
  else machine.timer

/-- What a stretch of a pass leaves of the lines, of its flag and of its counters. -/
structure Leaves (before after : Machine) (number : Nat) (scheduler : Scheduler)
    (inPass pending : Bool) (statistics : Statistics) : Prop where
  pending : ∀ line, after.irq.isPending line =
    if line = scheduler.config.line then pending else before.irq.isPending line
  scheduler : ∃ later, after.scheduler? number = some later ∧ later.inPass = inPass ∧
    later.statistics = statistics

theorem callsExecutor_of_agenda {activity : Activity} (agenda : machine.agenda = activity :: rest)
    (other : ∀ run work, activity ≠ .execute number run work) :
    machine.callsExecutor number = false := by
  unfold callsExecutor
  rw [agenda]
  split
  case h_1 holder run work _ same =>
    have apart : holder ≠ number := by
      rintro rfl
      exact other run (some work) (List.head_eq_of_cons_eq same)
    simp [apart]
  case h_2 => rfl

theorem unhanded_of_section (agenda : machine.agenda = .acquire number part :: rest)
    (found : machine.scheduler? number = some scheduler) (free : scheduler.locked = false)
    (alone : machine.interposed (machine.acquisitions + 1) = none) :
    machine.Holds (·.callsExecutor number = false) 3 := by
  have inside {machine : Machine} (agenda : machine.agenda = .enter number part :: rest)
      (found : machine.scheduler? number = some scheduler) :
      machine.Holds (·.callsExecutor number = false) 2 := by
    refine .step (callsExecutor_of_agenda agenda nofun) (.one ?_)
    rw [step_enter_eq agenda found free rfl]
    exact callsExecutor_of_agenda rfl nofun
  refine .step (callsExecutor_of_agenda agenda nofun) ?_
  rw [step_acquire_alone agenda alone]
  exact inside rfl found

theorem run_link (agenda : machine.agenda = .acquire number part :: rest)
    (found : machine.scheduler? number = some scheduler) (free : scheduler.locked = false)
    (alone : machine.interposed (machine.acquisitions + 1) = none)
    (made : part.effect scheduler number machine.clock machine.pipelines.length =
      { Effect.quiet after with requests, notices, next })
    (unlocked : after.locked = false) :
    machine.run 3 =
      { machine with
        irq := if requests then machine.irq.request scheduler.config.line else machine.irq
        schedulers := machine.schedulers.set number (some after)
        acquisitions := machine.acquisitions + 1
        notices := machine.notices ++ notices.toArray
        agenda := next ++ rest } := by
  have same : { after with locked := false } = after := by rw [← unlocked]
  rw [run_section_alone agenda found free alone, made]
  simp only [enact, Effect.quiet, same, Option.map_none, Option.getD_none, Option.toList_none,
    List.append_nil]

theorem run_conclude (agenda : machine.agenda = .conclude number wakes outcome :: below)
    (found : machine.scheduler? number = some scheduler) (free : scheduler.locked = false)
    (alone : machine.Alone (outcome.lookups wakes)) :
    ∃ steps notices,
      machine.run steps =
          { machine with
            timer := machine.armedFor number wakes (outcome.next.bind scheduler.table.startOf?)
            schedulers := machine.schedulers.set number (some scheduler.endPass)
            acquisitions := machine.acquisitions + outcome.lookups wakes
            notices
            reply := .ok (.outcome outcome)
            agenda := below } ∧
        machine.Holds (·.callsExecutor number = false) steps := by
  have stepped := step_conclude agenda found
  have ended : machine.callsExecutor number = false := callsExecutor_of_agenda agenda nofun
  by_cases looks : (wakes && outcome.next.isSome) = true
  · -- The last section changes nothing but the timer.
    obtain ⟨rfl, some⟩ := Bool.and_eq_true_iff.mp looks
    obtain ⟨task, next⟩ := Option.isSome_iff_exists.mp some
    have once : outcome.lookups true = 1 := if_pos looks
    rw [next] at stepped
    have held : machine.step.scheduler? number = Option.some scheduler.endPass := by
      rw [stepped]
      exact scheduler?_setScheduler_self machine number scheduler _ found
    have quiet : machine.step.interposed (machine.step.acquisitions + 1) = none := by
      rw [stepped]
      exact alone 0 (by simp [once])
    have agenda : machine.step.agenda = .acquire number (.wake outcome task) :: below := by
      rw [stepped]
      rfl
    have ran := run_section_alone agenda held free quiet
    refine ⟨3 + 1,
      machine.notices ++ ((scheduler.table.startOf? task).toList.map (.wake task)).toArray, ?_,
      .step ended (unhanded_of_section agenda held free quiet)⟩
    rw [run_succ, ran, Section.effect, Effect.wake_eq]
    have same : { scheduler.endPass with locked := false } = scheduler.endPass := by
      rw [← free]
      rfl
    simp only [enact, Effect.answer, Effect.quiet, same, armedFor, once, next, stepped,
      List.set_set, Option.bind_some, Option.toList_none, List.append_nil, if_true,
      Option.getD_some, Bool.false_eq_true, if_false, List.nil_append]
    rfl
  · have never : outcome.lookups wakes = 0 := if_neg looks
    refine ⟨1, machine.notices, ?_, .one ended⟩
    rw [run_succ, run, stepped, never]
    cases wakes with
    | false => simp [armedFor]
    | true =>
        have none : outcome.next = none := by simpa using looks
        simp [armedFor, none]

theorem Alone.head {moments : Nat} (alone : machine.Alone (1 + moments)) :
    machine.interposed (machine.acquisitions + 1) = none := alone 0 (by omega)

theorem Alone.tail {moments : Nat} {later : Machine} (alone : machine.Alone (1 + moments))
    (same : later.interposed = machine.interposed)
    (more : later.acquisitions = machine.acquisitions + 1) : later.Alone moments := by
  intro k less
  rw [same, more, Nat.add_assoc (machine.acquisitions + 1)]
  exact alone (1 + k) (by omega)

theorem run_last_link (agenda : machine.agenda = .acquire number part :: below)
    (found : machine.scheduler? number = some scheduler) (free : scheduler.locked = false)
    (alone : machine.Alone (1 + outcome.lookups wakes))
    (made : part.effect scheduler number machine.clock machine.pipelines.length =
      { Effect.quiet after with
        requests, notices
        next := [.conclude number wakes outcome] })
    (unlocked : after.locked = false) :
    ∃ steps notices,
      machine.run steps =
          { machine with
            irq := if requests then machine.irq.request scheduler.config.line else machine.irq
            timer := machine.armedFor number wakes (outcome.next.bind after.table.startOf?)
            schedulers := machine.schedulers.set number (some after.endPass)
            acquisitions := machine.acquisitions + (1 + outcome.lookups wakes)
            notices
            reply := .ok (.outcome outcome)
            agenda := below } ∧
        machine.Holds (·.callsExecutor number = false) steps := by
  have linked := run_link agenda found free alone.head made unlocked
  have early := unhanded_of_section agenda found free alone.head
  have held : (machine.run 3).scheduler? number = some after := by
    rw [linked]
    exact scheduler?_setScheduler_self machine number scheduler after found
  have left : (machine.run 3).Alone (outcome.lookups wakes) := by
    apply alone.tail <;> rw [linked]
  have concludes : (machine.run 3).agenda = .conclude number wakes outcome :: below := by
    rw [linked]
    rfl
  obtain ⟨steps, told, ended, late⟩ := run_conclude concludes held unlocked left
  refine ⟨3 + steps, told, ?_, early.trans late⟩
  rw [run_add, ended, linked]
  simp only [List.set_set, Nat.add_assoc]
  rfl

end Machine

theorem TaskTable.PutsBack.startOf? {ω : Type} {table after : TaskTable ω} {task other : TaskHandle}
    {record : TaskRecord ω} {left : ω} {window : Option (Nat × Nat)}
    (back : table.PutsBack after task record left window) (apart : other ≠ task) :
    after.startOf? other = table.startOf? other := by
  have same : after.find? other = table.find? other := by
    cases window with
    | none => exact back.others other apart
    | some window =>
        obtain ⟨_, _, _, revises⟩ := back
        exact revises.others other apart
  rw [TaskTable.startOf?, TaskTable.startOf?, same]

/-- A task whose work is back is queued again if there is a tick in the window that it asked for;
else it is done, which it already is. -/
theorem Effect.reinsert_putsBack {scheduler : Scheduler} {finished : TaskTable Work}
    {run : Dispatch} {record : TaskRecord Work} {left : Work}
    (revises : scheduler.table.Revises finished run.task
      { record with state := .completed, work := some left } (scheduler.table.queue.erase run.task))
    (once : scheduler.table.queue.Nodup) (number : Nat) (clock : Ticks)
    (startUs deadlineUs : UInt64) :
    ∃ table notices,
      reinsert { scheduler with table := finished } number clock run startUs deadlineUs =
          { quiet { scheduler with table } with
            requests := ((WorkStatus.reschedule startUs deadlineUs).window? scheduler.config clock
              record.timing.start).isSome
            notices
            next := [.conclude number run.wake run.outcome] } ∧
        scheduler.table.PutsBack table run.task record left
          ((WorkStatus.reschedule startUs deadlineUs).window? scheduler.config clock
            record.timing.start) := by
  rcases TaskTable.insert_decides revises.record nofun scheduler.config clock startUs
    deadlineUs with
    ⟨room, window, table, inserted, opens, closes⟩ | ⟨empty, refused⟩
  · have asked : (WorkStatus.reschedule startUs deadlineUs).window? scheduler.config clock
        record.timing.start = some _ := if_pos room
    rw [asked]
    refine ⟨table, _, reinsert_granted inserted, window, opens, closes, ?_⟩
    have last : run.task ∉ finished.queue := by
      rw [revises.queue]
      exact once.not_mem_erase
    have queued := TaskTable.insert_revises revises.record inserted
    rw [if_neg last, revises.queue] at queued
    exact revises.trans queued
  · have nothing : (WorkStatus.reschedule startUs deadlineUs).window? scheduler.config clock
        record.timing.start = none := if_neg empty
    rw [nothing]
    exact ⟨finished, _, (reinsert_denied refused).trans rfl, revises⟩

namespace Machine

variable {machine : Machine} {number : Nat} {scheduler : Scheduler} {below : List Activity}
  {run : Dispatch} {left : Work} {status : WorkStatus} {record : TaskRecord Work}

theorem run_finish
    (agenda : machine.agenda = .acquire number (.finish run (some left) status) :: below)
    (found : machine.scheduler? number = some scheduler) (free : scheduler.locked = false)
    (held : scheduler.table.find? run.task = some record) (running : record.state = .running)
    (once : scheduler.table.queue.Nodup) (apart : run.next ≠ some run.task)
    (alone : machine.Alone (status.sections + run.outcome.lookups run.wake)) :
    ∃ steps table notices,
      scheduler.table.PutsBack table run.task record left
          (status.window? scheduler.config machine.clock record.timing.start) ∧
        machine.run steps =
          { machine with
            irq :=
              if (status.window? scheduler.config machine.clock record.timing.start).isSome then
                machine.irq.request scheduler.config.line
              else machine.irq
            timer := machine.armedFor number run.wake (run.next.bind scheduler.table.startOf?)
            schedulers := machine.schedulers.set number (some { scheduler with table }.endPass)
            acquisitions :=
              machine.acquisitions + (status.sections + run.outcome.lookups run.wake)
            notices
            reply := .ok (.outcome run.outcome)
            agenda := below } ∧
        machine.Holds (·.callsExecutor number = false) steps := by
  obtain ⟨finished, done, revises⟩ := TaskTable.finish_revises held running (some left)
  -- The pass wakes for another task, whose start is not touched.
  have wakes {after : TaskTable Work} {window : Option (Nat × Nat)}
      (back : scheduler.table.PutsBack after run.task record left window) :
      run.next.bind after.startOf? = run.next.bind scheduler.table.startOf? := by
    cases next : run.next with
    | none => rfl
    | some other =>
        have other : other ≠ run.task := fun same => apart (by rw [next, same])
        exact back.startOf? other
  cases status with
  | done =>
      obtain ⟨steps, notices, ended, unhanded⟩ :=
        run_last_link agenda found free alone (Effect.finish_done done) free
      refine ⟨steps, finished, notices, revises, ?_, unhanded⟩
      rw [ended]
      have back : scheduler.table.PutsBack finished run.task record left none := revises
      have same := wakes back
      simp only [Dispatch.outcome, WorkStatus.sections, WorkStatus.window?] at same ⊢
      rw [same]
      rfl
  | reschedule startUs deadlineUs =>
      rw [WorkStatus.sections, Nat.add_assoc 1 1] at alone
      have linked := run_link agenda found free alone.head (Effect.finish_again done) free
      simp only [Effect.quiet, Bool.false_eq_true, if_false, List.cons_append,
        List.nil_append] at linked
      have early := unhanded_of_section agenda found free alone.head
      have there : (machine.run 3).scheduler? number =
          some { scheduler with table := finished } := by
        rw [linked]
        exact scheduler?_setScheduler_self machine number scheduler _ found
      have asks : (machine.run 3).agenda =
          .acquire number (.reinsert run startUs deadlineUs) :: below := by
        rw [linked]
      have still : (machine.run 3).Alone (1 + run.outcome.lookups run.wake) := by
        apply alone.tail <;> rw [linked]
      obtain ⟨table, _, made, back⟩ := Effect.reinsert_putsBack revises once number
        (machine.run 3).clock startUs deadlineUs
      obtain ⟨steps, notices, ended, late⟩ := run_last_link asks there free still made free
      have same : (machine.run 3).clock = machine.clock := by rw [linked]
      rw [same] at back ended
      refine ⟨3 + steps, table, notices, back, ?_, early.trans late⟩
      rw [run_add, ended, linked]
      have same := wakes back
      simp only [Dispatch.outcome, WorkStatus.sections, List.set_set, Nat.add_assoc] at same ⊢
      rw [same, ← Nat.add_assoc 1 1]
      rfl

/-- What comes of a task that is handed to the executor. -/
structure LoanAsSpecified (machine : Machine) (number : Nat) (scheduler : Scheduler) (loan : Loan)
    (record : TaskRecord Work) (below : List Activity) : Prop where
  /-- When the work comes back, nothing else has been handed over, and what it asks for decides
  what becomes of the task. -/
  settles : ∀ steps left status, machine.GivesBack number steps left status →
    (machine.run steps).Alone (status.sections + loan.run.outcome.lookups loan.run.wake) →
    left = loan.left ∧
      ∃ more owned table notices,
        scheduler.table.PutsBack table loan.run.task record left
            (status.window? scheduler.config (machine.run steps).clock record.timing.start) ∧
          machine.run (steps + more) =
            { machine.run steps with
              irq :=
                if (status.window? scheduler.config (machine.run steps).clock
                    record.timing.start).isSome then
                  (machine.run steps).irq.request scheduler.config.line
                else (machine.run steps).irq
              timer := (machine.run steps).armedFor number loan.run.wake
                (loan.run.next.bind scheduler.table.startOf?)
              schedulers := (machine.run steps).schedulers.set number
                (some { scheduler.countDispatch.endPass with table, owned })
              acquisitions := (machine.run steps).acquisitions +
                (status.sections + loan.run.outcome.lookups loan.run.wake)
              notices
              reply := .ok (.outcome loan.run.outcome)
              agenda := below } ∧
          -- The line is raised if the task was queued again, and else as the work left it.
          Leaves (machine.run steps) (machine.run (steps + more)) number scheduler false
            ((status.window? scheduler.config (machine.run steps).clock
                record.timing.start).isSome ||
              (machine.run steps).irq.isPending scheduler.config.line)
            { scheduler.statistics with dispatched := scheduler.statistics.dispatched + 1 } ∧
          ∀ k < steps + more, (machine.run k).callsExecutor number = decide (k = 0)
  /-- If all that is called meanwhile is answered at once, the work does come back. -/
  returns : loan.IsPlain →
    ∃ steps, machine.GivesBack number steps loan.left (loan.answer machine.pipelines) ∧
      (machine.run steps).interposed = machine.interposed ∧
      (machine.run steps).acquisitions = machine.acquisitions

theorem leaves_of_lowered {after : Machine} {later : Scheduler} {inPass : Bool}
    {statistics : Statistics} (found : machine.scheduler? number = some scheduler)
    (lines : after.irq = machine.irq.clear scheduler.config.line)
    (schedulers : after.schedulers = machine.schedulers.set number (some later))
    (flag : later.inPass = inPass) (counted : later.statistics = statistics) :
    Leaves machine after number scheduler inPass false statistics := by
  constructor
  case pending =>
    intro line
    rw [lines, Controller.isPending_clear]
    by_cases own : line = scheduler.config.line <;> simp [own]
  case scheduler =>
    refine ⟨later, ?_, flag, counted⟩
    rw [Machine.scheduler?, schedulers]
    exact scheduler?_setScheduler_self machine number scheduler later found

theorem leaves_of_raised {after : Machine} {later held : Scheduler} {raises inPass : Bool}
    {statistics : Statistics} (inside : scheduler.config.line < lineCount)
    (found : machine.scheduler? number = some held)
    (lines : after.irq =
      if raises then machine.irq.request scheduler.config.line else machine.irq)
    (schedulers : after.schedulers = machine.schedulers.set number (some later))
    (flag : later.inPass = inPass) (counted : later.statistics = statistics) :
    Leaves machine after number scheduler inPass
      (raises || machine.irq.isPending scheduler.config.line) statistics := by
  constructor
  case pending =>
    intro line
    rw [lines]
    by_cases own : line = scheduler.config.line <;>
      cases raises <;> simp [own, Controller.isPending_request, inside]
  case scheduler =>
    refine ⟨later, ?_, flag, counted⟩
    rw [Machine.scheduler?, schedulers]
    exact scheduler?_setScheduler_self machine number held later found

theorem loan_as_specified (loan : Loan) (inside : scheduler.config.line < lineCount)
    (agenda : machine.agenda = .execute number loan.run (some loan.work) :: below)
    (found : machine.scheduler? number = some scheduler)
    (turn : scheduler.executor.turn = loan.turn) (busy : scheduler.inPass = true)
    (free : scheduler.locked = false) (held : scheduler.table.find? loan.run.task = some record)
    (running : record.state = .running) (once : scheduler.table.queue.Nodup)
    (apart : loan.run.next ≠ some loan.run.task) :
    machine.LoanAsSpecified number scheduler loan record below where
  settles steps left status gives alone := by
    obtain ⟨⟨run, rest, back⟩, waits⟩ := gives
    -- The work does not come back at once: it is yet to be handed over.
    obtain ⟨steps, rfl⟩ : ∃ before, steps = before + 1 := by
      cases steps with
      | zero => cases agenda.symm.trans back
      | succ steps => exact ⟨steps, rfl⟩
    have begun := lending_of_execute agenda found turn
    have lending (k : Nat) (least : k ≤ steps) :
        (machine.run (k + 1)).Lending number scheduler.countDispatch loan below := by
      rw [run_succ]
      refine begun.run busy fun j less => ?_
      rw [← run_succ]
      exact waits (j + 1) (by omega)
    obtain ⟨rfl, same, rfl⟩ := (lending steps (Nat.le_refl _)).back back
    cases same
    obtain ⟨owned, there⟩ := (lending steps (Nat.le_refl _)).found
    obtain ⟨more, table, notices, puts, ended, late⟩ :=
      run_finish back there free held running once apart alone
    have closed : machine.run (steps + 1 + more) = _ :=
      (run_add machine (steps + 1) more).trans ended
    have lines := congrArg Machine.irq closed
    have schedulers := congrArg Machine.schedulers closed
    refine ⟨rfl, more, owned, table, notices, puts, closed,
      leaves_of_raised inside there lines schedulers rfl rfl, ?_⟩
    intro k less
    rcases Nat.lt_or_ge k (steps + 1) with early | after
    · cases k with
      | zero =>
          simp only [run, callsExecutor, agenda, found]
          simp
      | succ k =>
          rw [(lending k (by omega)).callsExecutor]
          simp
    · obtain ⟨j, rfl⟩ := Nat.exists_eq_add_of_le after
      rw [run_add, late j (by omega)]
      simp
  returns plain := by
    obtain ⟨steps, proceeds⟩ := Proceeds.execute agenda found turn plain
    exact ⟨steps, ⟨⟨_, _, proceeds.arrives⟩, proceeds.waits⟩, proceeds.interposed,
      proceeds.acquisitions⟩

theorem run_idle {scan : Scan Work}
    (agenda : machine.agenda = .acquire number (.select wakes) :: below)
    (found : machine.scheduler? number = some scheduler) (free : scheduler.locked = false)
    (alone : machine.Alone 1) (scans : scheduler.table.select machine.clock = scan)
    (next : scan.selection.next = none) :
    ∃ steps notices,
      machine.run steps =
          { machine with
            schedulers := machine.schedulers.set number (some (scheduler.scanned scan).endPass)
            acquisitions := machine.acquisitions + 1
            notices
            reply := .ok (.outcome .idle)
            agenda := below } ∧
        machine.Holds (·.callsExecutor number = false) steps := by
  subst scans
  have quiet : PassOutcome.idle.lookups wakes = 0 := by
    simp [PassOutcome.lookups, PassOutcome.idle]
  obtain ⟨steps, notices, ended, unhanded⟩ :=
    run_last_link agenda found free (by rwa [quiet]) (Effect.select_idle next) free
  refine ⟨steps, notices, ?_, unhanded⟩
  rw [ended, quiet]
  simp [Effect.quiet, armedFor, PassOutcome.idle]

theorem run_early {scan : Scan Work} {task : TaskHandle}
    (agenda : machine.agenda = .acquire number (.select wakes) :: below)
    (found : machine.scheduler? number = some scheduler) (free : scheduler.locked = false)
    (alone : machine.Alone (1 + (⟨none, some task⟩ : PassOutcome).lookups wakes))
    (scans : scheduler.table.select machine.clock = scan)
    (next : scan.selection.next = some task) (held : scan.table.find? task = some record)
    (queued : record.state = .queued) (early : machine.clock < record.timing.start) :
    ∃ steps notices,
      machine.run steps =
          { machine with
            timer := machine.armedFor number wakes (some record.timing.start)
            schedulers := machine.schedulers.set number (some (scheduler.scanned scan).endPass)
            acquisitions :=
              machine.acquisitions + (1 + (⟨none, some task⟩ : PassOutcome).lookups wakes)
            notices
            reply := .ok (.outcome ⟨none, some task⟩)
            agenda := below } ∧
        machine.Holds (·.callsExecutor number = false) steps := by
  subst scans
  obtain ⟨steps, notices, ended, unhanded⟩ :=
    run_last_link agenda found free alone (Effect.select_early next held early) free
  have start : (scheduler.scanned (scheduler.table.select machine.clock)).table.startOf? task =
      some record.timing.start := by
    change (scheduler.table.select machine.clock).table.startOf? task = _
    rw [TaskTable.startOf?, held, Option.bind_some, if_pos queued]
  refine ⟨steps, notices, ?_, unhanded⟩
  rw [ended, Option.bind_some, start]
  rfl

/-- From the first scan to the executor, if the task that the scan chooses is due. -/
theorem run_due {scan : Scan Work} {claimed : TaskTable Work} {task : TaskHandle} {work : Work}
    (agenda : machine.agenda = .acquire number (.select wakes) :: below)
    (found : machine.scheduler? number = some scheduler) (free : scheduler.locked = false)
    (alone : machine.Alone 2) (scans : scheduler.table.select machine.clock = scan)
    (next : scan.selection.next = some task) (held : scan.table.find? task = some record)
    (due : record.timing.start ≤ machine.clock)
    (taken : scan.table.claim machine.clock task = some (some work, claimed)) :
    ∃ notices,
      machine.run (3 + 3) =
          { machine with
            schedulers := machine.schedulers.set number
              (some ((scheduler.scanned scan).scanned (claimed.select machine.clock)))
            acquisitions := machine.acquisitions + 2
            notices
            agenda := .execute number
              ⟨task, machine.clock, (claimed.select machine.clock).selection.next, wakes⟩
                (some work) :: below } ∧
        machine.Holds (·.callsExecutor number = false) (3 + 3) := by
  subst scans
  have first : machine.interposed (machine.acquisitions + 1) = none := alone 0 (by omega)
  have selected := run_link agenda found free first (Effect.select_due next held due) free
  have early := unhanded_of_section agenda found free first
  have there : (machine.run 3).scheduler? number =
      some (scheduler.scanned (scheduler.table.select machine.clock)) := by
    rw [selected]
    exact scheduler?_setScheduler_self machine number scheduler _ found
  have dispatches : (machine.run 3).agenda =
      .acquire number (.dispatch wakes machine.clock task) :: below := by
    rw [selected]
    rfl
  have second : (machine.run 3).interposed ((machine.run 3).acquisitions + 1) = none := by
    rw [selected]
    exact alone 1 (by omega)
  have ran := run_link dispatches there free second (Effect.dispatch_claimed taken) free
  refine ⟨machine.notices ++ (scheduler.table.select machine.clock).notices.toArray ++
    (claimed.select machine.clock).notices.toArray, ?_,
    early.trans (unhanded_of_section dispatches there free second)⟩
  rw [run_add, ran, selected]
  simp only [Effect.quiet, List.set_set, Nat.add_assoc, Bool.false_eq_true, if_false]
  rfl

/-- What comes of a pass, by what its first scan of the table finds. -/
structure PassAsSpecified (machine : Machine) (number : Nat) (scheduler : Scheduler) (wakes : Bool)
    (scan : Scan Work) (below : List Activity) : Prop where
  /-- A scan that chooses nothing makes an idle pass. -/
  idle : scan.selection.next = none → machine.Alone 1 →
    ∃ steps notices,
      machine.run steps =
          { machine with
            irq := machine.irq.clear scheduler.config.line
            schedulers := machine.schedulers.set number
              (some (scheduler.beginPass.scanned scan).endPass)
            acquisitions := machine.acquisitions + 1
            notices
            reply := .ok (.outcome .idle)
            agenda := below } ∧
        Leaves machine (machine.run steps) number scheduler false false
          (scheduler.statistics.begun [scan.selection]) ∧
        machine.Holds (·.callsExecutor number = false) steps
  chosen : ∀ task, scan.selection.next = some task →
    ∃ record work, scan.table.find? task = some record ∧ record.state = .queued ∧
      record.work = some work
  /-- A task that is to start later is what the pass wakes for; nothing runs. -/
  early : ∀ task record, scan.selection.next = some task → scan.table.find? task = some record →
    machine.clock < record.timing.start →
    machine.Alone (1 + (⟨none, some task⟩ : PassOutcome).lookups wakes) →
    ∃ steps notices,
      machine.run steps =
          { machine with
            irq := machine.irq.clear scheduler.config.line
            timer := machine.armedFor number wakes (some record.timing.start)
            schedulers := machine.schedulers.set number
              (some (scheduler.beginPass.scanned scan).endPass)
            acquisitions :=
              machine.acquisitions + (1 + (⟨none, some task⟩ : PassOutcome).lookups wakes)
            notices
            reply := .ok (.outcome ⟨none, some task⟩)
            agenda := below } ∧
        Leaves machine (machine.run steps) number scheduler false false
          (scheduler.statistics.begun [scan.selection]) ∧
        machine.Holds (·.callsExecutor number = false) steps
  /-- A task that is due is started, a second scan finds what is next, and then the task and its own
  work are handed to the executor. -/
  due : ∀ task record work, scan.selection.next = some task →
    scan.table.find? task = some record → record.work = some work →
    record.timing.start ≤ machine.clock → machine.Alone 2 →
    ∃ claimed second steps notices,
      scan.table.Revises claimed task (record.started machine.clock) scan.table.queue ∧
        second = claimed.select machine.clock ∧ second.selection.next ≠ some task ∧
        second.table.find? task = some (record.started machine.clock) ∧
        machine.run steps =
          { machine with
            irq := machine.irq.clear scheduler.config.line
            schedulers := machine.schedulers.set number
              (some ((scheduler.beginPass.scanned scan).scanned second))
            acquisitions := machine.acquisitions + 2
            notices
            agenda :=
              .execute number ⟨task, machine.clock, second.selection.next, wakes⟩ (some work) ::
                below } ∧
        Leaves machine (machine.run steps) number scheduler true false
          (scheduler.statistics.begun [scan.selection, second.selection]) ∧
        machine.Holds (·.callsExecutor number = false) steps ∧
        (machine.run steps).LoanAsSpecified number
          ((scheduler.beginPass.scanned scan).scanned second)
          ⟨⟨task, machine.clock, second.selection.next, wakes⟩, work, scheduler.executor.turn⟩
          (record.started machine.clock) below

/-- A pass that is called for while none is under way keeps to its specification. -/
theorem pass_as_specified (reachable : Reachable machine)
    (found : machine.scheduler? number = some scheduler) (idle : scheduler.inPass = false)
    {activity : Activity} {rest : List Activity} (agenda : machine.agenda = activity :: rest)
    (calls : activity.passes? { machine with agenda := rest } = some number) :
    machine.PassAsSpecified number scheduler activity.wakes (scheduler.table.select machine.clock)
      (activity.resumes ++ rest) := by
  have begun := step_of_passes agenda calls found idle
  have unhanded : machine.callsExecutor number = false := by
    refine callsExecutor_of_agenda agenda ?_
    rintro run work rfl
    cases calls
  have free : scheduler.locked = false := by
    refine reachable.free_of_agenda found agenda ?_
    rintro rfl
    cases calls
  have consistent := (reachable.tableSound found).consistent
  have settled := reachable.settled found idle
  have there : machine.step.scheduler? number = some scheduler.beginPass := by
    rw [begun]
    exact scheduler?_setScheduler_self machine number scheduler _ found
  have selects : machine.step.agenda =
      .acquire number (.select activity.wakes) :: (activity.resumes ++ rest) := by rw [begun]
  have chooses := scheduler.table.select_choosesInTime machine.clock
  have alike {moments : Nat} (alone : machine.Alone moments) : machine.step.Alone moments := by
    rw [begun]
    exact alone
  constructor
  case idle =>
    intro next alone
    obtain ⟨steps, notices, ended, late⟩ :=
      run_idle selects there free (alike alone) (by rw [begun]; rfl) next
    have ran : machine.run (steps + 1) = _ := (run_succ machine steps).trans ended
    rw [begun] at ran
    simp only [List.set_set] at ran
    have lines := congrArg Machine.irq ran
    have schedulers := congrArg Machine.schedulers ran
    exact ⟨steps + 1, notices, ran, leaves_of_lowered found lines schedulers rfl
      (scheduler.statistics_scanned_once _), .step unhanded late⟩
  case chosen =>
    intro task next
    obtain ⟨record, held, queued, _⟩ := chooses task next
    cases attached : record.work with
    | some work => exact ⟨record, work, held, queued, attached⟩
    | none => cases settled.select consistent machine.clock task record held (.inr attached)
  case early =>
    intro task record next held early alone
    obtain ⟨_, same, queued, _⟩ := chooses task next
    cases held.symm.trans same
    obtain ⟨steps, notices, ended, late⟩ :=
      run_early selects there free (alike alone) (by rw [begun]; rfl) next held queued
        (by rwa [begun])
    have ran : machine.run (steps + 1) = _ := (run_succ machine steps).trans ended
    rw [begun] at ran
    simp only [List.set_set] at ran
    have lines := congrArg Machine.irq ran
    have schedulers := congrArg Machine.schedulers ran
    exact ⟨steps + 1, notices, ran, leaves_of_lowered found lines schedulers rfl
      (scheduler.statistics_scanned_once _), .step unhanded late⟩
  case due =>
    intro task record work next held attached due alone
    obtain ⟨_, same, queued, _⟩ := chooses task next
    cases held.symm.trans same
    obtain ⟨claimed, taken, revises⟩ := TaskTable.claim_revises held queued due
    have sound := (consistent.select machine.clock).claim taken
    rw [attached] at taken
    -- The second scan passes over the task that was started, so both the scan and the executor
    -- find the claimed table as it is.
    obtain ⟨passed, apart⟩ := TaskTable.select_passes_running sound revises.record rfl machine.clock
    have clock : machine.step.clock = machine.clock := by rw [begun]
    obtain ⟨notices, handed, late⟩ := run_due selects there free (alike alone)
      (by rw [clock]; rfl) next held (by rwa [clock]) (by rwa [clock])
    rw [clock] at handed
    have arrived : machine.run (3 + 3 + 1) = _ := (run_succ machine _).trans handed
    rw [begun] at arrived
    simp only [List.set_set] at arrived
    have lines := congrArg Machine.irq arrived
    have schedulers := congrArg Machine.schedulers arrived
    refine ⟨claimed, _, 3 + 3 + 1, notices, revises, rfl, apart, passed, arrived,
      leaves_of_lowered found lines schedulers rfl (scheduler.statistics_scanned_twice _ _),
      .step unhanded late, ?_⟩
    have hands : (machine.run (3 + 3 + 1)).agenda =
        .execute number ⟨task, machine.clock, (claimed.select machine.clock).selection.next,
          activity.wakes⟩ (some work) :: (activity.resumes ++ rest) := by rw [arrived]
    have holds : (machine.run (3 + 3 + 1)).scheduler? number =
        some ((scheduler.beginPass.scanned (scheduler.table.select machine.clock)).scanned
          (claimed.select machine.clock)) := by
      rw [arrived]
      exact scheduler?_setScheduler_self machine number scheduler _ found
    have inside := Controller.lt_lineCount_of_handler? (reachable.listens number scheduler found)
    exact loan_as_specified ⟨_, work, scheduler.executor.turn⟩ inside hands holds rfl rfl free
      passed rfl (sound.select machine.clock).queue_nodup apart

/-- A pass is about to begin: a task is due whose work takes a while and asks to run again, and
another one is to come. -/
def rebooked : Machine :=
  let ask (machine : Machine) (call : Call) : Machine := machine.exec 4 call fun _ => none
  let work : Turn Call := ⟨[.platform (.advanceClock 10)], .reschedule 100 50⟩
  let create (turns : List (Turn Call)) : Call := .scheduler 0 (.create turns .default)
  let insert (index : Nat) (startUs deadlineUs : UInt64) : Call :=
    .scheduler 0 (.insert (some ⟨index, 0⟩) startUs deadlineUs)
  let up := ask (boot 0) (.init ⟨1000000, 5, 7, 3⟩ .inline)
  let made := ask (ask up (create [work])) (create [])
  (ask (ask made (insert 0 0 1000)) (insert 1 500 2000)).start (.scheduler 0 .run) fun _ => none

theorem rebooked_reachable : Reachable rebooked := by
  unfold rebooked
  refine .start _ _ (.exec (.exec (.exec (.exec ?_ rfl 4 _ _) rfl 4 _ _) rfl 4 _ _) rfl 4 _ _) rfl
  exact .exec (.boot 0) rfl 4 _ _

/-- The task that ran is queued again behind the other one, for which the timer is set, and
another pass is asked for. -/
theorem rebooked_as_specified :
    ∃ scheduler after, rebooked.scheduler? 0 = some scheduler ∧ scheduler.inPass = false ∧
      (scheduler.table.select rebooked.clock).selection.next = some ⟨0, 0⟩ ∧
      rebooked.PassAsSpecified 0 scheduler true (scheduler.table.select rebooked.clock) [] ∧
      (rebooked.run 26).agenda = [] ∧
      (rebooked.run 26).reply = .ok (.outcome ⟨some ⟨0, 0⟩, some ⟨1, 0⟩⟩) ∧
      (rebooked.run 26).timer.armedAt = some 495 ∧
      (rebooked.run 7).irq.isPending 7 = false ∧ (rebooked.run 26).irq.isPending 7 = true ∧
      (rebooked.run 26).scheduler? 0 = some after ∧ after.table.queue = [⟨1, 0⟩, ⟨0, 0⟩] ∧
      (after.table.find? ⟨0, 0⟩).map (·.timing) = some ⟨95, 145, 0⟩ ∧
      after.statistics = ⟨1, 0, 1, 0, 0, 0, 0⟩ := by
  refine ⟨_, _, rfl, rfl, by decide, ?_, by decide, by decide, by decide, by decide, by decide, rfl,
    by decide, by decide, by decide⟩
  exact pass_as_specified rebooked_reachable rfl rfl rfl rfl

end Machine

end EdfKernel
