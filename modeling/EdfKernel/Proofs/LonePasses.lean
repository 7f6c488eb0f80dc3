import EdfKernel.Proofs.PassSections
import EdfKernel.Proofs.Revisions

/-!
Passes over a queue with one task in it, when nobody interposes: what each section finds,
and where the pass ends. A pass that is early arms the timer for the task; a pass that is
due runs it, and a copy whose pipeline wants the next one is queued for it.
-/

namespace EdfKernel

namespace TaskTable

variable {ω : Type}

structure Lone (table : TaskTable ω) (task : TaskHandle) (record : TaskRecord ω) : Prop where
  queue : table.queue = [task]
  found : table.find? task = some record

variable {table : TaskTable ω} {task : TaskHandle} {record : TaskRecord ω} {current : Ticks}

namespace Lone

theorem select_timely (lone : table.Lone task record) (queued : record.state = .queued)
    (timely : record.timing.isMissed current = false)
    (near : record.timing.effectiveDeadline - current < Ticks.last) :
    table.select current =
      ⟨table, ⟨some task, none, 0, 0⟩, record.timing.effectiveDeadline - current, []⟩ := by
  simp [select, lone.queue, Scan.visit, Scan.start, lone.found, queued, timely, Scan.consider, near]

theorem select_out (lone : table.Lone task record) (out : record.state ≠ .queued) :
    table.select current = Scan.start table := by
  simp [select, lone.queue, Scan.visit, Scan.start, lone.found, out]

theorem claim (lone : table.Lone task record) (queued : record.state = .queued)
    (due : record.timing.start ≤ current) :
    ∃ after, table.claim current task = some (record.work, after) ∧
      after.Lone task
        { record with
          state := .running
          timing := { record.timing with start := current }
          work := none } := by
  obtain ⟨after, taken, revises⟩ := claim_revises lone.found queued due
  exact ⟨after, taken, revises.queue.trans lone.queue, revises.record⟩

theorem finish (lone : table.Lone task record) (running : record.state = .running)
    (work : Option ω) :
    ∃ after, table.finish task work = (true, after) ∧ after.queue = [] ∧
      after.find? task = some { record with state := .completed, work } := by
  obtain ⟨after, finished, revises⟩ := finish_revises lone.found running work
  refine ⟨after, finished, ?_, revises.record⟩
  rw [revises.queue, lone.queue, List.erase_cons_head]

end Lone

theorem insert_lone {config : SchedulerConfig} {now : Ticks} {startUs deadlineUs : UInt64}
    (empty : table.queue = []) (found : table.find? task = some record)
    (idle : record.state ≠ .running) {start deadline : Ticks}
    (starts : startAfter config now record.timing.start startUs = start)
    (ends : start.satAdd (config.toTicks deadlineUs) = deadline) (room : start < deadline) :
    ∃ after, table.insert config now task startUs deadlineUs = .ok (⟨start, deadline⟩, after) ∧
      after.Lone task
        { record with
          state := .queued
          timing := { record.timing with start, deadline } } := by
  subst starts ends
  have live := (idle?_eq_ok_iff table task record).mpr ⟨found, idle⟩
  obtain ⟨after, done⟩ : ∃ after,
      table.insert config now task startUs deadlineUs = .ok (⟨_, _⟩, after) :=
    ⟨_, by simp only [insert, live, UInt64.not_le.mpr room, if_false]; rfl⟩
  have revises := insert_revises found done
  refine ⟨after, done, ?_, revises.record⟩
  rw [revises.queue, empty, if_neg List.not_mem_nil, List.nil_append]

end TaskTable

namespace Scene.Leads

open Machine

variable {number p : Nat} {scene : Scene} {rest : List Activity} {task : TaskHandle}
  {record : TaskRecord Work} {wakes : Bool}

section Inserting

variable {startUs deadlineUs : UInt64} {start deadline : Ticks}

theorem reinsert (free : scene.scheduler.locked = false) (run : Dispatch)
    (empty : scene.scheduler.table.queue = [])
    (found : scene.scheduler.table.find? run.task = some record) (idle : record.state ≠ .running)
    (starts : TaskTable.startAfter scene.scheduler.config scene.clock record.timing.start startUs =
      start)
    (ends : start.satAdd (scene.scheduler.config.toTicks deadlineUs) = deadline)
    (room : start < deadline) :
    ∃ table, table.Lone run.task
        { record with
          state := .queued
          timing := { record.timing with start, deadline } } ∧
      Leads number p scene (.acquire number (.reinsert run startUs deadlineUs) :: rest) []
        { scene with
          irq := scene.irq.request scene.scheduler.config.line
          scheduler := { scene.scheduler with table } }
        (.conclude number run.wake run.outcome :: rest) := by
  obtain ⟨table, inserted, lone⟩ := TaskTable.insert_lone empty found idle starts ends room
  refine ⟨table, lone, ?_⟩
  exact carry_plain (.reinsert run startUs deadlineUs) free (Effect.reinsert_granted inserted) rfl
    free

theorem insert (free : scene.scheduler.locked = false)
    (empty : scene.scheduler.table.queue = [])
    (found : scene.scheduler.table.find? task = some record) (idle : record.state ≠ .running)
    (starts : TaskTable.startAfter scene.scheduler.config scene.clock record.timing.start startUs =
      start)
    (ends : start.satAdd (scene.scheduler.config.toTicks deadlineUs) = deadline)
    (room : start < deadline) :
    ∃ table, table.Lone task
        { record with
          state := .queued
          timing := { record.timing with start, deadline } } ∧
      Leads number p scene (.acquire number (.insert task startUs deadlineUs) :: rest) []
        { scene with
          irq := scene.irq.request scene.scheduler.config.line
          scheduler := { scene.scheduler with table } } rest := by
  obtain ⟨table, inserted, lone⟩ := TaskTable.insert_lone empty found idle starts ends room
  refine ⟨table, lone, ?_⟩
  exact carry_plain (.insert task startUs deadlineUs) free (Effect.insert_granted inserted) rfl free

end Inserting

theorem pass_early (free : scene.scheduler.locked = false)
    (lone : scene.scheduler.table.Lone task record) (queued : record.state = .queued)
    (timely : record.timing.isMissed scene.clock = false)
    (near : record.timing.effectiveDeadline - scene.clock < Ticks.last)
    (early : scene.clock < record.timing.start) :
    Leads number p scene (.acquire number (.select true) :: rest) []
      { scene with
        armed := some ⟨record.timing.start, .scheduler number⟩
        scheduler := scene.scheduler.endPass } rest := by
  have selected : Leads number p scene (.acquire number (.select true) :: rest) [] scene
      (.conclude number true ⟨none, some task⟩ :: rest) :=
    select_early free (lone.select_timely queued timely near) lone.found early
  have ended : Leads number p scene (.conclude number true ⟨none, some task⟩ :: rest) []
      { scene with scheduler := scene.scheduler.endPass }
      (.acquire number (.wake ⟨none, some task⟩ task) :: rest) := conclude_next rfl
  have armed := @wake number p { scene with scheduler := scene.scheduler.endPass } rest task record
    free lone.found queued ⟨none, some task⟩
  exact (selected.trans ended).trans armed

theorem pass_copies (inline : scene.scheduler.executor = .inline)
    (free : scene.scheduler.locked = false) (lone : scene.scheduler.table.Lone task record)
    (queued : record.state = .queued) (timely : record.timing.isMissed scene.clock = false)
    (near : record.timing.effectiveDeadline - scene.clock < Ticks.last)
    (due : record.timing.start ≤ scene.clock) {routine : Routine}
    (work : record.work = some (.copy p routine)) (silent : routine.turn.calls = [])
    {pipeline : Pipeline} (found : scene.pipelines[p]? = some pipeline)
    {startUs deadlineUs : UInt64} (again : pipeline.status = .reschedule startUs deadlineUs)
    {start deadline : Ticks}
    (starts : TaskTable.startAfter scene.scheduler.config scene.clock scene.clock startUs = start)
    (ends : start.satAdd (scene.scheduler.config.toTicks deadlineUs) = deadline)
    (room : start < deadline) :
    ∃ table, table.Lone task
        { record with
          state := .queued
          timing := ⟨start, deadline, record.timing.maxRuntime⟩
          work := some (.copy p routine.advance) } ∧
      Leads number p scene (.acquire number (.select wakes) :: rest) [scene.clock]
        { scene with
          irq := scene.irq.request scene.scheduler.config.line
          scheduler := { scene.scheduler.countDispatch.endPass with table }
          events := scene.events.push (.copy pipeline.desc.id (routine.runs + 1)) } rest := by
  -- The sections and the executor one after the other, each from the scene that the one
  -- before it leaves; the instant is that at which the executor is engaged.
  let run : Dispatch := ⟨task, scene.clock, none, wakes⟩
  let events := scene.events.push (.copy pipeline.desc.id (routine.runs + 1))
  have selected : Leads number p scene (.acquire number (.select wakes) :: rest) [] scene
      (.acquire number (.dispatch wakes scene.clock task) :: rest) :=
    select_due free (lone.select_timely queued timely near) lone.found due
  obtain ⟨taken, claims, claimed⟩ := lone.claim queued due
  rw [work] at claims
  have dispatched : Leads number p scene
      (.acquire number (.dispatch wakes scene.clock task) :: rest) []
      { scene with scheduler := { scene.scheduler with table := taken } }
      (.execute number run (some (.copy p routine)) :: rest) :=
    dispatch_due free claims (claimed.select_out nofun)
  let busy : Scheduler := { scene.scheduler with table := taken }
  have executed : Leads number p { scene with scheduler := busy }
      (.execute number run (some (.copy p routine)) :: rest) []
      { scene with scheduler := busy.countDispatch }
      (.engage number run (.copy p routine) ⟨[], true, [], none⟩ :: rest) :=
    execute run _ inline
  have engaged : Leads number p { scene with scheduler := busy.countDispatch }
      (.engage number run (.copy p routine) ⟨[], true, [], none⟩ :: rest) [scene.clock]
      { scene with scheduler := busy.countDispatch, events }
      (.returned number run (.copy p routine.advance) (.pipeline p) [] :: rest) :=
    engage_copy run silent found
  have returned : Leads number p { scene with scheduler := busy.countDispatch, events }
      (.returned number run (.copy p routine.advance) (.pipeline p) [] :: rest) []
      { scene with scheduler := busy.countDispatch, events }
      (.acquire number (.finish run (some (.copy p routine.advance)) pipeline.status) :: rest) :=
    returned_copy run _ found
  rw [again] at returned
  obtain ⟨idle, finishes, empty, there⟩ := claimed.finish rfl (some (.copy p routine.advance))
  have finished := @finish_again number p { scene with scheduler := busy.countDispatch, events }
    rest _ idle run free finishes startUs deadlineUs
  obtain ⟨table, last, inserted⟩ :=
    @reinsert number p
      { scene with scheduler := { busy.countDispatch with table := idle }, events } rest _
      startUs deadlineUs start deadline free run empty there nofun starts ends room
  have concluded : Leads number p
      { scene with
        irq := scene.irq.request scene.scheduler.config.line
        scheduler := { busy.countDispatch with table }
        events } (.conclude number wakes run.outcome :: rest) []
      { scene with
        irq := scene.irq.request scene.scheduler.config.line
        scheduler := { busy.countDispatch with table }.endPass
        events } rest := conclude wakes rfl
  refine ⟨table, last, ?_⟩
  exact (((((((selected.trans dispatched).trans executed).trans engaged).trans returned).trans
    finished).trans inserted).trans concluded)

end Scene.Leads

end EdfKernel
