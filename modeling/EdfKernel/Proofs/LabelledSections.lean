import EdfKernel.Proofs.LabelledTables

/-!
What is done under a scheduler's lock does not depend on labels. A section without labels has
the same effect on the scheduler without labels, and what it leaves to be done is the same.
-/

namespace EdfKernel

namespace Effect

variable (scheduler : Scheduler) (number : Nat) (clock : Ticks) (task : TaskHandle)

theorem bare_refusal (error : SchedulerError) :
    refusal scheduler.bare error = (refusal scheduler error).bare := by
  unfold refusal
  rw [Scheduler.bare_refuse]
  rfl

theorem bare_change (result : Except SchedulerError (TaskTable Work)) :
    change scheduler.bare (result.map TaskTable.bare) = (change scheduler result).bare := by
  cases result with
  | error error => exact bare_refusal scheduler error
  | ok table => rfl

theorem bare_create (work : Work) (settings : TaskSettings) :
    create scheduler.bare work.bare settings.bare = (create scheduler work settings).bare := by
  unfold create
  rw [Scheduler.bare_create]
  cases scheduler.create work settings with
  | none =>
      simp only [Option.map_none, bare_refusal]
      rfl
  | some created =>
      obtain ⟨task, after⟩ := created
      have size : after.bare.table.size = after.table.size := after.table.bare_size
      simp only [Option.map_some, size]
      rfl

theorem bare_createPipeline (scheduling : Nat) (desc : PipelineDesc) (routine : Routine) :
    createPipeline scheduler.bare scheduling number desc.bare routine.bare =
      (createPipeline scheduler scheduling number desc routine).bare := by
  have created := bare_create scheduler (.copy number routine) desc.settings
  unfold createPipeline
  rw [show Work.copy number routine.bare = (Work.copy number routine).bare from rfl,
    show desc.bare.settings = desc.settings.bare from rfl, created]
  -- A pipeline is attached only if a handle was given, so the reply is looked at by its cases.
  cases create scheduler (.copy number routine) desc.settings with
  | mk after requests arms attaches notices reply next =>
      match reply with
      | none | some (.failed _) => rfl
      | some (.ok answer) =>
          cases answer with
          | handle task =>
              simp only [bare, Option.map_some, Reply.bare, Answer.bare, List.map_append]
              rfl
          | _ => rfl

theorem bare_retire : retire scheduler.bare task = (retire scheduler task).bare := by
  unfold retire
  rw [Scheduler.bare_table, TaskTable.bare_retire]
  cases scheduler.table.retire task with
  | error error => exact bare_refusal scheduler error
  | ok table => rfl

theorem bare_insert (startUs deadlineUs : UInt64) :
    insert scheduler.bare clock task startUs deadlineUs =
      (insert scheduler clock task startUs deadlineUs).bare := by
  unfold insert
  rw [Scheduler.bare_table,
    Scheduler.bare_config, TaskTable.bare_insert]
  cases scheduler.table.insert scheduler.config clock task startUs deadlineUs with
  | error error => exact bare_refusal scheduler error
  | ok admitted => rfl

theorem bare_inspect : inspect scheduler.bare task = (inspect scheduler task).bare := by
  unfold inspect
  rw [Scheduler.bare_table, TaskTable.find?_bare]
  cases scheduler.table.find? task <;> rfl

theorem bare_check : check scheduler.bare task = (check scheduler task).bare := by
  unfold check
  rw [Scheduler.bare_table, TaskTable.bare_check]
  cases scheduler.table.check task with
  | error error => exact bare_refusal scheduler error
  | ok state => rfl

theorem bare_describe (pipeline : Pipeline) :
    describe scheduler.bare pipeline.bare = (describe scheduler pipeline).bare := by
  unfold describe
  rw [Scheduler.bare_table,
    show pipeline.bare.task = pipeline.task from rfl, TaskTable.find?_bare]
  cases scheduler.table.find? pipeline.task <;> rfl

theorem bare_checkDeadline (pipeline : Nat) :
    checkDeadline scheduler.bare pipeline task = (checkDeadline scheduler pipeline task).bare := by
  unfold checkDeadline
  rw [Scheduler.bare_table, TaskTable.bare_check]
  cases scheduler.table.check task with
  | error error => cases error <;> rfl
  | ok state => rfl

theorem bare_select (wake : Bool) :
    select scheduler.bare number clock wake = (select scheduler number clock wake).bare := by
  unfold select
  rw [Scheduler.bare_table, TaskTable.bare_select]
  -- All that follows is read off the scan, which keeps its choice and its times.
  generalize scheduler.table.select clock = scan
  simp only [Scan.bare_table, Scan.bare_selection]
  cases scan.selection.next with
  | none =>
      simp only [Option.bind_none, bare, List.map_append]
      rfl
  | some task =>
      simp only [Option.bind_some, TaskTable.find?_bare]
      cases scan.table.find? task with
      | none =>
          simp only [Option.map_none, bare, List.map_append]
          rfl
      | some record =>
          simp only [Option.map_some, TaskRecord.bare_timing]
          by_cases early : clock < record.timing.start
          · simp only [if_pos early, bare, List.map_append]
            rfl
          · simp only [if_neg early]
            rfl

theorem bare_dispatch (wake : Bool) (current : Ticks) :
    dispatch scheduler.bare number wake current task =
      (dispatch scheduler number wake current task).bare := by
  unfold dispatch
  rw [Scheduler.bare_table, TaskTable.bare_claim]
  cases scheduler.table.claim current task with
  | none => rfl
  | some claimed =>
      obtain ⟨work, table⟩ := claimed
      simp only [Option.map_some, TaskTable.bare_select]
      rfl

theorem bare_finish (dispatch : Dispatch) (work : Option Work) (status : WorkStatus) :
    finish scheduler.bare number dispatch (work.map Work.bare) status =
      (finish scheduler number dispatch work status).bare := by
  unfold finish
  rw [Scheduler.bare_table, TaskTable.bare_finish]
  cases scheduler.table.finish dispatch.task work with
  | mk running table => cases running <;> cases status <;> rfl

theorem bare_reinsert (dispatch : Dispatch) (startUs deadlineUs : UInt64) :
    reinsert scheduler.bare number clock dispatch startUs deadlineUs =
      (reinsert scheduler number clock dispatch startUs deadlineUs).bare := by
  unfold reinsert
  rw [Scheduler.bare_table,
    Scheduler.bare_config, TaskTable.bare_insert]
  cases scheduler.table.insert scheduler.config clock dispatch.task startUs deadlineUs with
  | error error =>
      simp only [Except.map, Scheduler.bare_refuse]
      rfl
  | ok admitted => rfl

theorem bare_wake (outcome : PassOutcome) :
    wake scheduler.bare outcome task = (wake scheduler outcome task).bare := by
  unfold wake
  rw [Scheduler.bare_table, TaskTable.find?_bare]
  cases scheduler.table.find? task with
  | none => rfl
  | some record =>
      simp only [Option.map_some, TaskRecord.bare_state, apply_ite bare]
      rfl

end Effect

theorem Section.bare_effect (part : Section) (scheduler : Scheduler) (number : Nat)
    (clock : Ticks) (pipelines : Nat) :
    part.bare.effect scheduler.bare number clock pipelines =
      (part.effect scheduler number clock pipelines).bare := by
  have changed (result : Except SchedulerError (TaskTable Work)) :=
    Effect.bare_change scheduler result
  cases part with
  | create routine settings => exact Effect.bare_create scheduler (.task routine) settings
  | createPipeline desc routine =>
      exact Effect.bare_createPipeline scheduler pipelines number desc routine
  | configure task settings =>
      exact (congrArg _ (scheduler.table.bare_configure task settings)).trans (changed _)
  | retire task => exact Effect.bare_retire scheduler task
  | insert task startUs deadlineUs =>
      exact Effect.bare_insert scheduler clock task startUs deadlineUs
  | cancel task => exact (congrArg _ (scheduler.table.bare_cancel task)).trans (changed _)
  | complete task => exact (congrArg _ (scheduler.table.bare_complete task)).trans (changed _)
  | inspect task => exact Effect.bare_inspect scheduler task
  | check task => exact Effect.bare_check scheduler task
  | queued | queuedLength => rfl
  | describe pipeline => exact Effect.bare_describe scheduler pipeline
  | checkDeadline pipeline task => exact Effect.bare_checkDeadline scheduler task pipeline
  | select wakes => exact Effect.bare_select scheduler number clock wakes
  | dispatch wakes current task =>
      exact Effect.bare_dispatch scheduler number task wakes current
  | finish run work status => exact Effect.bare_finish scheduler number run work status
  | reinsert run startUs deadlineUs =>
      exact Effect.bare_reinsert scheduler number clock run startUs deadlineUs
  | wake outcome task => exact Effect.bare_wake scheduler task outcome

end EdfKernel
