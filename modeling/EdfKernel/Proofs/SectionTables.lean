import EdfKernel.Proofs.TableInvariant

/-!
The table that a section leaves. Whatever else it does, a section carries out at most one
operation of the table, and a pass scans what comes of it. What becomes of the queue and of the
tasks is proved operation by operation.
-/

namespace EdfKernel

namespace Section

def admits? : Section → Option TaskHandle
  | insert task _ _ => some task
  | reinsert run _ _ => some run.task
  | _ => none

inductive Makes (part : Section) (scheduler : Scheduler) (clock : Ticks) :
    TaskTable Work → Prop where
  | kept : Makes part scheduler clock scheduler.table
  | created (task : TaskHandle) (work : Work) (settings : TaskSettings) (after : TaskTable Work)
      (done : scheduler.table.alloc (.fresh work settings) = some (task, after)) :
      Makes part scheduler clock after
  | configured (task : TaskHandle) (settings : TaskSettings) (after : TaskTable Work)
      (own : part = .configure task settings)
      (done : scheduler.table.configure task settings = .ok after) :
      Makes part scheduler clock after
  | retired (task : TaskHandle) (after : TaskTable Work) (own : part = .retire task)
      (done : scheduler.table.retire task = .ok after) : Makes part scheduler clock after
  | cancelled (task : TaskHandle) (after : TaskTable Work) (own : part = .cancel task)
      (done : scheduler.table.cancel task = .ok after) : Makes part scheduler clock after
  | completed (task : TaskHandle) (after : TaskTable Work) (own : part = .complete task)
      (done : scheduler.table.complete task = .ok after) : Makes part scheduler clock after
  | admitted (task : TaskHandle) (startUs deadlineUs : UInt64) (window : Window)
      (after : TaskTable Work) (admits : part.admits? = some task)
      (done : scheduler.table.insert scheduler.config clock task startUs deadlineUs =
        .ok (window, after)) : Makes part scheduler clock after
  | selected (wakes : Bool) (own : part = .select wakes) :
      Makes part scheduler clock (scheduler.table.select clock).table
  | claimed (wakes : Bool) (current : Ticks) (task : TaskHandle) (work : Option Work)
      (middle : TaskTable Work) (own : part = .dispatch wakes current task)
      (taken : scheduler.table.claim current task = some (work, middle)) :
      Makes part scheduler clock (middle.select current).table
  | finished (run : Dispatch) (work : Option Work) (status : WorkStatus)
      (own : part = .finish run work status) :
      Makes part scheduler clock (scheduler.table.finish run.task work).2

variable {part : Section} {scheduler : Scheduler} {clock : Ticks}

theorem refuse_table (error : SchedulerError) :
    (scheduler.refuse error).table = scheduler.table := by
  cases error <;> rfl

namespace Makes

theorem of_refusal (error : SchedulerError) :
    part.Makes scheduler clock (scheduler.refuse error).table := by
  rw [refuse_table]
  exact .kept

theorem of_change {result : Except SchedulerError (TaskTable Work)}
    (done : ∀ after, result = .ok after → part.Makes scheduler clock after) :
    part.Makes scheduler clock (Effect.change scheduler result).scheduler.table := by
  cases result with
  | error error => exact of_refusal error
  | ok after => exact done after rfl

theorem of_create (work : Work) (settings : TaskSettings) :
    part.Makes scheduler clock (Effect.create scheduler work settings).scheduler.table := by
  unfold Effect.create Scheduler.create
  cases taken : scheduler.table.alloc (.fresh work settings) with
  | none => exact .kept
  | some pair => exact .created pair.1 work settings pair.2 taken

end Makes

theorem effect_makes (part : Section) (scheduler : Scheduler) (number : Nat) (clock : Ticks)
    (pipelines : Nat) :
    part.Makes scheduler clock (part.effect scheduler number clock pipelines).scheduler.table := by
  cases part with
  | create routine settings => exact .of_create _ settings
  | createPipeline desc routine =>
      rw [((createPipeline desc routine).newcomer_effect scheduler number clock pipelines _ _
        rfl).2]
      exact .of_create _ _
  | configure task settings =>
      exact .of_change fun after done => .configured task settings after rfl done
  | cancel task => exact .of_change fun after done => .cancelled task after rfl done
  | complete task => exact .of_change fun after done => .completed task after rfl done
  | retire task =>
      simp only [effect, Effect.retire]
      cases done : scheduler.table.retire task with
      | error error => exact .of_refusal error
      | ok after => exact .retired task after rfl done
  | insert task startUs deadlineUs =>
      simp only [effect, Effect.insert]
      cases done : scheduler.table.insert scheduler.config clock task startUs deadlineUs with
      | error error => exact .of_refusal error
      | ok pair => exact .admitted task startUs deadlineUs pair.1 pair.2 rfl done
  | reinsert run startUs deadlineUs =>
      simp only [effect, Effect.reinsert]
      cases done : scheduler.table.insert scheduler.config clock run.task startUs deadlineUs with
      | error error => exact .of_refusal error
      | ok pair => exact .admitted run.task startUs deadlineUs pair.1 pair.2 rfl done
  | inspect | queued | queuedLength | describe => exact .kept
  | check task =>
      simp only [effect, Effect.check]
      split
      · exact .of_refusal _
      · exact .kept
  | checkDeadline pipeline task =>
      simp only [effect, Effect.checkDeadline]
      split <;> exact .kept
  | select wakes =>
      simp only [effect, Effect.select]
      split
      · exact .selected wakes rfl
      · split <;> exact .selected wakes rfl
  | dispatch wakes current task =>
      simp only [effect, Effect.dispatch]
      cases taken : scheduler.table.claim current task with
      | none => exact .kept
      | some pair => exact .claimed wakes current task pair.1 pair.2 rfl taken
  | finish run work status =>
      simp only [effect, Effect.finish]
      split
      · cases status <;> exact .finished run work _ rfl
      · exact .finished run work status rfl
  | wake outcome task =>
      simp only [effect, Effect.wake]
      split
      · exact .kept
      · split <;> exact .kept

end Section

end EdfKernel
