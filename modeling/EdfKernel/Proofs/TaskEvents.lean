import EdfKernel.Proofs.Counters
import EdfKernel.Proofs.TaskStates
import EdfKernel.Proofs.Trails

/-!
The history of a task. Each event that changes the state of a task is read off the state of the
kernel in which it is about to happen: a section of the scheduler is entered, and what it is to
do is done. The last event says in which state the task is and, if a scan gave it up, which
deadline it missed, however much has happened since to other tasks or to its settings.
-/

namespace EdfKernel

/-- What happens to a task. -/
inductive TaskEvent where
  | registered
  | admitted
  | withdrawn
  | completed
  | dispatched
  | finished
  /-- A scan gives the task up, because of a window with this deadline. -/
  | missed (deadline : Ticks)
deriving DecidableEq

namespace TaskEvent

def state : TaskEvent → TaskState
  | registered => .init
  | admitted => .queued
  | withdrawn => .cancelled .caller
  | completed | finished => .completed
  | dispatched => .running
  | missed _ => .cancelled .deadlineMissed

end TaskEvent

namespace Marks

def after (marks : Marks) : TaskEvent → Marks
  | .registered => fresh
  | .admitted => marks.setStage .queued
  | .dispatched => marks.setStage .running
  | .completed | .finished => marks.setStage .completed
  | .withdrawn => marks.cancel .caller
  | .missed _ => marks.cancel .deadlineMissed

def replay : List TaskEvent → Marks
  | [] => fresh
  | event :: earlier => (replay earlier).after event

theorem after_eq (marks : Marks) (event : TaskEvent) :
    marks.after event = ⟨event.state.stage, event.state.cancelReason⟩ := by
  cases event <;> rfl

end Marks

namespace TaskEvent

/-- Why a record is as it is: an event wrote its marks, or there was none, and its state and
the deadline that a task given up has missed are what they were. -/
inductive Explains {ω : Type} (before : Option (TaskRecord ω)) (record : TaskRecord ω) :
    Option TaskEvent → Prop where
  | event (event : TaskEvent)
      (marks : record.marks = ((before.map TaskRecord.marks).getD .fresh).after event)
      (deadline : ∀ deadline, event = .missed deadline → record.timing.deadline = deadline) :
      Explains before record (some event)
  | kept (earlier : TaskRecord ω) (found : before = some earlier)
      (state : record.state = earlier.state)
      (deadline : record.state = .cancelled .deadlineMissed →
        record.timing.deadline = earlier.timing.deadline) :
      Explains before record none

variable {ω : Type} {before : Option (TaskRecord ω)} {record : TaskRecord ω}

theorem Explains.same (found : before = some record) : Explains before record none :=
  .kept record found rfl fun _ => rfl

theorem Explains.state {event : TaskEvent} (explains : Explains before record (some event)) :
    record.state = event.state := by
  cases explains with
  | event _ marks _ =>
      rw [Marks.after_eq] at marks
      change record.marks = ({ record with state := event.state } : TaskRecord ω).marks at marks
      exact TaskRecord.marks_inj.mp marks

end TaskEvent

namespace TaskTable

variable {ω : Type} {table after : TaskTable ω} {task other : TaskHandle} {record : TaskRecord ω}

def givesUp? (table : TaskTable ω) (current : Ticks) (task : TaskHandle) : Option TaskEvent :=
  if (table.select current).selection.cancelled = some task then
    (table.find? task).map fun record => .missed record.timing.deadline
  else none

theorem explains_update {f : TaskRecord ω → TaskRecord ω} {event : TaskEvent}
    (writes : ∀ record, (f record).marks = record.marks.after event)
    (plain : ∀ deadline, event ≠ .missed deadline)
    (found : (table.update other f).find? task = some record) :
    TaskEvent.Explains (table.find? task) record (if other = task then some event else none) := by
  rw [find?_update] at found
  by_cases same : other = task
  · rw [if_pos same.symm] at found
    obtain ⟨earlier, here, rfl⟩ := Option.map_eq_some_iff.mp found
    rw [if_pos same, here]
    exact .event event (writes earlier) fun deadline missed => absurd missed (plain deadline)
  · rw [if_neg (Ne.symm same)] at found
    rw [if_neg same]
    exact .same found

theorem explains_select (once : table.queue.Nodup) (current : Ticks)
    (found : (table.select current).table.find? task = some record) :
    TaskEvent.Explains (table.find? task) record (table.givesUp? current task) := by
  have selects := TaskTable.selects once current
  have after := selects.find? task
  rw [found] at after
  obtain ⟨earlier, here, same⟩ := Option.map_eq_some_iff.mp after.symm
  rw [givesUp?, selects.cancelled, here]
  by_cases first : (table.lateTasks current).head? = some task
  · rw [if_pos first] at same ⊢
    subst same
    refine .event (.missed earlier.timing.deadline) (earlier.marks_cancel .deadlineMissed)
      fun deadline same => ?_
    cases same
    rfl
  · rw [if_neg first] at same ⊢
    by_cases moved : task ∈ (table.lateTasks current).tail
    · rw [if_pos moved] at same
      subst same
      obtain ⟨held, there, late⟩ :=
        find?_of_isLate (List.of_mem_filter (List.mem_of_mem_tail moved))
      cases here.symm.trans there
      -- A task that is moved is queued, so it was not given up before.
      refine .kept earlier rfl rfl fun cancelled => ?_
      have queued : earlier.state = .queued := ((earlier.isLate_iff current).mp late).1
      cases cancelled.symm.trans queued
    · rw [if_neg moved] at same
      subst same
      exact .same rfl

end TaskTable

namespace Section

/-- What a section does to the state of a task. -/
def event? (part : Section) (scheduler : Scheduler) (clock : Ticks) (pipelines : Nat)
    (task : TaskHandle) : Option TaskEvent :=
  let table := scheduler.table
  let inserts (other : TaskHandle) (startUs deadlineUs : UInt64) :=
    if (table.insert scheduler.config clock other startUs deadlineUs).isOk then
      if other = task then some .admitted else none
    else none
  match part with
  | .create _ _ | .createPipeline _ _ =>
      (part.newcomer? pipelines).bind fun (work, settings) =>
        (table.alloc (.fresh work settings)).bind fun (other, _) =>
          if other = task then some .registered else none
  | .insert other startUs deadlineUs => inserts other startUs deadlineUs
  | .reinsert run startUs deadlineUs => inserts run.task startUs deadlineUs
  | .cancel other =>
      if (table.cancel other).isOk then if other = task then some .withdrawn else none else none
  | .complete other =>
      if (table.complete other).isOk then if other = task then some .completed else none else none
  | .select _ => table.givesUp? clock task
  | .dispatch _ current other =>
      (table.claim current other).bind fun (_, claimed) =>
        if other = task then some .dispatched else claimed.givesUp? current task
  | .finish run _ _ =>
      if (table.find? run.task).any fun record => record.state = .running then
        if run.task = task then some .finished else none
      else none
  | _ => none

variable {scheduler : Scheduler} {clock : Ticks} {task : TaskHandle} {record : TaskRecord Work}

theorem explains_change {result : Except SchedulerError (TaskTable Work)}
    {event : Option TaskEvent}
    (found : (Effect.change scheduler result).scheduler.table.find? task = some record)
    (refused : ∀ error, result = .error error → event = none)
    (made : ∀ after, result = .ok after → after.find? task = some record →
      TaskEvent.Explains (scheduler.table.find? task) record event) :
    TaskEvent.Explains (scheduler.table.find? task) record event := by
  cases result with
  | error error =>
      rw [refused error rfl]
      exact .same (refuse_table error ▸ found)
  | ok after => exact made after rfl found

variable {other : TaskHandle}

theorem explains_configure {settings : TaskSettings}
    (found : (Effect.change scheduler
      (scheduler.table.configure other settings)).scheduler.table.find? task = some record) :
    TaskEvent.Explains (scheduler.table.find? task) record none := by
  refine explains_change found (fun _ _ => rfl) fun table done held => ?_
  obtain ⟨_, _, _, rfl⟩ := TaskTable.idle?_map_eq_ok done
  rw [TaskTable.find?_update] at held
  by_cases same : task = other
  · rw [if_pos same] at held
    obtain ⟨earlier, here, rfl⟩ := Option.map_eq_some_iff.mp held
    exact .kept earlier here rfl fun _ => rfl
  · rw [if_neg same] at held
    exact .same held

theorem explains_retire
    (found : (Effect.retire scheduler other).scheduler.table.find? task = some record) :
    TaskEvent.Explains (scheduler.table.find? task) record none := by
  unfold Effect.retire at found
  cases done : scheduler.table.retire other with
  | error error =>
      rw [done] at found
      exact .same (refuse_table error ▸ found)
  | ok table =>
      rw [done] at found
      obtain ⟨_, here, _, rfl⟩ := TaskTable.idle?_map_eq_ok done
      change (scheduler.table.release other).find? task = some record at found
      rw [TaskTable.find?_release here] at found
      by_cases same : task = other
      · rw [if_pos same] at found
        cases found
      · rw [if_neg same] at found
        exact .same found

theorem explains_cancel
    (found : (Effect.change scheduler (scheduler.table.cancel other)).scheduler.table.find? task =
      some record) :
    TaskEvent.Explains (scheduler.table.find? task) record
      (if (scheduler.table.cancel other).isOk then if other = task then some .withdrawn else none
      else none) := by
  refine explains_change found (fun error refused => ?_) fun table done held => ?_
  · rw [refused]
    rfl
  · rw [done]
    obtain ⟨_, _, _, rfl⟩ := TaskTable.idle?_map_eq_ok done
    exact TaskTable.explains_update (fun record => record.marks_cancel .caller) nofun held

theorem explains_complete
    (found : (Effect.change scheduler (scheduler.table.complete other)).scheduler.table.find? task =
      some record) :
    TaskEvent.Explains (scheduler.table.find? task) record
      (if (scheduler.table.complete other).isOk then if other = task then some .completed else none
      else none) := by
  refine explains_change found (fun error refused => ?_) fun table done held => ?_
  · rw [refused]
    rfl
  · rw [done]
    unfold TaskTable.complete at done
    cases here : scheduler.table.find? other with
    | none =>
        rw [here] at done
        cases done
    | some earlier =>
        rw [here] at done
        cases done
        exact TaskTable.explains_update (fun record => TaskRecord.marks_of_plain rfl record.marks)
          nofun held

theorem explains_admission (startUs deadlineUs : UInt64)
    (refused : ∀ error,
      scheduler.table.insert scheduler.config clock other startUs deadlineUs = .error error →
        scheduler.table.find? task = some record)
    (made : ∀ window after,
      scheduler.table.insert scheduler.config clock other startUs deadlineUs =
        .ok (window, after) → after.find? task = some record) :
    TaskEvent.Explains (scheduler.table.find? task) record
      (if (scheduler.table.insert scheduler.config clock other startUs deadlineUs).isOk then
        if other = task then some .admitted else none
      else none) := by
  cases done : scheduler.table.insert scheduler.config clock other startUs deadlineUs with
  | error error => exact .same (refused error done)
  | ok pair =>
      obtain ⟨window, after⟩ := pair
      have found := made window after done
      obtain ⟨_, _, _, _, rfl⟩ := TaskTable.insert_cases done
      rw [TaskTable.find?_enqueue] at found
      exact TaskTable.explains_update (fun record => TaskRecord.marks_of_plain rfl record.marks)
        nofun found

theorem explains_insert {startUs deadlineUs : UInt64}
    (found : (Effect.insert scheduler clock other startUs deadlineUs).scheduler.table.find? task =
      some record) :
    TaskEvent.Explains (scheduler.table.find? task) record
      (if (scheduler.table.insert scheduler.config clock other startUs deadlineUs).isOk then
        if other = task then some .admitted else none
      else none) := by
  unfold Effect.insert at found
  refine explains_admission startUs deadlineUs (fun error refused => ?_)
    fun window table done => ?_
  · rw [refused] at found
    exact refuse_table error ▸ found
  · rw [done] at found
    exact found

theorem explains_reinsert {number : Nat} {run : Dispatch} {startUs deadlineUs : UInt64}
    (found : (Effect.reinsert scheduler number clock run startUs deadlineUs).scheduler.table.find?
      task = some record) :
    TaskEvent.Explains (scheduler.table.find? task) record
      (if (scheduler.table.insert scheduler.config clock run.task startUs deadlineUs).isOk then
        if run.task = task then some .admitted else none
      else none) := by
  unfold Effect.reinsert at found
  refine explains_admission startUs deadlineUs (fun error refused => ?_)
    fun window table done => ?_
  · rw [refused] at found
    exact refuse_table error ▸ found
  · rw [done] at found
    exact found

theorem explains_create {work : Work} {settings : TaskSettings}
    (consistent : scheduler.table.Consistent)
    (found : (Effect.create scheduler work settings).scheduler.table.find? task = some record) :
    TaskEvent.Explains (scheduler.table.find? task) record
      ((scheduler.table.alloc (.fresh work settings)).bind fun (other, _) =>
        if other = task then some .registered else none) := by
  unfold Effect.create Scheduler.create at found
  cases taken : scheduler.table.alloc (.fresh work settings) with
  | none =>
      simp only [taken, Option.map_none] at found
      exact .same found
  | some pair =>
      obtain ⟨other, after⟩ := pair
      simp only [taken, Option.map_some] at found
      change after.find? task = some record at found
      rw [TaskTable.find?_alloc consistent taken] at found
      simp only [Option.bind_some]
      by_cases same : other = task
      · rw [if_pos same.symm] at found
        cases found
        rw [if_pos same]
        exact .event .registered (TaskRecord.marks_fresh work settings) nofun
      · rw [if_neg (Ne.symm same)] at found
        rw [if_neg same]
        exact .same found

theorem explains_check
    (found : (Effect.check scheduler other).scheduler.table.find? task = some record) :
    TaskEvent.Explains (scheduler.table.find? task) record none := by
  unfold Effect.check at found
  cases told : scheduler.table.check other with
  | error error =>
      rw [told] at found
      exact .same (refuse_table error ▸ found)
  | ok state =>
      rw [told] at found
      exact .same found

theorem explains_checkDeadline {pipeline : Nat}
    (found : (Effect.checkDeadline scheduler pipeline other).scheduler.table.find? task =
      some record) :
    TaskEvent.Explains (scheduler.table.find? task) record none := by
  unfold Effect.checkDeadline at found
  cases told : scheduler.table.check other with
  | error error =>
      rw [told] at found
      cases error <;> exact .same found
  | ok state =>
      rw [told] at found
      exact .same found

theorem explains_claim {current : Ticks} {work : Option Work} {claimed : TaskTable Work}
    (consistent : scheduler.table.Consistent)
    (taken : scheduler.table.claim current other = some (work, claimed))
    (found : (claimed.select current).table.find? task = some record) :
    TaskEvent.Explains (scheduler.table.find? task) record
      (if other = task then some .dispatched else claimed.givesUp? current task) := by
  have sound := consistent.claim taken
  have before := TaskTable.find?_claim taken task
  by_cases same : other = task
  · obtain ⟨held, here, queued, _⟩ := TaskTable.claim_cases taken
    rw [if_pos same.symm, ← same, here, Option.map_some, same] at before
    have state := TaskTable.state?_select sound current before
    rw [TaskTable.state?_of_find? found] at state
    have runs : record.state = .running := by
      rcases state with runs | ⟨waits, _⟩
      · exact Option.some.inj runs
      · cases waits
    have plain : record.state.cancelReason = none := by rw [runs]; rfl
    have marks := TaskRecord.marks_of_plain plain
      (((scheduler.table.find? task).map TaskRecord.marks).getD .fresh)
    rw [runs] at marks
    rw [if_pos same]
    exact .event .dispatched marks nofun
  · rw [if_neg (Ne.symm same)] at before
    rw [if_neg same, ← before]
    exact TaskTable.explains_select sound.queue_nodup current found

theorem explains_dispatch {wakes : Bool} {current : Ticks} {number : Nat}
    (consistent : scheduler.table.Consistent)
    (found : (Effect.dispatch scheduler number wakes current other).scheduler.table.find? task =
      some record) :
    TaskEvent.Explains (scheduler.table.find? task) record
      ((scheduler.table.claim current other).bind fun (_, claimed) =>
        if other = task then some .dispatched else claimed.givesUp? current task) := by
  unfold Effect.dispatch at found
  cases taken : scheduler.table.claim current other with
  | none =>
      rw [taken] at found
      exact .same found
  | some pair =>
      obtain ⟨work, claimed⟩ := pair
      rw [taken] at found
      exact explains_claim consistent taken found

theorem explains_finish {number : Nat} {run : Dispatch} {work : Option Work} {status : WorkStatus}
    (found : (Effect.finish scheduler number run work status).scheduler.table.find? task =
      some record) :
    TaskEvent.Explains (scheduler.table.find? task) record
      (if (scheduler.table.find? run.task).any fun record => record.state = .running then
        if run.task = task then some .finished else none
      else none) := by
  have table : (Effect.finish scheduler number run work status).scheduler.table =
      (scheduler.table.finish run.task work).2 := by
    simp only [Effect.finish]
    cases (scheduler.table.finish run.task work).1
    · rfl
    · cases status <;> rfl
  rw [table, TaskTable.find?_finish] at found
  by_cases same : task = run.task
  · rw [if_pos same] at found
    obtain ⟨earlier, here, rfl⟩ := Option.map_eq_some_iff.mp found
    rw [← same, here, Option.any_some, if_pos rfl]
    by_cases running : earlier.state = .running
    · simp only [running, decide_true, if_true]
      exact .event .finished (TaskRecord.marks_of_plain rfl earlier.marks)
        fun _ missed => by cases missed
    · simp only [running, decide_false, Bool.false_eq_true, if_false]
      exact .kept earlier rfl rfl fun _ => rfl
  · rw [if_neg same] at found
    rw [if_neg (Ne.symm same), ite_self]
    exact .same found

/-- A record that a section leaves is explained by the event that the section was for its task. -/
theorem effect_explains (part : Section) (number pipelines : Nat)
    (consistent : scheduler.table.Consistent)
    (found : (part.effect scheduler number clock pipelines).scheduler.table.find? task =
      some record) :
    TaskEvent.Explains (scheduler.table.find? task) record
      (part.event? scheduler clock pipelines task) := by
  cases part with
  | create routine settings => exact explains_create consistent found
  | createPipeline desc routine =>
      rw [((createPipeline desc routine).newcomer_effect scheduler number clock pipelines _ _
        rfl).2] at found
      exact explains_create consistent found
  | configure other settings => exact explains_configure found
  | retire other => exact explains_retire found
  | insert other startUs deadlineUs => exact explains_insert found
  | reinsert run startUs deadlineUs => exact explains_reinsert found
  | cancel other => exact explains_cancel found
  | complete other => exact explains_complete found
  | inspect | queued | queuedLength | describe => exact .same found
  | check other => exact explains_check found
  | checkDeadline pipeline other => exact explains_checkDeadline found
  | select wakes =>
      rw [effect_scanned rfl number pipelines] at found
      exact TaskTable.explains_select consistent.queue_nodup clock found
  | dispatch wakes current other => exact explains_dispatch consistent found
  | finish run work status => exact explains_finish found
  | wake outcome other =>
      change (Effect.wake scheduler outcome other).scheduler.table.find? task = some record at found
      rw [Effect.wake_scheduler] at found
      exact .same found

end Section

namespace Machine

variable {machine : Machine} {number : Nat} {scheduler : Scheduler} {task : TaskHandle}
  {record : TaskRecord Work} {past : List Machine}

/-- What the next step does to the state of a task. -/
def event? (machine : Machine) (number : Nat) (task : TaskHandle) : Option TaskEvent :=
  (machine.enters? number).bind fun (part, scheduler) =>
    part.event? scheduler machine.clock machine.pipelines.length task

/-- What has happened to a task, the latest event in front. -/
def history (number : Nat) (task : TaskHandle) (past : List Machine) : List TaskEvent :=
  past.filterMap fun machine => machine.event? number task

theorem history_cons_some {event : TaskEvent} (happens : machine.event? number task = some event) :
    history number task (machine :: past) = event :: history number task past := by
  simp only [history, List.filterMap_cons, happens]

theorem history_cons_none (quiet : machine.event? number task = none) :
    history number task (machine :: past) = history number task past := by
  simp only [history, List.filterMap_cons, quiet]

theorem step_tableOf_of_enters? (none : machine.enters? number = none)
    (found : machine.step.scheduler? number = some scheduler) :
    scheduler.table.find? task = some record →
      (machine.tableOf number).find? task = some record := by
  intro live
  obtain ⟨done, comes, move⟩ := step_moves machine number
  rcases move.table_cases scheduler found with
    ⟨_, config, executor, rfl⟩ | ⟨earlier, there, _, same | ⟨part, next, enters, _⟩⟩
  · cases live
  · have before : machine.scheduler? number = some earlier := there
    rw [tableOf_of_scheduler? before, ← same]
    exact live
  · have before : machine.scheduler? number = some earlier := there
    obtain ⟨rest, agenda⟩ := comes _ enters
    simp [enters?, agenda, before] at none

theorem Reachable.step_explains (reachable : Reachable machine)
    (found : machine.step.scheduler? number = some scheduler)
    (live : scheduler.table.find? task = some record) :
    TaskEvent.Explains ((machine.tableOf number).find? task) record
      (machine.event? number task) := by
  unfold event?
  cases enters : machine.enters? number with
  | none => exact .same (step_tableOf_of_enters? enters found live)
  | some pair =>
      obtain ⟨part, earlier⟩ := pair
      obtain ⟨⟨rest, agenda⟩, before⟩ := enters?_eq_some enters
      have free := reachable.free_of_agenda before agenda nofun
      obtain ⟨stepped, _⟩ := step_enter machine number part rest earlier agenda before free
      cases found.symm.trans stepped
      rw [tableOf_of_scheduler? before]
      exact part.effect_explains number machine.pipelines.length
        (reachable.tableSound before).consistent live

/-- Every task that lives has a history, and is as its last event left it. -/
theorem Trail.last_event (trail : Trail past machine)
    (found : machine.scheduler? number = some scheduler)
    (live : scheduler.table.find? task = some record) :
    ∃ event, (history number task past).head? = some event ∧ record.state = event.state ∧
      ∀ deadline, event = .missed deadline → record.timing.deadline = deadline := by
  induction trail generalizing scheduler record with
  | boot start => cases found
  | start call interposed _ _ ih => exact ih found live
  | @step past machine trail ih =>
      have explained := trail.reachable.step_explains found live
      cases happens : machine.event? number task with
      | some event =>
          rw [happens] at explained
          have state := explained.state
          cases explained with
          | event _ _ deadline =>
              exact ⟨event, by rw [history_cons_some happens, List.head?_cons], state, deadline⟩
      | none =>
          rw [happens] at explained
          rw [history_cons_none happens]
          cases explained with
          | kept earlier before state deadline =>
              cases held : machine.scheduler? number with
              | none =>
                  rw [tableOf, held] at before
                  cases before
              | some holder =>
                  rw [tableOf_of_scheduler? held] at before
                  obtain ⟨event, last, left, missed⟩ := ih held before
                  refine ⟨event, last, state.trans left, fun instant same => ?_⟩
                  have given : record.state = .cancelled .deadlineMissed := by
                    rw [state, left, same]
                    rfl
                  exact (deadline given).trans (missed instant same)

end Machine

end EdfKernel
