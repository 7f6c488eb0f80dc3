import EdfKernel.Proofs.Labels

/-!
No operation of the task table looks at a label. With the labels taken off, each does the same
to the table without labels, and gives the same answer, from the creation of a task to the
choice of the next one.
-/

namespace EdfKernel

theorem modify_map {α β : Type} {f : α → β} {g : α → α} {h : β → β}
    (commute : ∀ a, h (f a) = f (g a)) (list : List α) (index : Nat) :
    (list.map f).modify index h = (list.modify index g).map f := by
  induction list generalizing index with
  | nil => cases index <;> rfl
  | cons head rest ih =>
      cases index with
      | zero => simp [commute]
      | succ index => simp [ih]

namespace TaskRecord

variable (record : TaskRecord Work)

@[simp] theorem bare_state : record.bare.state = record.state := rfl

@[simp] theorem bare_timing : record.bare.timing = record.timing := rfl

theorem bare_configure (settings : TaskSettings) :
    record.bare.configure settings.bare = (record.configure settings).bare := rfl

theorem bare_cancel (reason : CancelReason) :
    record.bare.cancel reason = (record.cancel reason).bare := rfl

end TaskRecord

theorem Slot.bare_update {f g : TaskRecord Work → TaskRecord Work}
    (commute : ∀ record, g record.bare = (f record).bare) (slot : Slot Work)
    (generation : UInt32) : slot.bare.update generation g = (slot.update generation f).bare := by
  obtain ⟨current, held⟩ := slot
  unfold update
  rw [show (bare ⟨current, held⟩).generation = current from rfl]
  by_cases same : current = generation
  · rw [if_pos same, if_pos same]
    cases held with
    | none => rfl
    | some record => exact congrArg (fun record => Slot.mk current (some record)) (commute record)
  · rw [if_neg same, if_neg same]

namespace TaskTable

variable (table : TaskTable Work) (task : TaskHandle)

theorem find?_bare : table.bare.find? task = (table.find? task).map TaskRecord.bare := by
  simp only [find?, bare, List.getElem?_map]
  cases table.slots[task.index]? with
  | none => rfl
  | some slot =>
      simp only [Option.map_some, Option.bind_some, Slot.recordAt, Slot.bare]
      split <;> rfl

theorem bare_update (f g : TaskRecord Work → TaskRecord Work)
    (commute : ∀ record, g record.bare = (f record).bare) :
    table.bare.update task g = (table.update task f).bare := by
  simp only [update, bare]
  congr 1
  exact modify_map (fun slot => slot.bare_update commute task.generation) _ _

theorem bare_update_self (f : TaskRecord Work → TaskRecord Work)
    (commute : ∀ record, f record.bare = (f record).bare) :
    table.bare.update task f = (table.update task f).bare :=
  table.bare_update task f f commute

theorem bare_dequeue : table.bare.dequeue task = (table.dequeue task).bare := rfl

theorem bare_enqueue : table.bare.enqueue task = (table.enqueue task).bare := by
  unfold enqueue
  by_cases queued : task ∈ table.queue
  · rw [if_pos queued, if_pos (show task ∈ table.bare.queue from queued)]
  · rw [if_neg queued, if_neg (show task ∉ table.bare.queue from queued)]
    rfl

theorem bare_release : table.bare.release task = (table.release task).bare := by
  simp only [release, bare]
  congr 1
  exact @modify_map _ _ Slot.bare Slot.release Slot.release (fun _ => rfl) _ _

theorem bare_size : table.bare.size = table.size := by
  simp only [size, bare, List.length_map]

theorem bare_alloc (record : TaskRecord Work) :
    table.bare.alloc record.bare =
      (table.alloc record).map fun (task, after) => (task, after.bare) := by
  obtain ⟨slots, free, queue, capacity⟩ := table
  cases free with
  | nil =>
      simp only [alloc, bare, List.length_map]
      split
      · rfl
      · simp only [Option.map_some, List.map_append, List.map_cons, List.map_nil]
        rfl
  | cons index free =>
      simp only [alloc, bare, List.getElem?_map]
      cases slots[index]? with
      | none => rfl
      | some slot => simp only [Option.map_some, List.map_set]; rfl

theorem bare_idle? :
    table.bare.idle? task = (table.idle? task).map TaskRecord.bare := by
  unfold idle?
  rw [find?_bare]
  cases table.find? task with
  | none => rfl
  | some record =>
      simp only [Option.map_some]
      by_cases running : record.state = .running
      · rw [if_pos running, if_pos (show record.bare.state = .running from running)]
        rfl
      · rw [if_neg running, if_neg (show record.bare.state ≠ .running from running)]
        rfl

theorem bare_idle?_map {α : Type} {leave : TaskRecord Work → α} :
    (table.bare.idle? task).map leave = (table.idle? task).map fun record => leave record.bare := by
  rw [bare_idle?]
  cases table.idle? task <;> rfl

theorem bare_configure (settings : TaskSettings) :
    table.bare.configure task settings.bare = (table.configure task settings).map bare := by
  unfold configure
  rw [bare_idle?_map, bare_update _ _ _ _ fun record => record.bare_configure settings]
  cases table.idle? task <;> rfl

theorem bare_retire : table.bare.retire task = (table.retire task).map bare := by
  unfold retire
  rw [bare_idle?_map, bare_release]
  cases table.idle? task <;> rfl

theorem bare_cancel : table.bare.cancel task = (table.cancel task).map bare := by
  unfold cancel
  rw [bare_idle?_map, bare_update_self _ _ _ fun record => record.bare_cancel .caller,
    bare_dequeue]
  cases table.idle? task <;> rfl

theorem bare_complete : table.bare.complete task = (table.complete task).map bare := by
  unfold complete
  have done := table.bare_update_self task (fun record => { record with state := .completed })
    fun _ => rfl
  rw [find?_bare]
  cases table.find? task with
  | none => rfl
  | some record => exact congrArg (fun after => Except.ok (after.dequeue task)) done

theorem bare_insert (config : SchedulerConfig) (now : Ticks) (startUs deadlineUs : UInt64) :
    table.bare.insert config now task startUs deadlineUs =
      (table.insert config now task startUs deadlineUs).map
        fun (window, after) => (window, after.bare) := by
  unfold insert
  rw [bare_idle?]
  cases table.idle? task with
  | error error => rfl
  | ok record =>
      -- The window comes from the timing, which is the same record's with or without labels.
      have admitted (start deadline : Ticks) := table.bare_update_self task
        (fun record => { record with
          state := .queued, timing := { record.timing with start, deadline } }) fun _ => rfl
      simp only [Except.map, TaskRecord.bare_timing, admitted, bare_enqueue]
      split <;> rfl

theorem bare_check : table.bare.check task = table.check task := by
  unfold check
  rw [find?_bare]
  cases table.find? task <;> rfl

theorem bare_claim (current : Ticks) :
    table.bare.claim current task =
      (table.claim current task).map fun (work, after) => (work.map Work.bare, after.bare) := by
  unfold claim
  have taken := table.bare_update_self task
    (fun record => { record with
      state := .running, timing := { record.timing with start := current }, work := none })
    fun _ => rfl
  rw [find?_bare]
  cases table.find? task with
  | none => rfl
  | some record =>
      simp only [Option.map_some, TaskRecord.bare_state, TaskRecord.bare_timing, taken]
      split <;> rfl

theorem bare_finish (work : Option Work) :
    table.bare.finish task (work.map Work.bare) =
      ((table.finish task work).1, (table.finish task work).2.bare) := by
  unfold finish
  have completed := table.bare_update task
    (fun record => { record with state := .completed, work })
    (fun record => { record with state := .completed, work := work.map Work.bare }) fun _ => rfl
  have returned := table.bare_update task (fun record => { record with work })
    (fun record => { record with work := work.map Work.bare }) fun _ => rfl
  rw [find?_bare]
  cases table.find? task with
  | none => rfl
  | some record =>
      simp only [Option.map_some, TaskRecord.bare_state, completed, returned]
      split <;> rfl

end TaskTable

namespace Scan

variable (scan : Scan Work) (current : Ticks) (task : TaskHandle) (timing : Timing)

@[simp] theorem bare_table : scan.bare.table = scan.table.bare := rfl

@[simp] theorem bare_selection : scan.bare.selection = scan.selection := rfl

theorem bare_consider :
    scan.bare.consider current task timing = (scan.consider current task timing).bare := by
  simp only [consider, apply_ite bare]
  rfl

theorem bare_giveUp :
    scan.bare.giveUp current task timing = (scan.giveUp current task timing).bare := by
  have cancelled := scan.table.bare_update_self task (·.cancel .deadlineMissed)
    fun record => record.bare_cancel .deadlineMissed
  simp only [giveUp, bare, List.map_append, cancelled, TaskTable.bare_dequeue]
  rfl

theorem bare_repair :
    scan.bare.repair current task timing = (scan.repair current task timing).bare := by
  have moved := scan.table.bare_update_self task
    (fun record => { record with timing := (timing.realign current).1 }) fun _ => rfl
  simp only [repair, bare, List.map_append, moved]
  -- Only the notice depends on whether the phase was lost.
  cases (timing.realign current).2.isExhausted <;> rfl

theorem bare_visit : visit current scan.bare task = (visit current scan task).bare := by
  unfold visit
  rw [bare_table, TaskTable.find?_bare]
  cases scan.table.find? task with
  | none => rfl
  | some record =>
      simp only [Option.map_some, TaskRecord.bare_state, TaskRecord.bare_timing, bare_consider,
        bare_giveUp, bare_repair, bare_selection]
      by_cases queued : record.state = .queued
      · simp only [queued, ne_eq, not_true_eq_false, if_false]
        cases record.timing.isMissed current <;> cases scan.selection.cancelled.isNone <;> rfl
      · simp only [queued, ne_eq, not_false_eq_true, if_true]

end Scan

theorem TaskTable.bare_select (table : TaskTable Work) (current : Ticks) :
    table.bare.select current = (table.select current).bare := by
  change table.queue.foldl (Scan.visit current) (Scan.start table).bare = _
  exact List.foldl_hom Scan.bare fun scan task => scan.bare_visit current task

namespace Scheduler

variable (scheduler : Scheduler)

@[simp] theorem bare_table : scheduler.bare.table = scheduler.table.bare := rfl

@[simp] theorem bare_config : scheduler.bare.config = scheduler.config := rfl

theorem bare_refuse (error : SchedulerError) :
    scheduler.bare.refuse error = (scheduler.refuse error).bare := by
  cases error <;> rfl

theorem bare_create (work : Work) (settings : TaskSettings) :
    scheduler.bare.create work.bare settings.bare =
      (scheduler.create work settings).map fun (task, after) => (task, after.bare) := by
  have fresh : TaskRecord.fresh work.bare settings.bare = (TaskRecord.fresh work settings).bare :=
    rfl
  unfold create
  rw [fresh, bare_table, TaskTable.bare_alloc]
  cases scheduler.table.alloc (.fresh work settings) <;> rfl

theorem bare_countDispatch : scheduler.bare.countDispatch = scheduler.countDispatch.bare :=
  congrArg
    (fun executor =>
      { scheduler with
        executor, table := scheduler.table.bare
        statistics :=
          { scheduler.statistics with dispatched := scheduler.statistics.dispatched + 1 } })
    scheduler.executor.bare_advance

end Scheduler

end EdfKernel
