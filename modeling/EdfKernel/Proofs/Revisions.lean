import EdfKernel.Proofs.TableChange

/-!
Changes of one task. What takes a task out for a run, puts its work back or admits it again makes
another record of it, says where it stands in the queue, and leaves all else of the table alone.
-/

namespace EdfKernel

def TaskRecord.started {ω : Type} (record : TaskRecord ω) (current : Ticks) : TaskRecord ω :=
  { record with
    state := .running
    timing := { record.timing with start := current }
    work := none }

namespace TaskTable

variable {ω : Type} {table middle after : TaskTable ω} {task : TaskHandle}
  {record changed : TaskRecord ω} {front queue : List TaskHandle}

structure Revises (table after : TaskTable ω) (task : TaskHandle) (record : TaskRecord ω)
    (queue : List TaskHandle) : Prop where
  record : after.find? task = some record
  others : ∀ other, other ≠ task → after.find? other = table.find? other
  queue : after.queue = queue
  free : after.free = table.free
  capacity : after.capacity = table.capacity

theorem Revises.trans (first : table.Revises middle task record front)
    (second : middle.Revises after task changed queue) :
    table.Revises after task changed queue where
  record := second.record
  others other apart := (second.others other apart).trans (first.others other apart)
  queue := second.queue
  free := second.free.trans first.free
  capacity := second.capacity.trans first.capacity

theorem claim_revises {current : Ticks} (found : table.find? task = some record)
    (queued : record.state = .queued) (due : record.timing.start ≤ current) :
    ∃ claimed, table.claim current task = some (record.work, claimed) ∧
      table.Revises claimed task (record.started current) table.queue := by
  have taken : table.claim current task =
      some (record.work, table.update task (·.started current)) := by
    simp only [claim, found, queued, due, and_self, if_true]
    rfl
  refine ⟨_, taken, ?_, ?_, rfl, rfl, rfl⟩
  · rw [find?_claim taken, if_pos rfl, found]
    rfl
  · intro other apart
    rw [find?_claim taken, if_neg apart]

theorem finish_revises (found : table.find? task = some record)
    (running : record.state = .running) (work : Option ω) :
    ∃ finished, table.finish task work = (true, finished) ∧
      table.Revises finished task { record with state := .completed, work }
        (table.queue.erase task) := by
  refine ⟨_, finish_of_running work record found running, ?_, ?_, rfl, rfl, rfl⟩
  · rw [find?_dequeue, find?_update, if_pos rfl, found]
    rfl
  · intro other apart
    rw [find?_dequeue, find?_update, if_neg apart]

theorem insert_revises {config : SchedulerConfig} {now : Ticks} {startUs deadlineUs : UInt64}
    {window : Window} (found : table.find? task = some record)
    (done : table.insert config now task startUs deadlineUs = .ok (window, after)) :
    table.Revises after task
      { record with
        state := .queued
        timing := { record.timing with start := window.start, deadline := window.deadline } }
      (if task ∈ table.queue then table.queue else table.queue ++ [task]) := by
  obtain ⟨_, _, _, _, rfl⟩ := insert_cases done
  refine ⟨?_, fun other apart => ?_, ?_, ?_, ?_⟩
  · rw [find?_enqueue, find?_update, if_pos rfl, found]
    rfl
  · rw [find?_enqueue, find?_update, if_neg apart]
  all_goals
    rw [enqueue, queue_update]
    split <;> rfl

end TaskTable

end EdfKernel
