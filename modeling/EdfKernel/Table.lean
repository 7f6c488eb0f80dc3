import EdfKernel.Error

/-!
The task table: slots that hold a record or are free, a stack of free slots,
and the queue of admitted tasks in admission order. A slot that is released
moves on to its next generation, so the handle of the released task finds
nothing. `find?` is the view of the table that callers have, and each
operation says what it does to that view.
-/

namespace EdfKernel

structure Slot (ω : Type) where
  generation : UInt32
  record : Option (TaskRecord ω)

structure TaskTable (ω : Type) where
  slots : List (Slot ω)
  /-- Free slots, the one released last in front. -/
  free : List Nat
  /-- Admitted tasks, the one admitted first in front. -/
  queue : List TaskHandle
  capacity : Nat

namespace Slot

variable {ω : Type}

def recordAt (slot : Slot ω) (generation : UInt32) : Option (TaskRecord ω) :=
  if slot.generation = generation then slot.record else none

def update (slot : Slot ω) (generation : UInt32) (f : TaskRecord ω → TaskRecord ω) : Slot ω :=
  if slot.generation = generation then { slot with record := slot.record.map f } else slot

def release (slot : Slot ω) : Slot ω := ⟨slot.generation + 1, none⟩

theorem recordAt_update (slot : Slot ω) (generation other : UInt32)
    (f : TaskRecord ω → TaskRecord ω) :
    (slot.update generation f).recordAt other =
      if other = generation then (slot.recordAt other).map f else slot.recordAt other := by
  unfold update recordAt
  by_cases current : slot.generation = generation
  · subst current
    by_cases same : other = slot.generation
    · simp [same]
    · simp [same, Ne.symm same]
  · by_cases same : other = generation
    · simp [same, current]
    · simp [same, current]

@[simp] theorem recordAt_release (slot : Slot ω) (generation : UInt32) :
    slot.release.recordAt generation = none := by
  unfold release recordAt
  split <;> rfl

end Slot

namespace TaskTable

variable {ω : Type}

def empty (capacity : Nat) : TaskTable ω := ⟨[], [], [], capacity⟩

def size (table : TaskTable ω) : Nat := table.slots.length - table.free.length

def find? (table : TaskTable ω) (task : TaskHandle) : Option (TaskRecord ω) :=
  table.slots[task.index]?.bind fun slot => slot.recordAt task.generation

def update (table : TaskTable ω) (task : TaskHandle)
    (f : TaskRecord ω → TaskRecord ω) : TaskTable ω :=
  { table with slots := table.slots.modify task.index fun slot => slot.update task.generation f }

def enqueue (table : TaskTable ω) (task : TaskHandle) : TaskTable ω :=
  if task ∈ table.queue then table else { table with queue := table.queue ++ [task] }

def dequeue (table : TaskTable ω) (task : TaskHandle) : TaskTable ω :=
  { table with queue := table.queue.erase task }

/-- Puts a record into the slot released last, else into a new slot; `none`
if the table has as many slots as it may have and all are in use. -/
def alloc (table : TaskTable ω) (record : TaskRecord ω) : Option (TaskHandle × TaskTable ω) :=
  match table.free with
  | index :: free =>
      table.slots[index]?.map fun slot =>
        (⟨index, slot.generation⟩,
          { table with
            slots := table.slots.set index { slot with record := some record }
            free })
  | [] =>
      if table.capacity ≤ table.slots.length then none
      else
        some (⟨table.slots.length, 0⟩,
          { table with slots := table.slots ++ [⟨0, some record⟩] })

/-- Ends a live task: its slot is free and its handle stale. -/
def release (table : TaskTable ω) (task : TaskHandle) : TaskTable ω :=
  { table with
    slots := table.slots.modify task.index Slot.release
    free := task.index :: table.free
    queue := table.queue.erase task }

theorem find?_update (table : TaskTable ω) (task other : TaskHandle)
    (f : TaskRecord ω → TaskRecord ω) :
    (table.update task f).find? other =
      if other = task then (table.find? other).map f else table.find? other := by
  obtain ⟨index, generation⟩ := task
  obtain ⟨otherIndex, otherGeneration⟩ := other
  unfold find? update
  simp only [List.getElem?_modify, TaskHandle.mk.injEq]
  by_cases sameIndex : index = otherIndex
  · subst sameIndex
    cases table.slots[index]? with
    | none => simp
    | some slot => simp [Slot.recordAt_update]
  · simp [sameIndex, Ne.symm sameIndex]

@[simp] theorem find?_dequeue (table : TaskTable ω) (task other : TaskHandle) :
    (table.dequeue task).find? other = table.find? other := rfl

@[simp] theorem find?_enqueue (table : TaskTable ω) (task other : TaskHandle) :
    (table.enqueue task).find? other = table.find? other := by
  unfold enqueue
  split <;> rfl

theorem mem_queue_enqueue (table : TaskTable ω) (task other : TaskHandle) :
    other ∈ (table.enqueue task).queue ↔ other ∈ table.queue ∨ other = task := by
  unfold enqueue
  by_cases queued : task ∈ table.queue
  · simp only [queued, if_true]
    constructor
    · exact Or.inl
    · rintro (member | same)
      · exact member
      · exact same ▸ queued
  · simp [queued]

@[simp] theorem queue_update (table : TaskTable ω) (task : TaskHandle)
    (f : TaskRecord ω → TaskRecord ω) : (table.update task f).queue = table.queue := rfl

@[simp] theorem free_update (table : TaskTable ω) (task : TaskHandle)
    (f : TaskRecord ω → TaskRecord ω) : (table.update task f).free = table.free := rfl

theorem find?_release_self (table : TaskTable ω) (task : TaskHandle) :
    (table.release task).find? task = none := by
  unfold find? release
  simp only [List.getElem?_modify, if_true]
  cases table.slots[task.index]? with
  | none => rfl
  | some slot => simp

theorem find?_release_of_index_ne (table : TaskTable ω) (task other : TaskHandle)
    (apart : other.index ≠ task.index) :
    (table.release task).find? other = table.find? other := by
  unfold find? release
  simp [Ne.symm apart]

end TaskTable

end EdfKernel
