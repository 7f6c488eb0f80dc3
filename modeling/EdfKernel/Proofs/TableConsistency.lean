import EdfKernel.Selection
import Mathlib.Data.List.Nodup
import Mathlib.Data.List.Perm.Subperm

/-!
The slots, the free stack and the queue of a task table say the same thing in
three ways: which tasks live, which slots are left, which tasks are admitted.
`Consistent` is that agreement. Every operation of the table keeps it, and with
it the table is full exactly when as many tasks live as it may hold.
-/

namespace EdfKernel

namespace TaskState

def isAdmitted : TaskState → Bool
  | queued | running => true
  | _ => false

end TaskState

namespace TaskTable

variable {ω : Type}

def isVacant (table : TaskTable ω) (index : Nat) : Bool :=
  table.slots[index]?.any fun slot => slot.record.isNone

def handleAt (table : TaskTable ω) (index : Nat) : Option TaskHandle :=
  table.slots[index]?.bind fun slot => slot.record.map fun _ => ⟨index, slot.generation⟩

def liveTasks (table : TaskTable ω) : List TaskHandle :=
  (List.range table.slots.length).filterMap table.handleAt

structure Consistent (table : TaskTable ω) : Prop where
  queue_nodup : table.queue.Nodup
  mem_queue : ∀ task, task ∈ table.queue ↔
    ∃ record, table.find? task = some record ∧ record.state.isAdmitted = true
  free_nodup : table.free.Nodup
  mem_free : ∀ index, index ∈ table.free ↔ table.isVacant index = true
  within : table.slots.length ≤ table.capacity

structure QueueAgrees (table : TaskTable ω) : Prop where
  once : table.queue.Nodup
  mem_iff : ∀ task, task ∈ table.queue ↔
    ∃ record, table.find? task = some record ∧ record.state.isAdmitted = true

theorem Consistent.queueAgrees {table : TaskTable ω} (consistent : table.Consistent) :
    table.QueueAgrees :=
  ⟨consistent.queue_nodup, consistent.mem_queue⟩

theorem find?_eq_some_iff (table : TaskTable ω) (task : TaskHandle) (record : TaskRecord ω) :
    table.find? task = some record ↔
      table.slots[task.index]? = some ⟨task.generation, some record⟩ := by
  unfold find?
  cases table.slots[task.index]? with
  | none => simp
  | some slot =>
      obtain ⟨generation, held⟩ := slot
      by_cases same : generation = task.generation
      · simp [Slot.recordAt, same]
      · simp [Slot.recordAt, same]

theorem find?_of_isVacant (table : TaskTable ω) (task : TaskHandle)
    (vacant : table.isVacant task.index = true) : table.find? task = none := by
  cases found : table.find? task with
  | none => rfl
  | some record =>
      rw [find?_eq_some_iff] at found
      simp [isVacant, found] at vacant

theorem isVacant_update (table : TaskTable ω) (task : TaskHandle)
    (f : TaskRecord ω → TaskRecord ω) (index : Nat) :
    (table.update task f).isVacant index = table.isVacant index := by
  unfold isVacant update
  simp only [List.getElem?_modify]
  cases table.slots[index]? with
  | none => rfl
  | some slot =>
      by_cases same : task.index = index
      · by_cases current : slot.generation = task.generation
        · simp [same, Slot.update, current]
        · simp [same, Slot.update, current]
      · simp [same]

theorem empty_consistent (capacity : Nat) : (empty capacity : TaskTable ω).Consistent where
  queue_nodup := List.nodup_nil
  mem_queue task := by simp [empty, find?]
  free_nodup := List.nodup_nil
  mem_free index := by simp [empty, isVacant]
  within := Nat.zero_le _

theorem Consistent.update {table : TaskTable ω} (consistent : table.Consistent)
    (task : TaskHandle) (f : TaskRecord ω → TaskRecord ω)
    (same : ∀ record, table.find? task = some record →
      (f record).state.isAdmitted = record.state.isAdmitted) :
    (table.update task f).Consistent where
  queue_nodup := consistent.queue_nodup
  mem_queue other := by
    rw [queue_update, consistent.mem_queue, find?_update]
    by_cases changed : other = task
    · subst changed
      cases found : table.find? other with
      | none => simp
      | some record => simp [same record found]
    · simp [changed]
  free_nodup := consistent.free_nodup
  mem_free index := by rw [free_update, isVacant_update, consistent.mem_free]
  within := by
    have kept : (table.update task f).slots.length = table.slots.length := by
      simp [TaskTable.update]
    rw [kept]
    exact consistent.within

theorem Consistent.withdraw {table : TaskTable ω} (consistent : table.Consistent)
    (task : TaskHandle) (f : TaskRecord ω → TaskRecord ω)
    (out : ∀ record, table.find? task = some record → (f record).state.isAdmitted = false) :
    ((table.update task f).dequeue task).Consistent where
  queue_nodup := consistent.queue_nodup.erase task
  mem_queue other := by
    have erased : other ∈ ((table.update task f).dequeue task).queue ↔
        other ≠ task ∧ other ∈ table.queue := consistent.queue_nodup.mem_erase_iff
    rw [erased, consistent.mem_queue, find?_dequeue, find?_update]
    by_cases changed : other = task
    · subst changed
      cases found : table.find? other with
      | none => simp
      | some record => simp [out record found]
    · simp [changed]
  free_nodup := consistent.free_nodup
  mem_free index := (consistent.mem_free index).trans (by rw [← isVacant_update table task f]; rfl)
  within := by
    have kept : ((table.update task f).dequeue task).slots.length = table.slots.length := by
      simp [TaskTable.update, dequeue]
    rw [kept]
    exact consistent.within

theorem Consistent.admit {table : TaskTable ω} (consistent : table.Consistent)
    (task : TaskHandle) (f : TaskRecord ω → TaskRecord ω) (record : TaskRecord ω)
    (found : table.find? task = some record) (admitted : (f record).state.isAdmitted = true) :
    ((table.update task f).enqueue task).Consistent := by
  -- Whether the task was in the queue already matters to the queue only.
  have fields : ((table.update task f).enqueue task).slots = (table.update task f).slots ∧
      ((table.update task f).enqueue task).free = table.free ∧
      ((table.update task f).enqueue task).capacity = table.capacity := by
    unfold enqueue
    split <;> exact ⟨rfl, rfl, rfl⟩
  obtain ⟨slots, free, capacity⟩ := fields
  constructor
  case queue_nodup =>
    unfold enqueue
    split
    case isTrue => exact consistent.queue_nodup
    case isFalse absent =>
      apply List.nodup_append.mpr
      refine ⟨consistent.queue_nodup, List.nodup_singleton task, ?_⟩
      intro other member last only same
      rw [List.mem_singleton.mp only] at same
      exact absent (same ▸ member)
  case mem_queue =>
    intro other
    rw [mem_queue_enqueue, queue_update, consistent.mem_queue, find?_enqueue, find?_update]
    by_cases changed : other = task
    · subst changed
      simp [found, admitted]
    · simp [changed]
  case free_nodup =>
    rw [free]
    exact consistent.free_nodup
  case mem_free =>
    intro index
    have vacant := isVacant_update table task f index
    unfold isVacant at vacant ⊢
    rw [free, slots, vacant]
    exact consistent.mem_free index
  case within =>
    have kept : (table.update task f).slots.length = table.slots.length := by
      simp [TaskTable.update]
    rw [slots, kept, capacity]
    exact consistent.within

/-! Taking a slot and giving it up. -/

theorem alloc_cases (table after : TaskTable ω) (record : TaskRecord ω) (task : TaskHandle)
    (taken : table.alloc record = some (task, after)) :
    (∃ index free slot, table.free = index :: free ∧ table.slots[index]? = some slot ∧
      task = ⟨index, slot.generation⟩ ∧
      after =
        { table with
          slots := table.slots.set index { slot with record := some record }
          free }) ∨
    (table.free = [] ∧ table.slots.length < table.capacity ∧ task = ⟨table.slots.length, 0⟩ ∧
      after = { table with slots := table.slots ++ [⟨0, some record⟩] }) := by
  unfold alloc at taken
  split at taken
  case h_1 index free stack =>
    obtain ⟨slot, found, same⟩ := Option.map_eq_some_iff.mp taken
    cases same
    exact .inl ⟨index, free, slot, stack, found, rfl, rfl⟩
  case h_2 stack =>
    by_cases full : table.capacity ≤ table.slots.length
    · simp [full] at taken
    · simp only [full, if_false, Option.some.injEq, Prod.mk.injEq] at taken
      obtain ⟨handle, grown⟩ := taken
      exact .inr ⟨stack, by omega, handle.symm, grown.symm⟩

theorem find?_alloc {table after : TaskTable ω} (consistent : table.Consistent)
    {record : TaskRecord ω} {task : TaskHandle}
    (taken : table.alloc record = some (task, after)) (other : TaskHandle) :
    after.find? other = if other = task then some record else table.find? other := by
  rcases alloc_cases table after record task taken with
    ⟨index, free, slot, stack, found, rfl, rfl⟩ | ⟨_, _, rfl, rfl⟩
  · have inside : index < table.slots.length := by
      by_contra outside
      simp [List.getElem?_eq_none (Nat.le_of_not_lt outside)] at found
    have vacant : table.isVacant index = true := by
      rw [← consistent.mem_free, stack]
      exact List.mem_cons_self
    have empty : slot.record = none := by simpa [isVacant, found] using vacant
    -- Another handle of the same slot named nothing before and names nothing now.
    by_cases here : other.index = index
    · have before : table.find? other = none := find?_of_isVacant table other (here ▸ vacant)
      rw [before]
      obtain ⟨otherIndex, generation⟩ := other
      cases here
      by_cases same : slot.generation = generation
      · simp [find?, inside, Slot.recordAt, same]
      · simp [find?, inside, Slot.recordAt, same, Ne.symm same]
    · have apart : other ≠ ⟨index, slot.generation⟩ := fun same => here (by rw [same])
      simp [find?, Ne.symm here, apart]
  · obtain ⟨index, generation⟩ := other
    rcases Nat.lt_trichotomy index table.slots.length with inside | last | outside
    · simp [find?, List.getElem?_append_left inside, Nat.ne_of_lt inside]
    · subst last
      by_cases same : generation = 0
      · simp [find?, Slot.recordAt, same]
      · simp [find?, Slot.recordAt, same, Ne.symm same]
    · have beyond : (table.slots ++ [(⟨0, some record⟩ : Slot ω)])[index]? = none :=
        List.getElem?_eq_none (by simp only [List.length_append, List.length_singleton]; omega)
      simp [find?, beyond, List.getElem?_eq_none (Nat.le_of_lt outside), Nat.ne_of_gt outside]

theorem find?_of_alloc {table after : TaskTable ω} (consistent : table.Consistent)
    {record : TaskRecord ω} {task : TaskHandle}
    (taken : table.alloc record = some (task, after)) : table.find? task = none := by
  rcases alloc_cases table after record task taken with
    ⟨index, free, slot, stack, found, rfl, rfl⟩ | ⟨_, _, rfl, rfl⟩
  · apply find?_of_isVacant
    rw [← consistent.mem_free, stack]
    exact List.mem_cons_self
  · simp [find?]

theorem Consistent.alloc {table after : TaskTable ω} (consistent : table.Consistent)
    {record : TaskRecord ω} {task : TaskHandle} (fresh : record.state.isAdmitted = false)
    (taken : table.alloc record = some (task, after)) : after.Consistent := by
  have absent := find?_of_alloc consistent taken
  -- A new task is not admitted, so the queue stays what it was, however the slot was got.
  have members : ∀ other, other ∈ table.queue ↔
      ∃ held, after.find? other = some held ∧ held.state.isAdmitted = true := by
    intro other
    rw [consistent.mem_queue, find?_alloc consistent taken]
    by_cases same : other = task
    · subst same
      simp [absent, fresh]
    · simp [same]
  rcases alloc_cases table after record task taken with
    ⟨index, free, slot, stack, found, rfl, rfl⟩ | ⟨stack, room, rfl, rfl⟩
  · have once := consistent.free_nodup
    rw [stack, List.nodup_cons] at once
    constructor
    case queue_nodup => exact consistent.queue_nodup
    case mem_queue => exact members
    case free_nodup => exact once.2
    case mem_free =>
      intro other
      have before := consistent.mem_free other
      rw [stack, List.mem_cons] at before
      have inside : index < table.slots.length := by
        by_contra outside
        simp [List.getElem?_eq_none (Nat.le_of_not_lt outside)] at found
      by_cases same : other = index
      · subst same
        simpa [isVacant, inside] using once.1
      · simp only [same, false_or] at before
        simpa [isVacant, Ne.symm same] using before
    case within => simpa using consistent.within
  · constructor
    case queue_nodup => exact consistent.queue_nodup
    case mem_queue => exact members
    case free_nodup => exact consistent.free_nodup
    case mem_free =>
      intro other
      have before := consistent.mem_free other
      rw [stack] at before ⊢
      rcases Nat.lt_trichotomy other table.slots.length with inside | last | outside
      · rw [before, isVacant, isVacant, List.getElem?_append_left inside]
      · simp [isVacant, last]
      · have beyond : (table.slots ++ [(⟨0, some record⟩ : Slot ω)])[other]? = none :=
          List.getElem?_eq_none (by simp only [List.length_append, List.length_singleton]; omega)
        simp [isVacant, beyond]
    case within =>
      simp only [List.length_append, List.length_singleton]
      omega

theorem find?_release {table : TaskTable ω} {task : TaskHandle} {record : TaskRecord ω}
    (found : table.find? task = some record) (other : TaskHandle) :
    (table.release task).find? other = if other = task then none else table.find? other := by
  by_cases same : other = task
  · subst same
    simp [find?_release_self]
  · rw [if_neg same]
    -- Two live handles of one slot would have the same generation.
    by_cases here : other.index = task.index
    · have gone : (table.release task).find? other = none := by
        obtain ⟨index, generation⟩ := other
        cases here
        exact find?_release_self table task ▸ by
          simp only [find?, TaskTable.release, List.getElem?_modify, if_true]
          cases table.slots[task.index]? <;> simp
      rw [find?_eq_some_iff] at found
      rw [gone]
      have stale : task.generation ≠ other.generation := by
        intro current
        apply same
        cases other
        cases task
        simp_all
      simp [find?, here, found, Slot.recordAt, stale]
    · exact find?_release_of_index_ne table task other here

theorem isVacant_release {table : TaskTable ω} {task : TaskHandle} {record : TaskRecord ω}
    (found : table.find? task = some record) (index : Nat) :
    (table.release task).isVacant index =
      (decide (index = task.index) || table.isVacant index) := by
  rw [find?_eq_some_iff] at found
  by_cases here : index = task.index
  · simp [isVacant, TaskTable.release, here, found, Slot.release]
  · simp [isVacant, TaskTable.release, here, Ne.symm here]

theorem Consistent.release {table : TaskTable ω} (consistent : table.Consistent)
    {task : TaskHandle} {record : TaskRecord ω} (found : table.find? task = some record) :
    (table.release task).Consistent where
  queue_nodup := consistent.queue_nodup.erase task
  mem_queue other := by
    have erased : other ∈ (table.release task).queue ↔ other ≠ task ∧ other ∈ table.queue :=
      consistent.queue_nodup.mem_erase_iff
    rw [erased, consistent.mem_queue, find?_release found]
    by_cases same : other = task
    · simp [same]
    · simp [same]
  free_nodup := by
    have taken : task.index ∉ table.free := by
      rw [consistent.mem_free]
      rw [find?_eq_some_iff] at found
      simp [isVacant, found]
    exact List.nodup_cons.mpr ⟨taken, consistent.free_nodup⟩
  mem_free index := by
    have freed : index ∈ (table.release task).free ↔ index = task.index ∨ index ∈ table.free :=
      List.mem_cons
    rw [freed, consistent.mem_free, isVacant_release found]
    simp
  within := by
    have kept : (table.release task).slots.length = table.slots.length := by
      simp [TaskTable.release]
    rw [kept]
    exact consistent.within

/-! Counting live tasks. -/

theorem handleAt_eq_some_iff (table : TaskTable ω) (index : Nat) (task : TaskHandle) :
    table.handleAt index = some task ↔
      task.index = index ∧ ∃ record, table.find? task = some record := by
  obtain ⟨taskIndex, generation⟩ := task
  unfold handleAt
  constructor
  · intro handle
    obtain ⟨⟨held, content⟩, slot, named⟩ := Option.bind_eq_some_iff.mp handle
    obtain ⟨record, full, same⟩ := Option.map_eq_some_iff.mp named
    cases same
    exact ⟨rfl, record, by rw [find?_eq_some_iff, slot, ← full]⟩
  · rintro ⟨rfl, record, found⟩
    rw [find?_eq_some_iff] at found
    simp [found]

theorem mem_liveTasks (table : TaskTable ω) (task : TaskHandle) :
    task ∈ table.liveTasks ↔ ∃ record, table.find? task = some record := by
  unfold liveTasks
  rw [List.mem_filterMap]
  constructor
  · rintro ⟨index, _, handle⟩
    exact ((handleAt_eq_some_iff table index task).mp handle).2
  · rintro ⟨record, found⟩
    refine ⟨task.index, ?_, (handleAt_eq_some_iff table task.index task).mpr ⟨rfl, record, found⟩⟩
    rw [find?_eq_some_iff] at found
    exact List.mem_range.mpr (List.getElem?_eq_some_iff.mp found).1

theorem liveTasks_nodup (table : TaskTable ω) : table.liveTasks.Nodup := by
  apply List.Nodup.filterMap _ List.nodup_range
  intro first second task left right
  have one := (handleAt_eq_some_iff table first task).mp left
  have two := (handleAt_eq_some_iff table second task).mp right
  exact one.1.symm.trans two.1

theorem isVacant_iff (table : TaskTable ω) (index : Nat) :
    table.isVacant index = true ↔ index < table.slots.length ∧ table.handleAt index = none := by
  unfold isVacant handleAt
  by_cases inside : index < table.slots.length
  · simp [inside]
  · simp [inside]

theorem Consistent.live_add_free {table : TaskTable ω} (consistent : table.Consistent) :
    table.liveTasks.length + table.free.length = table.slots.length := by
  have vacant : table.free.Perm
      ((List.range table.slots.length).filter fun index =>
        decide (table.handleAt index = none)) := by
    rw [List.perm_ext_iff_of_nodup consistent.free_nodup (List.nodup_range.filter _)]
    intro index
    rw [consistent.mem_free, isVacant_iff]
    simp
  have split := List.length_eq_countP_add_countP (fun index => (table.handleAt index).isSome)
    (l := List.range table.slots.length)
  rw [List.length_range] at split
  rw [vacant.length_eq, liveTasks, List.length_filterMap_eq_countP, ← List.countP_eq_length_filter]
  simpa using split.symm

theorem Consistent.live_le_capacity {table : TaskTable ω} (consistent : table.Consistent) :
    table.liveTasks.length ≤ table.capacity := by
  have total := consistent.live_add_free
  have bound := consistent.within
  omega

theorem Consistent.queue_le_live {table : TaskTable ω} (consistent : table.Consistent) :
    table.queue.length ≤ table.liveTasks.length := by
  apply (consistent.queue_nodup.subperm ?_).length_le
  intro task member
  obtain ⟨record, found, _⟩ := (consistent.mem_queue task).mp member
  exact (mem_liveTasks table task).mpr ⟨record, found⟩

theorem Consistent.alloc_eq_none_iff {table : TaskTable ω} (consistent : table.Consistent)
    (record : TaskRecord ω) :
    table.alloc record = none ↔ table.liveTasks.length = table.capacity := by
  have total := consistent.live_add_free
  have bound := consistent.within
  unfold TaskTable.alloc
  split
  case h_1 index free stack =>
    have vacant : table.isVacant index = true := by
      rw [← consistent.mem_free, stack]
      exact List.mem_cons_self
    have inside := ((isVacant_iff table index).mp vacant).1
    rw [stack, List.length_cons] at total
    simp only [List.getElem?_eq_getElem inside, Option.map_some, reduceCtorEq, false_iff]
    omega
  case h_2 stack =>
    rw [stack, List.length_nil] at total
    by_cases full : table.capacity ≤ table.slots.length
    · simp only [full, if_true, true_iff]
      omega
    · simp only [full, if_false, reduceCtorEq, false_iff]
      omega

end TaskTable

end EdfKernel
