import EdfKernel.Effect
import EdfKernel.Proofs.TableConsistency

/-!
What a section can make of the table it holds. A section that a caller asked
for makes one `Change`; those of a pass scan the queue, claim a task and put its
work back. Each of them keeps the table consistent, and what it does to a
record is read off one relation per kind.
-/

namespace EdfKernel

namespace TaskTable

variable {ω : Type}

/-- What a caller's section can make of a table, the task that it admits and the
work that it brings. -/
inductive Change (table : TaskTable ω) : Option TaskHandle → Option ω → TaskTable ω → Prop where
  | nothing : Change table none none table
  | create (work : ω) (settings : TaskSettings) (task : TaskHandle) (after : TaskTable ω)
      (taken : table.alloc (.fresh work settings) = some (task, after)) :
      Change table none (some work) after
  | configure (task : TaskHandle) (record : TaskRecord ω) (settings : TaskSettings)
      (found : table.find? task = some record) (idle : record.state ≠ .running) :
      Change table none none (table.update task (·.configure settings))
  | retire (task : TaskHandle) (record : TaskRecord ω)
      (found : table.find? task = some record) (idle : record.state ≠ .running) :
      Change table none none (table.release task)
  | insert (task : TaskHandle) (record : TaskRecord ω) (start deadline : Ticks)
      (found : table.find? task = some record) (idle : record.state ≠ .running)
      (window : start < deadline) :
      Change table (some task) none
        ((table.update task fun record =>
          { record with
            state := .queued
            timing := { record.timing with start, deadline } }).enqueue task)
  | cancel (task : TaskHandle) (record : TaskRecord ω)
      (found : table.find? task = some record) (idle : record.state ≠ .running) :
      Change table none none ((table.update task (·.cancel .caller)).dequeue task)
  | complete (task : TaskHandle) (record : TaskRecord ω)
      (found : table.find? task = some record) :
      Change table none none
        ((table.update task fun record => { record with state := .completed }).dequeue task)

theorem idle?_map_eq_ok {α : Type} {table : TaskTable ω} {task : TaskHandle}
    {f : TaskRecord ω → α} {after : α} (done : (table.idle? task).map f = .ok after) :
    ∃ record, table.find? task = some record ∧ record.state ≠ .running ∧ f record = after := by
  cases idle : table.idle? task with
  | error error => rw [idle] at done; cases done
  | ok record =>
      rw [idle] at done
      obtain ⟨found, apart⟩ := (idle?_eq_ok_iff table task record).mp idle
      exact ⟨record, found, apart, Except.ok.inj done⟩

theorem configure_change {table after : TaskTable ω} {task : TaskHandle}
    {settings : TaskSettings} (done : table.configure task settings = .ok after) :
    table.Change none none after := by
  obtain ⟨record, found, idle, rfl⟩ := idle?_map_eq_ok done
  exact .configure task record settings found idle

theorem retire_change {table after : TaskTable ω} {task : TaskHandle}
    (done : table.retire task = .ok after) : table.Change none none after := by
  obtain ⟨record, found, idle, rfl⟩ := idle?_map_eq_ok done
  exact .retire task record found idle

theorem cancel_change {table after : TaskTable ω} {task : TaskHandle}
    (done : table.cancel task = .ok after) : table.Change none none after := by
  obtain ⟨record, found, idle, rfl⟩ := idle?_map_eq_ok done
  exact .cancel task record found idle

theorem complete_change {table after : TaskTable ω} {task : TaskHandle}
    (done : table.complete task = .ok after) : table.Change none none after := by
  unfold complete at done
  cases found : table.find? task with
  | none => rw [found] at done; cases done
  | some record =>
      rw [found] at done
      cases done
      exact .complete task record found

theorem insert_cases {table after : TaskTable ω} {config : SchedulerConfig} {now : Ticks}
    {task : TaskHandle} {startUs deadlineUs : UInt64} {window : Window}
    (done : table.insert config now task startUs deadlineUs = .ok (window, after)) :
    ∃ record, table.find? task = some record ∧ record.state ≠ .running ∧
      window.start < window.deadline ∧
      after = (table.update task fun record =>
        { record with
          state := .queued
          timing := { record.timing with
            start := window.start
            deadline := window.deadline } }).enqueue task := by
  unfold insert at done
  cases idle : table.idle? task with
  | error error => rw [idle] at done; cases done
  | ok record =>
      rw [idle] at done
      dsimp only at done
      split at done
      case isTrue => cases done
      case isFalse apart =>
        cases done
        obtain ⟨found, running⟩ := (idle?_eq_ok_iff table task record).mp idle
        exact ⟨record, found, running, UInt64.not_le.mp apart, rfl⟩

theorem insert_change {table after : TaskTable ω} {config : SchedulerConfig} {now : Ticks}
    {task : TaskHandle} {startUs deadlineUs : UInt64} {window : Window}
    (done : table.insert config now task startUs deadlineUs = .ok (window, after)) :
    table.Change (some task) none after := by
  obtain ⟨record, found, idle, room, rfl⟩ := insert_cases done
  exact .insert task record window.start window.deadline found idle room

theorem insert_queued {table after : TaskTable ω} {config : SchedulerConfig} {now : Ticks}
    {task : TaskHandle} {startUs deadlineUs : UInt64} {window : Window}
    (done : table.insert config now task startUs deadlineUs = .ok (window, after)) :
    ∃ record, after.find? task = some record ∧ record.state = .queued := by
  obtain ⟨record, found, _, _, rfl⟩ := insert_cases done
  rw [find?_enqueue, find?_update, if_pos rfl, found]
  exact ⟨_, rfl, rfl⟩

theorem Change.consistent {table after : TaskTable ω} {admits : Option TaskHandle}
    {brings : Option ω} (change : table.Change admits brings after)
    (consistent : table.Consistent) : after.Consistent := by
  cases change with
  | nothing => exact consistent
  | create work settings task _ taken => exact consistent.alloc rfl taken
  | configure task record settings found idle => exact consistent.update task _ fun _ _ => rfl
  | retire task record found idle => exact consistent.release found
  | insert task record start deadline found idle window =>
      exact consistent.admit task _ record found rfl
  | cancel task record found idle => exact consistent.withdraw task _ fun _ _ => rfl
  | complete task record found => exact consistent.withdraw task _ fun _ _ => rfl

theorem Change.capacity {table after : TaskTable ω} {admits : Option TaskHandle}
    {brings : Option ω} (change : table.Change admits brings after) :
    after.capacity = table.capacity := by
  cases change with
  | create work settings task _ taken =>
      rcases alloc_cases table after _ task taken with ⟨_, _, _, _, _, _, rfl⟩ | ⟨_, _, _, rfl⟩
      · rfl
      · rfl
  | insert task record start deadline found idle window =>
      unfold enqueue
      split <;> rfl
  | nothing | configure | retire | cancel | complete => rfl

/-- What a caller's section can make of the record under one handle. -/
inductive Handled (admitted : Bool) : Option (TaskRecord ω) → Option (TaskRecord ω) → Prop where
  | same (record : Option (TaskRecord ω)) : Handled admitted record record
  | made (work : ω) (settings : TaskSettings) : Handled admitted none (some (.fresh work settings))
  | ended (record : TaskRecord ω) (idle : record.state ≠ .running) :
      Handled admitted (some record) none
  | configured (record : TaskRecord ω) (settings : TaskSettings) (idle : record.state ≠ .running) :
      Handled admitted (some record) (some (record.configure settings))
  | queued (record : TaskRecord ω) (start deadline : Ticks) (idle : record.state ≠ .running)
      (chosen : admitted = true) :
      Handled admitted (some record)
        (some
          { record with
            state := .queued
            timing := { record.timing with start, deadline } })
  | cancelled (record : TaskRecord ω) (idle : record.state ≠ .running) :
      Handled admitted (some record) (some (record.cancel .caller))
  | completed (record : TaskRecord ω) :
      Handled admitted (some record) (some { record with state := .completed })

theorem Change.handled {table after : TaskTable ω} {admits : Option TaskHandle}
    {brings : Option ω} (change : table.Change admits brings after)
    (consistent : table.Consistent) (other : TaskHandle) :
    Handled (decide (admits = some other)) (table.find? other) (after.find? other) := by
  cases change with
  | nothing => exact .same _
  | create work settings task _ taken =>
      rw [find?_alloc consistent taken]
      by_cases same : other = task
      · subst same
        rw [if_pos rfl, find?_of_alloc consistent taken]
        exact .made work settings
      · rw [if_neg same]
        exact .same _
  | configure task record settings found idle =>
      rw [find?_update]
      by_cases same : other = task
      · subst same
        rw [if_pos rfl, found]
        exact .configured record settings idle
      · rw [if_neg same]
        exact .same _
  | retire task record found idle =>
      rw [find?_release found]
      by_cases same : other = task
      · subst same
        rw [if_pos rfl, found]
        exact .ended record idle
      · rw [if_neg same]
        exact .same _
  | insert task record start deadline found idle window =>
      rw [find?_enqueue, find?_update]
      by_cases same : other = task
      · subst same
        rw [if_pos rfl, found]
        exact .queued record start deadline idle (by simp)
      · rw [if_neg same]
        exact .same _
  | cancel task record found idle =>
      rw [find?_dequeue, find?_update]
      by_cases same : other = task
      · subst same
        rw [if_pos rfl, found]
        exact .cancelled record idle
      · rw [if_neg same]
        exact .same _
  | complete task record found =>
      rw [find?_dequeue, find?_update]
      by_cases same : other = task
      · subst same
        rw [if_pos rfl, found]
        exact .completed record
      · rw [if_neg same]
        exact .same _

theorem Change.brought {table after : TaskTable ω} {admits : Option TaskHandle}
    {brings : Option ω} (change : table.Change admits brings after)
    (consistent : table.Consistent) {task : TaskHandle} {record : TaskRecord ω}
    (absent : table.find? task = none) (found : after.find? task = some record) :
    brings.isSome = true ∧ record.work = brings := by
  cases change with
  | nothing =>
      rw [absent] at found
      cases found
  | create work settings made _ taken =>
      rw [find?_alloc consistent taken] at found
      by_cases same : task = made
      · rw [if_pos same] at found
        cases found
        exact ⟨rfl, rfl⟩
      · rw [if_neg same, absent] at found
        cases found
  | retire other record here idle =>
      rw [find?_release here, absent] at found
      split at found <;> cases found
  | configure other record settings here idle =>
      rw [find?_update, absent] at found
      split at found <;> cases found
  | insert other record start deadline here idle window =>
      rw [find?_enqueue, find?_update, absent] at found
      split at found <;> cases found
  | cancel other record here idle | complete other record here =>
      rw [find?_dequeue, find?_update, absent] at found
      split at found <;> cases found

end TaskTable

/-! The scan of a pass visits each entry of the queue once. -/

namespace TaskRecord

variable {ω : Type}

/-- What a scan at `current` can make of the record of one task. -/
inductive Scanned (current : Ticks) (record : TaskRecord ω) : TaskRecord ω → Prop where
  | same : Scanned current record record
  | missed (queued : record.state = .queued) (late : record.timing.isMissed current = true) :
      Scanned current record (record.cancel .deadlineMissed)
  | moved (queued : record.state = .queued) (late : record.timing.isMissed current = true) :
      Scanned current record { record with timing := (record.timing.realign current).1 }

theorem Scanned.work {current : Ticks} {record after : TaskRecord ω}
    (scanned : record.Scanned current after) : after.work = record.work := by
  cases scanned <;> rfl

theorem Scanned.running_iff {current : Ticks} {record after : TaskRecord ω}
    (scanned : record.Scanned current after) :
    after.state = .running ↔ record.state = .running := by
  cases scanned with
  | same => rfl
  | missed queued late => simp [cancel, queued]
  | moved queued late => simp [queued]

theorem Scanned.queued {current : Ticks} {record after : TaskRecord ω}
    (scanned : record.Scanned current after) (queued : after.state = .queued) :
    record.state = .queued := by
  cases scanned with
  | same => exact queued
  | missed before late => exact before
  | moved before late => exact before

end TaskRecord

namespace Scan

variable {ω : Type} (scan : Scan ω) (current : Ticks) (task : TaskHandle)

theorem visit_cases :
    (visit current scan task).table = scan.table ∨
    (∃ record, scan.table.find? task = some record ∧ record.state = .queued ∧
      record.timing.isMissed current = true ∧
      ((visit current scan task).table =
          (scan.table.update task (·.cancel .deadlineMissed)).dequeue task ∨
        (visit current scan task).table =
          scan.table.update task fun held =>
            { held with timing := (record.timing.realign current).1 })) := by
  unfold visit
  split
  case h_1 => exact .inl rfl
  case h_2 record found =>
    by_cases queued : record.state = .queued
    · cases late : record.timing.isMissed current with
      | false =>
          simp only [queued, not_true_eq_false, ne_eq, if_false, Bool.not_false, if_true, consider]
          split <;> exact .inl rfl
      | true =>
          refine .inr ⟨record, found, queued, late, ?_⟩
          simp only [queued, ne_eq, not_true_eq_false, if_false, Bool.not_true, Bool.false_eq_true]
          split
          · exact .inl rfl
          · exact .inr rfl
    · simp [queued]

theorem visit_capacity : (visit current scan task).table.capacity = scan.table.capacity := by
  rcases visit_cases scan current task with same | ⟨_, _, _, _, given | moved⟩
  · rw [same]
  · rw [given]
    rfl
  · rw [moved]
    rfl

theorem visit_consistent (consistent : scan.table.Consistent) :
    (visit current scan task).table.Consistent := by
  rcases visit_cases scan current task with same | ⟨record, found, queued, _, given | moved⟩
  · exact same ▸ consistent
  · rw [given]
    exact consistent.withdraw task _ fun _ _ => rfl
  · rw [moved]
    exact consistent.update task _ fun _ _ => rfl

theorem find?_visit_of_ne (other : TaskHandle) (apart : other ≠ task) :
    (visit current scan task).table.find? other = scan.table.find? other := by
  rcases visit_cases scan current task with same | ⟨record, found, queued, _, given | moved⟩
  · rw [same]
  · rw [given, TaskTable.find?_dequeue, TaskTable.find?_update, if_neg apart]
  · rw [moved, TaskTable.find?_update, if_neg apart]

theorem find?_visit_of_none (absent : scan.table.find? task = none) :
    (visit current scan task).table.find? task = none := by
  rcases visit_cases scan current task with same | ⟨record, found, _⟩
  · rw [same, absent]
  · rw [absent] at found
    cases found

theorem find?_visit_self (record : TaskRecord ω) (found : scan.table.find? task = some record) :
    ∃ after, (visit current scan task).table.find? task = some after ∧
      record.Scanned current after := by
  rcases visit_cases scan current task with same | ⟨held, here, queued, late, given | moved⟩
  · exact ⟨record, by rw [same, found], .same⟩
  · cases found.symm.trans here
    rw [given, TaskTable.find?_dequeue, TaskTable.find?_update, if_pos rfl, found]
    exact ⟨_, rfl, .missed queued late⟩
  · cases found.symm.trans here
    rw [moved, TaskTable.find?_update, if_pos rfl, found]
    exact ⟨_, rfl, .moved queued late⟩

theorem foldl_visit_consistent (entries : List TaskHandle) (consistent : scan.table.Consistent) :
    (entries.foldl (visit current) scan).table.Consistent := by
  induction entries generalizing scan with
  | nil => exact consistent
  | cons entry rest ih => exact ih _ (visit_consistent scan current entry consistent)

theorem foldl_visit_capacity (entries : List TaskHandle) :
    (entries.foldl (visit current) scan).table.capacity = scan.table.capacity := by
  induction entries generalizing scan with
  | nil => rfl
  | cons entry rest ih => exact (ih _).trans (visit_capacity scan current entry)

theorem find?_foldl_visit_of_not_mem (entries : List TaskHandle) (absent : task ∉ entries) :
    (entries.foldl (visit current) scan).table.find? task = scan.table.find? task := by
  induction entries generalizing scan with
  | nil => rfl
  | cons entry rest ih =>
      have apart := List.ne_of_not_mem_cons absent
      have later := List.not_mem_of_not_mem_cons absent
      rw [List.foldl_cons, ih _ later, find?_visit_of_ne scan current entry task apart]

theorem find?_foldl_visit_of_none (entries : List TaskHandle)
    (absent : scan.table.find? task = none) :
    (entries.foldl (visit current) scan).table.find? task = none := by
  induction entries generalizing scan with
  | nil => exact absent
  | cons entry rest ih =>
      apply ih
      by_cases same : task = entry
      · subst same
        exact find?_visit_of_none scan current task absent
      · rw [find?_visit_of_ne scan current entry task same, absent]

theorem find?_foldl_visit (entries : List TaskHandle) (once : entries.Nodup)
    (record : TaskRecord ω) (found : scan.table.find? task = some record) :
    ∃ after, (entries.foldl (visit current) scan).table.find? task = some after ∧
      record.Scanned current after := by
  induction entries generalizing scan with
  | nil => exact ⟨record, found, .same⟩
  | cons entry rest ih =>
      obtain ⟨first, later⟩ := List.nodup_cons.mp once
      by_cases same : task = entry
      · subst same
        obtain ⟨after, here, scanned⟩ := find?_visit_self scan current task record found
        refine ⟨after, ?_, scanned⟩
        rw [List.foldl_cons, find?_foldl_visit_of_not_mem _ current task rest first, here]
      · apply ih _ later
        rw [find?_visit_of_ne scan current entry task same, found]

end Scan

namespace TaskTable

variable {ω : Type}

theorem Consistent.select {table : TaskTable ω} (consistent : table.Consistent) (current : Ticks) :
    (table.select current).table.Consistent :=
  Scan.foldl_visit_consistent _ current _ consistent

theorem select_capacity (table : TaskTable ω) (current : Ticks) :
    (table.select current).table.capacity = table.capacity :=
  Scan.foldl_visit_capacity _ current _

theorem find?_select {table : TaskTable ω} (consistent : table.Consistent) (current : Ticks)
    (task : TaskHandle) (record : TaskRecord ω) (found : table.find? task = some record) :
    ∃ after, (table.select current).table.find? task = some after ∧
      record.Scanned current after :=
  Scan.find?_foldl_visit _ current task _ consistent.queue_nodup record found

theorem find?_select_of_none (table : TaskTable ω) (current : Ticks) (task : TaskHandle)
    (absent : table.find? task = none) : (table.select current).table.find? task = none :=
  Scan.find?_foldl_visit_of_none _ current task _ absent

theorem find?_of_select {table : TaskTable ω} (consistent : table.Consistent) (current : Ticks)
    (task : TaskHandle) (after : TaskRecord ω)
    (here : (table.select current).table.find? task = some after) :
    ∃ record, table.find? task = some record ∧ record.Scanned current after := by
  cases found : table.find? task with
  | none =>
      rw [find?_select_of_none table current task found] at here
      cases here
  | some record =>
      obtain ⟨same, there, scanned⟩ := find?_select consistent current task record found
      cases here.symm.trans there
      exact ⟨record, rfl, scanned⟩

/-! A pass takes a task out of the table and puts its work back. -/

theorem claim_cases {table after : TaskTable ω} {current : Ticks} {task : TaskHandle}
    {work : Option ω} (claimed : table.claim current task = some (work, after)) :
    ∃ record, table.find? task = some record ∧ record.state = .queued ∧
      record.timing.start ≤ current ∧ work = record.work ∧
      after = table.update task fun record =>
        { record with
          state := .running
          timing := { record.timing with start := current }
          work := none } := by
  unfold claim at claimed
  split at claimed
  case h_1 => cases claimed
  case h_2 record found =>
    by_cases due : record.state = .queued ∧ record.timing.start ≤ current
    · rw [if_pos due] at claimed
      cases claimed
      exact ⟨record, found, due.1, due.2, rfl, rfl⟩
    · rw [if_neg due] at claimed
      cases claimed

theorem find?_claim {table after : TaskTable ω} {current : Ticks} {task : TaskHandle}
    {work : Option ω} (claimed : table.claim current task = some (work, after))
    (other : TaskHandle) :
    after.find? other =
      if other = task then
        (table.find? other).map fun record =>
          { record with
            state := .running
            timing := { record.timing with start := current }
            work := none }
      else table.find? other := by
  obtain ⟨_, _, _, _, _, rfl⟩ := claim_cases claimed
  exact find?_update table task other _

theorem Consistent.claim {table after : TaskTable ω} (consistent : table.Consistent)
    {current : Ticks} {task : TaskHandle} {work : Option ω}
    (claimed : table.claim current task = some (work, after)) : after.Consistent := by
  obtain ⟨record, found, queued, _, _, rfl⟩ := claim_cases claimed
  apply consistent.update task
  intro held here
  cases found.symm.trans here
  rw [queued]
  rfl

theorem finish_of_none {table : TaskTable ω} {task : TaskHandle} (work : Option ω)
    (gone : table.find? task = none) : table.finish task work = (false, table) := by
  simp only [finish, gone]

theorem finish_of_running {table : TaskTable ω} {task : TaskHandle} (work : Option ω)
    (record : TaskRecord ω) (found : table.find? task = some record)
    (running : record.state = .running) :
    table.finish task work =
      (true, (table.update task fun record =>
        { record with state := .completed, work }).dequeue task) := by
  simp only [finish, found, running, if_true]

theorem finish_of_changed {table : TaskTable ω} {task : TaskHandle} (work : Option ω)
    (record : TaskRecord ω) (found : table.find? task = some record)
    (changed : record.state ≠ .running) :
    table.finish task work = (false, table.update task fun record => { record with work }) := by
  simp only [finish, found, changed, if_false]

theorem find?_finish (table : TaskTable ω) (task : TaskHandle) (work : Option ω)
    (other : TaskHandle) :
    (table.finish task work).2.find? other =
      if other = task then
        (table.find? other).map fun record =>
          { record with
            state := if record.state = .running then .completed else record.state
            work }
      else table.find? other := by
  cases found : table.find? task with
  | none =>
      rw [finish_of_none work found]
      by_cases same : other = task
      · simp [same, found]
      · rw [if_neg same]
  | some record =>
      by_cases running : record.state = .running
      · rw [finish_of_running work record found running, find?_dequeue, find?_update]
        by_cases same : other = task
        · simp [same, found, running]
        · rw [if_neg same, if_neg same]
      · rw [finish_of_changed work record found running, find?_update]
        by_cases same : other = task
        · simp [same, found, running]
        · rw [if_neg same, if_neg same]

theorem finish_capacity (table : TaskTable ω) (task : TaskHandle) (work : Option ω) :
    (table.finish task work).2.capacity = table.capacity := by
  unfold finish
  split
  · rfl
  · split <;> rfl

theorem Consistent.finish {table : TaskTable ω} (consistent : table.Consistent)
    (task : TaskHandle) (work : Option ω) : (table.finish task work).2.Consistent := by
  cases found : table.find? task with
  | none =>
      rw [finish_of_none work found]
      exact consistent
  | some record =>
      by_cases running : record.state = .running
      · rw [finish_of_running work record found running]
        exact consistent.withdraw task _ fun _ _ => rfl
      · rw [finish_of_changed work record found running]
        exact consistent.update task _ fun _ _ => rfl

end TaskTable

end EdfKernel
