import EdfKernel.Proofs.Candidates

/-!
What a scan comes to when it passes over none of the tasks that wait: it chooses one if there is
one, the table stays as it is, and there is nothing to report.
-/

namespace EdfKernel

theorem Timing.isPassedOver_eq_false {timing : Timing} {current : Ticks}
    (ahead : current < timing.effectiveDeadline)
    (bounded : ¬ (current = 0 ∧ timing.effectiveDeadline = Ticks.last)) :
    timing.isPassedOver current = false := by
  rw [← Bool.not_eq_true, isPassedOver_iff]
  rintro (late | far)
  · exact UInt64.not_le.mpr ahead (of_decide_eq_true late)
  · exact bounded far

namespace TaskTable

variable {ω : Type}

/-- The tasks among these that wait are all in sight of a scan at `current`. -/
def Punctual (table : TaskTable ω) (entries : List TaskHandle) (current : Ticks) : Prop :=
  ∀ task ∈ entries, ∀ record, table.find? task = some record → record.state = .queued →
    record.timing.isPassedOver current = false

variable {table : TaskTable ω} {entries rest : List TaskHandle} {current : Ticks}
  {task entry : TaskHandle} {record : TaskRecord ω}

theorem Punctual.early (punctual : table.Punctual entries current) (member : task ∈ entries)
    (found : table.find? task = some record) (queued : record.state = .queued) :
    record.timing.isMissed current = false :=
  (Bool.or_eq_false_iff.mp (punctual task member record found queued)).1

theorem Punctual.tail (punctual : table.Punctual (entry :: rest) current) :
    table.Punctual rest current :=
  fun task member => punctual task (List.mem_cons_of_mem _ member)

theorem Punctual.mem_timelyTasks (punctual : table.Punctual table.queue current)
    (member : task ∈ table.queue) (found : table.find? task = some record)
    (queued : record.state = .queued) : task ∈ table.timelyTasks current := by
  refine List.mem_filter.mpr ⟨member, ?_⟩
  rw [isTimely_of_find? found]
  exact (record.isTimely_iff current).mpr ⟨queued, punctual.early member found queued⟩

end TaskTable

namespace Scan

variable {ω : Type} {scan : Scan ω} {current : Ticks}

theorem visit_punctual {task : TaskHandle}
    (sight : ∀ record, scan.table.find? task = some record → record.state = .queued →
      record.timing.isPassedOver current = false) :
    ∃ next slack, visit current scan task =
      { scan with slack, selection := { scan.selection with next } } := by
  unfold visit
  split
  case h_1 => exact ⟨_, _, rfl⟩
  case h_2 record found =>
    split
    case isTrue => exact ⟨_, _, rfl⟩
    case isFalse queued =>
      obtain ⟨early, _⟩ := Bool.or_eq_false_iff.mp (sight record found (not_not.mp queued))
      simp only [early, Bool.not_false, if_true, consider]
      split <;> exact ⟨_, _, rfl⟩

theorem foldl_visit_punctual (entries : List TaskHandle)
    (punctual : scan.table.Punctual entries current) :
    ∃ next slack, entries.foldl (visit current) scan =
      { scan with slack, selection := { scan.selection with next } } := by
  induction entries generalizing scan with
  | nil => exact ⟨_, _, rfl⟩
  | cons entry rest ih =>
      obtain ⟨first, few, visited⟩ := visit_punctual (punctual entry List.mem_cons_self)
      have later : (visit current scan entry).table.Punctual rest current := by
        rw [visited]
        exact punctual.tail
      obtain ⟨next, slack, scanned⟩ := ih later
      rw [List.foldl_cons, scanned, visited]
      exact ⟨next, slack, rfl⟩

end Scan

namespace TaskTable

variable {ω : Type} {table : TaskTable ω} {current : Ticks}

theorem select_punctual (punctual : table.Punctual table.queue current)
    (once : table.queue.Nodup) :
    (table.select current = Scan.start table ∧
      ∀ task ∈ table.queue, ∀ record, table.find? task = some record →
        record.state ≠ .queued) ∨
      ∃ task record, table.Chooses (table.timelyTasks current) task record ∧
        table.select current =
          ⟨table, ⟨some task, none, 0, 0⟩, record.timing.effectiveDeadline - current, []⟩ := by
  have begins : (Scan.start table).table.Punctual table.queue current := punctual
  obtain ⟨next, slack, scanned⟩ := Scan.foldl_visit_punctual table.queue begins
  have selected : table.select current = ⟨table, ⟨next, none, 0, 0⟩, slack, []⟩ := scanned
  have choice := (Scan.start table).foldl_visit_choice current table.queue once
  rw [scanned] at choice
  rcases choice with ⟨kept, still, far⟩ | ⟨task, record, chooses, _, chosen, left⟩
  · left
    constructor
    · cases kept
      cases still
      exact selected
    · intro task member record found queued
      have timely := (record.isTimely_iff current).mpr ⟨queued, punctual.early member found queued⟩
      obtain ⟨_, near⟩ := Bool.or_eq_false_iff.mp (punctual task member record found queued)
      exact of_decide_eq_false near (far task member record found timely)
  · right
    cases chosen
    cases left
    exact ⟨task, record, chooses, selected⟩

end TaskTable

end EdfKernel
