import EdfKernel.Proofs.TimelyTasks

/-!
When a scan finds no candidate: each task it leaves in the queue was late, and
was given up or moved, or has a deadline that no slack can beat. What it chooses is queued and
in time, and is left as it was.
-/

namespace EdfKernel

namespace Timing

/-- A scan at `current` will not choose the task: it is late, or its deadline is
as far away as ticks can tell. -/
def isPassedOver (timing : Timing) (current : Ticks) : Bool :=
  timing.isMissed current || decide (Ticks.last ≤ timing.effectiveDeadline - current)

theorem isPassedOver_iff (timing : Timing) (current : Ticks) :
    timing.isPassedOver current = true ↔
      timing.isMissed current = true ∨
        current = 0 ∧ timing.effectiveDeadline = Ticks.last := by
  rw [isPassedOver, Bool.or_eq_true, decide_eq_true_eq]
  cases late : timing.isMissed current with
  | true => simp
  | false =>
      have ahead : current < timing.effectiveDeadline := UInt64.not_le.mp (of_decide_eq_false late)
      have whole := UInt64.toNat_sub_of_le _ _ (UInt64.le_of_lt ahead)
      have top := Ticks.le_last timing.effectiveDeadline
      simp only [Bool.false_eq_true, false_or, UInt64.le_iff_toNat_le, whole, Ticks.toNat_last,
        ← UInt64.toNat_inj, UInt64.toNat_zero]
      omega

end Timing

namespace Scan

variable {ω : Type} (scan : Scan ω) (current : Ticks) (task : TaskHandle)

def ChoosesInTime (scan : Scan ω) (current : Ticks) : Prop :=
  ∀ task, scan.selection.next = some task → ∃ record, scan.table.find? task = some record ∧
    record.state = .queued ∧ record.timing.isMissed current = false

theorem visit_choosesInTime (chooses : scan.ChoosesInTime current) :
    (visit current scan task).ChoosesInTime current := by
  unfold visit
  split
  case h_1 => exact chooses
  case h_2 record found =>
    split
    case isTrue => exact chooses
    case isFalse queued =>
      have waiting : record.state = .queued := not_not.mp queued
      cases late : record.timing.isMissed current with
      | false =>
          simp only [Bool.not_false, if_true, consider]
          split
          · intro chosen next
            cases next
            exact ⟨record, found, waiting, late⟩
          · exact chooses
      -- A late entry is rewritten, and it is not the one chosen before.
      | true =>
          have apart (chosen : TaskHandle) (next : scan.selection.next = some chosen) :
              chosen ≠ task := by
            rintro rfl
            obtain ⟨held, here, _, early⟩ := chooses chosen next
            cases found.symm.trans here
            rw [late] at early
            cases early
          simp only [Bool.not_true, Bool.false_eq_true, if_false]
          split
          · intro chosen next
            obtain ⟨held, here, waits, early⟩ := chooses chosen next
            refine ⟨held, ?_, waits, early⟩
            simp only [giveUp]
            rw [TaskTable.find?_dequeue, TaskTable.find?_update, if_neg (apart chosen next), here]
          · intro chosen next
            obtain ⟨held, here, waits, early⟩ := chooses chosen next
            refine ⟨held, ?_, waits, early⟩
            simp only [repair]
            rw [TaskTable.find?_update, if_neg (apart chosen next), here]

theorem foldl_visit_choosesInTime (entries : List TaskHandle)
    (chooses : scan.ChoosesInTime current) :
    (entries.foldl (visit current) scan).ChoosesInTime current := by
  induction entries generalizing scan with
  | nil => exact chooses
  | cons entry rest ih => exact ih _ (visit_choosesInTime scan current entry chooses)

end Scan

namespace TaskTable

variable {ω : Type}

theorem select_next_eq_none_iff {table : TaskTable ω} (agrees : table.QueueAgrees)
    (current : Ticks) :
    (table.select current).selection.next = none ↔
      ∀ task record, table.find? task = some record → record.state = .queued →
        record.timing.isPassedOver current = true := by
  rcases select_choice agrees.once current with
    ⟨next, _, far⟩ | ⟨task, record, chooses, near, next, _⟩
  · refine iff_of_true next fun task record found queued => ?_
    rw [Timing.isPassedOver, Bool.or_eq_true, decide_eq_true_eq]
    cases late : record.timing.isMissed current with
    | true => exact .inl rfl
    | false =>
        exact .inr (far task (agrees.mem_timelyTasks found queued late) record found)
  · refine iff_of_false (by simp [next]) fun all => ?_
    have passed := all task record chooses.found chooses.queued
    rw [Timing.isPassedOver, chooses.early, Bool.false_or, decide_eq_true_eq] at passed
    exact UInt64.not_le.mpr near passed

/-- Every task that can start in time has all the time there is. -/
def AllUnbounded (table : TaskTable ω) (current : Ticks) : Prop :=
  ∀ task record, table.find? task = some record → record.state = .queued →
    record.timing.isMissed current = false →
      current = 0 ∧ record.timing.effectiveDeadline = Ticks.last

theorem select_idle_iff {table : TaskTable ω} (agrees : table.QueueAgrees) (current : Ticks) :
    (table.select current).selection.next = none ↔ table.AllUnbounded current := by
  rw [select_next_eq_none_iff agrees]
  refine forall₄_congr fun task record found queued => ?_
  rw [record.timing.isPassedOver_iff]
  cases record.timing.isMissed current <;> simp

theorem select_choosesInTime (table : TaskTable ω) (current : Ticks) :
    (table.select current).ChoosesInTime current := by
  apply Scan.foldl_visit_choosesInTime
  intro task next
  cases next

theorem select_next_found (table : TaskTable ω) (current : Ticks) {task : TaskHandle}
    (next : (table.select current).selection.next = some task) :
    ∃ record, (table.select current).table.find? task = some record := by
  obtain ⟨record, found, _⟩ := table.select_choosesInTime current task next
  exact ⟨record, found⟩

end TaskTable

end EdfKernel
