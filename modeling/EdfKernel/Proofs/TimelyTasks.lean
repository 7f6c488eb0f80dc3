import EdfKernel.Proofs.TableChange

/-!
What a scan chooses, whatever else it comes upon: of the queued tasks that can still start in
time the one whose effective deadline is nearest, and of those with the same one the task that
was admitted first. What the scan does to the late tasks on its way has no part in this.
-/

namespace EdfKernel

theorem Timing.slack_lt_iff {first second : Timing} {current : Ticks}
    (early : first.isMissed current = false) (other : second.isMissed current = false) :
    first.effectiveDeadline - current < second.effectiveDeadline - current ↔
      first.effectiveDeadline < second.effectiveDeadline := by
  have ahead {timing : Timing} (timely : timing.isMissed current = false) :
      current ≤ timing.effectiveDeadline :=
    UInt64.le_of_lt (UInt64.not_le.mp (of_decide_eq_false timely))
  have one := UInt64.le_iff_toNat_le.mp (ahead early)
  have two := UInt64.le_iff_toNat_le.mp (ahead other)
  rw [UInt64.lt_iff_toNat_lt, UInt64.lt_iff_toNat_lt, UInt64.toNat_sub_of_le _ _ (ahead early),
    UInt64.toNat_sub_of_le _ _ (ahead other)]
  omega

namespace TaskRecord

variable {ω : Type}

def isTimely (record : TaskRecord ω) (current : Ticks) : Bool :=
  decide (record.state = .queued) && !record.timing.isMissed current

theorem isTimely_iff (record : TaskRecord ω) (current : Ticks) :
    record.isTimely current = true ↔
      record.state = .queued ∧ record.timing.isMissed current = false := by
  simp [isTimely]

end TaskRecord

namespace TaskTable

variable {ω : Type}

def isTimely (table : TaskTable ω) (current : Ticks) (task : TaskHandle) : Bool :=
  (table.find? task).any fun record => record.isTimely current

/-- The tasks that can still start in time, in admission order. -/
def timelyTasks (table : TaskTable ω) (current : Ticks) : List TaskHandle :=
  table.queue.filter (table.isTimely current)

/-- The task waits, and of the others among the entries that wait none has an earlier
effective deadline, and none in front of it the same one. -/
structure Chooses (table : TaskTable ω) (entries : List TaskHandle) (task : TaskHandle)
    (record : TaskRecord ω) : Prop where
  found : table.find? task = some record
  queued : record.state = .queued
  first : ∃ front back, entries = front ++ task :: back ∧
    (∀ other ∈ front, ∀ held, table.find? other = some held → held.state = .queued →
      record.timing.effectiveDeadline < held.timing.effectiveDeadline) ∧
    ∀ other ∈ back, ∀ held, table.find? other = some held → held.state = .queued →
      record.timing.effectiveDeadline ≤ held.timing.effectiveDeadline

/-- The first task comes before the second: its effective deadline is earlier or, if they are
the same, its place in the queue is. -/
def Precedes (table : TaskTable ω) (first second : TaskHandle) : Prop :=
  ∃ one other, table.find? first = some one ∧ table.find? second = some other ∧
    (one.timing.effectiveDeadline < other.timing.effectiveDeadline ∨
      one.timing.effectiveDeadline = other.timing.effectiveDeadline ∧
        [first, second].Sublist table.queue)

variable {table after : TaskTable ω} {current : Ticks} {entries rest : List TaskHandle}
  {task other entry : TaskHandle} {record held : TaskRecord ω}

theorem isTimely_of_find? (found : table.find? task = some record) :
    table.isTimely current task = record.isTimely current := by
  rw [isTimely, found, Option.any_some]

theorem find?_of_isTimely (timely : table.isTimely current task = true) :
    ∃ record, table.find? task = some record ∧ record.isTimely current = true := by
  rw [isTimely, Option.any_eq_true] at timely
  exact timely

theorem QueueAgrees.mem_timelyTasks (agrees : table.QueueAgrees) {task : TaskHandle}
    {record : TaskRecord ω} (found : table.find? task = some record)
    (queued : record.state = .queued) (early : record.timing.isMissed current = false) :
    task ∈ table.timelyTasks current := by
  have admitted : record.state.isAdmitted = true := by
    rw [queued]
    rfl
  refine List.mem_filter.mpr ⟨(agrees.mem_iff task).mpr ⟨record, found, admitted⟩, ?_⟩
  rw [isTimely_of_find? found]
  exact (record.isTimely_iff current).mpr ⟨queued, early⟩

theorem Chooses.mem (chooses : table.Chooses entries task record) : task ∈ entries := by
  obtain ⟨front, back, rfl, _⟩ := chooses.first
  exact List.mem_append_right front List.mem_cons_self

theorem Chooses.early
    (chooses : table.Chooses (entries.filter (table.isTimely current)) task record) :
    record.timing.isMissed current = false := by
  have timely := List.of_mem_filter chooses.mem
  rw [isTimely_of_find? chooses.found] at timely
  exact ((record.isTimely_iff current).mp timely).2

theorem Chooses.congr (chooses : after.Chooses entries task record)
    (same : ∀ other ∈ entries, after.find? other = table.find? other) :
    table.Chooses entries task record := by
  have member := chooses.mem
  obtain ⟨front, back, rfl, before, behind⟩ := chooses.first
  refine ⟨(same task member).symm.trans chooses.found, chooses.queued, front, back, rfl, ?_, ?_⟩
  · intro other ahead held found
    exact before other ahead held ((same other (List.mem_append_left _ ahead)).trans found)
  · intro other later held found
    have inside := List.mem_append_right front (List.mem_cons_of_mem task later)
    exact behind other later held ((same other inside).trans found)

theorem Chooses.cons (chooses : table.Chooses rest task record)
    (farther : ∀ held, table.find? entry = some held → held.state = .queued →
      record.timing.effectiveDeadline < held.timing.effectiveDeadline) :
    table.Chooses (entry :: rest) task record := by
  obtain ⟨front, back, rfl, before, behind⟩ := chooses.first
  refine ⟨chooses.found, chooses.queued, entry :: front, back, rfl, ?_, behind⟩
  intro other member
  rcases List.mem_cons.mp member with rfl | deeper
  · exact farther
  · exact before other deeper

theorem Chooses.precedes (chooses : table.Chooses entries task record)
    (ordered : entries.Sublist table.queue) (member : other ∈ entries) (apart : other ≠ task)
    (found : table.find? other = some held) (queued : held.state = .queued) :
    table.Precedes task other := by
  obtain ⟨front, back, rfl, before, behind⟩ := chooses.first
  refine ⟨record, held, chooses.found, found, ?_⟩
  rcases List.mem_append.mp member with ahead | there
  · exact .inl (before other ahead held found queued)
  · rcases List.mem_cons.mp there with same | after
    · exact absurd same apart
    · rcases UInt64.lt_or_eq_of_le (behind other after held found queued) with less | same
      · exact .inl less
      · have pair : [task, other].Sublist (task :: back) :=
          (List.singleton_sublist.mpr after).cons_cons task
        exact .inr ⟨same, (pair.trans (List.sublist_append_right front _)).trans ordered⟩

end TaskTable

namespace Scan

variable {ω : Type} {scan : Scan ω} {current : Ticks} {task : TaskHandle} {record : TaskRecord ω}

/-- None of the entries that could start in time has less time left than the scan had in mind. -/
def Unbeaten (scan : Scan ω) (current : Ticks) (entries : List TaskHandle) : Prop :=
  ∀ task ∈ entries, ∀ record, scan.table.find? task = some record →
    record.isTimely current = true → scan.slack ≤ record.timing.effectiveDeadline - current

theorem visit_timely (found : scan.table.find? task = some record)
    (timely : record.isTimely current = true) :
    visit current scan task = scan.consider current task record.timing := by
  obtain ⟨queued, early⟩ := (record.isTimely_iff current).mp timely
  simp only [visit, found, queued, early, ne_eq, not_true_eq_false, if_false, Bool.not_false,
    if_true]

theorem visit_untimely (out : scan.table.isTimely current task = false) :
    (visit current scan task).selection.next = scan.selection.next ∧
      (visit current scan task).slack = scan.slack := by
  unfold visit
  split
  case h_1 => exact ⟨rfl, rfl⟩
  case h_2 record found =>
    split
    case isTrue => exact ⟨rfl, rfl⟩
    case isFalse queued =>
      rw [TaskTable.isTimely_of_find? found] at out
      have late : record.timing.isMissed current = true := by
        simpa [TaskRecord.isTimely, not_not.mp queued] using out
      simp only [late, Bool.not_true, Bool.false_eq_true, if_false]
      split <;> exact ⟨rfl, rfl⟩

theorem visit_choice (scan : Scan ω) (current : Ticks) (task : TaskHandle) :
    ((visit current scan task).selection.next = scan.selection.next ∧
      (visit current scan task).slack = scan.slack ∧ scan.Unbeaten current [task]) ∨
    ∃ record, scan.table.find? task = some record ∧ record.isTimely current = true ∧
      record.timing.effectiveDeadline - current < scan.slack ∧
      (visit current scan task).selection.next = some task ∧
      (visit current scan task).slack = record.timing.effectiveDeadline - current := by
  cases timely : scan.table.isTimely current task with
  | true =>
      obtain ⟨record, found, waits⟩ := TaskTable.find?_of_isTimely timely
      rw [visit_timely found waits]
      by_cases beats : record.timing.effectiveDeadline - current < scan.slack
      · right
        refine ⟨record, found, waits, beats, ?_⟩
        simp only [consider, beats, if_true, and_self]
      · left
        simp only [consider, beats, if_false, true_and]
        intro other only held here _
        cases List.mem_singleton.mp only
        cases found.symm.trans here
        exact UInt64.not_lt.mp beats
  | false =>
      left
      obtain ⟨next, slack⟩ := visit_untimely timely
      refine ⟨next, slack, ?_⟩
      intro other only held here waits
      cases List.mem_singleton.mp only
      rw [TaskTable.isTimely_of_find? here, waits] at timely
      cases timely

theorem filter_isTimely_visit {rest : List TaskHandle} (once : task ∉ rest) :
    rest.filter ((visit current scan task).table.isTimely current) =
      rest.filter (scan.table.isTimely current) := by
  apply List.filter_congr
  intro other member
  have apart : other ≠ task := fun same => once (same ▸ member)
  rw [TaskTable.isTimely, TaskTable.isTimely, find?_visit_of_ne scan current task other apart]

variable (scan current)

/-- Over entries that come once each, either none beats what the scan had in mind, or it settles
on the first of the nearest that can start in time. -/
theorem foldl_visit_choice (entries : List TaskHandle) (once : entries.Nodup) :
    ((entries.foldl (visit current) scan).selection.next = scan.selection.next ∧
      (entries.foldl (visit current) scan).slack = scan.slack ∧ scan.Unbeaten current entries) ∨
    ∃ task record,
      scan.table.Chooses (entries.filter (scan.table.isTimely current)) task record ∧
      record.timing.effectiveDeadline - current < scan.slack ∧
      (entries.foldl (visit current) scan).selection.next = some task ∧
      (entries.foldl (visit current) scan).slack =
        record.timing.effectiveDeadline - current := by
  -- By induction on the entries; the choice among the rest beats the first entry or not.
  induction entries generalizing scan with
  | nil => exact .inl ⟨rfl, rfl, List.forall_mem_nil _⟩
  | cons entry rest ih =>
      obtain ⟨first, later⟩ := List.nodup_cons.mp once
      have others (task : TaskHandle) (member : task ∈ rest) :
          (visit current scan entry).table.find? task = scan.table.find? task :=
        find?_visit_of_ne scan current entry task fun same => first (same ▸ member)
      have carried {task : TaskHandle} {record : TaskRecord ω}
          (chooses : (visit current scan entry).table.Chooses
            (rest.filter ((visit current scan entry).table.isTimely current)) task record)
          (farther : ∀ held, scan.table.find? entry = some held → held.isTimely current = true →
            record.timing.effectiveDeadline < held.timing.effectiveDeadline) :
          scan.table.Chooses ((entry :: rest).filter (scan.table.isTimely current)) task
            record := by
        rw [filter_isTimely_visit first] at chooses
        have here := chooses.congr fun other member => others other (List.mem_of_mem_filter member)
        cases timely : scan.table.isTimely current entry with
        | true =>
            rw [List.filter_cons_of_pos timely]
            apply here.cons
            intro held found _
            rw [TaskTable.isTimely_of_find? found] at timely
            exact farther held found timely
        | false => rwa [List.filter_cons_of_neg (by simp [timely])]
      rw [List.foldl_cons]
      rcases visit_choice scan current entry with
        ⟨next, slack, unbeaten⟩ | ⟨near, here, timely, beats, next, slack⟩
      · rw [← next, ← slack]
        rcases ih _ later with ⟨kept, still, all⟩ | ⟨task, record, chooses, nearer, chosen, left⟩
        · refine .inl ⟨kept, still, ?_⟩
          intro task member record found waits
          rcases List.mem_cons.mp member with rfl | behind
          · exact unbeaten task List.mem_cons_self record found waits
          · rw [← slack]
            exact all task behind record ((others task behind).trans found) waits
        · refine .inr ⟨task, record, carried chooses ?_, nearer, chosen, left⟩
          intro held there waits
          rw [slack] at nearer
          have far := unbeaten entry List.mem_cons_self held there waits
          exact (Timing.slack_lt_iff chooses.early ((held.isTimely_iff current).mp waits).2).mp
            (UInt64.lt_of_lt_of_le nearer far)
      · obtain ⟨waiting, early⟩ := (near.isTimely_iff current).mp timely
        right
        rcases ih _ later with ⟨kept, still, all⟩ | ⟨task, record, chooses, nearer, chosen, left⟩
        · have front : scan.table.isTimely current entry = true :=
            (TaskTable.isTimely_of_find? here).trans timely
          rw [List.filter_cons_of_pos front]
          refine ⟨entry, near, ⟨here, waiting, [], _, rfl, List.forall_mem_nil _, ?_⟩, beats,
            kept.trans next, still.trans slack⟩
          intro other member held there _
          obtain ⟨inside, waits⟩ := List.mem_filter.mp member
          rw [TaskTable.isTimely_of_find? there] at waits
          have far := all other inside held ((others other inside).trans there) waits
          rw [slack] at far
          rw [← UInt64.not_lt]
          intro less
          have ahead := ((held.isTimely_iff current).mp waits).2
          exact UInt64.not_lt.mpr far ((Timing.slack_lt_iff ahead early).mpr less)
        · rw [slack] at nearer
          refine ⟨task, record, carried chooses ?_, UInt64.lt_trans nearer beats, chosen, left⟩
          intro held there waits
          cases here.symm.trans there
          exact (Timing.slack_lt_iff chooses.early early).mp nearer

end Scan

namespace TaskTable

variable {ω : Type} {table : TaskTable ω}

/-- Either none of the tasks that can start in time has a deadline that ticks can tell from the
most distant one, or a scan chooses the first of the nearest. -/
theorem select_choice (once : table.queue.Nodup) (current : Ticks) :
    ((table.select current).selection.next = none ∧
      (table.select current).slack = Ticks.last ∧
      ∀ task ∈ table.timelyTasks current, ∀ record, table.find? task = some record →
        Ticks.last ≤ record.timing.effectiveDeadline - current) ∨
    ∃ task record, table.Chooses (table.timelyTasks current) task record ∧
      record.timing.effectiveDeadline - current < Ticks.last ∧
      (table.select current).selection.next = some task ∧
      (table.select current).slack = record.timing.effectiveDeadline - current := by
  rcases (Scan.start table).foldl_visit_choice current table.queue once with
    ⟨next, slack, unbeaten⟩ | chosen
  · refine .inl ⟨next, slack, ?_⟩
    intro task member record found
    obtain ⟨queued, timely⟩ := List.mem_filter.mp member
    rw [isTimely_of_find? found] at timely
    exact unbeaten task queued record found timely
  · exact .inr chosen

end TaskTable

end EdfKernel
