import EdfKernel.Proofs.TableChange

/-!
What a scan does to the tasks that missed their slot. The first of them in the queue is
cancelled and leaves it; each further one is moved to a later window where it stands, and is
counted; every other record and the rest of the queue stay as they are.
-/

namespace EdfKernel

namespace TaskRecord

variable {ω : Type}

/-- The task is queued, and too late to start. -/
def isLate (record : TaskRecord ω) (current : Ticks) : Bool :=
  decide (record.state = .queued) && record.timing.isMissed current

def move (record : TaskRecord ω) (current : Ticks) : TaskRecord ω :=
  { record with timing := (record.timing.realign current).1 }

/-- Moved, the task would not keep its phase. -/
def losesPhase (record : TaskRecord ω) (current : Ticks) : Bool :=
  (record.timing.realign current).2.isExhausted

theorem isLate_iff (record : TaskRecord ω) (current : Ticks) :
    record.isLate current = true ↔
      record.state = .queued ∧ record.timing.isMissed current = true := by
  simp [isLate]

theorem toNat_missedDeadlines_cancel (record : TaskRecord ω) :
    (record.cancel .deadlineMissed).missedDeadlines.toNat =
      min (record.missedDeadlines.toNat + 1) 4294967295 := by
  have bound : record.missedDeadlines.toNat < 4294967296 := record.missedDeadlines.toNat_lt
  have limit : (4294967295 : UInt32).toNat = 4294967295 := rfl
  have one : (1 : UInt32).toNat = 1 := rfl
  simp only [cancel, true_and]
  split
  case isTrue below =>
    rw [UInt32.lt_iff_toNat_lt, limit] at below
    rw [UInt32.toNat_add, one]
    omega
  case isFalse full =>
    rw [UInt32.lt_iff_toNat_lt, limit] at full
    omega

end TaskRecord

namespace TaskTable

variable {ω : Type} (table : TaskTable ω) (current : Ticks)

def isLate (task : TaskHandle) : Bool :=
  (table.find? task).any fun record => record.isLate current

def losesPhase (task : TaskHandle) : Bool :=
  (table.find? task).any fun record => record.losesPhase current

def lateTasks : List TaskHandle := table.queue.filter (table.isLate current)

variable {table current} {other : TaskTable ω} {task : TaskHandle}

theorem isLate_congr (same : other.find? task = table.find? task) :
    other.isLate current task = table.isLate current task := by
  rw [isLate, isLate, same]

theorem losesPhase_congr (same : other.find? task = table.find? task) :
    other.losesPhase current task = table.losesPhase current task := by
  rw [losesPhase, losesPhase, same]

theorem isLate_of_find? {record : TaskRecord ω} (found : table.find? task = some record) :
    table.isLate current task = record.isLate current := by
  rw [isLate, found, Option.any_some]

theorem find?_of_isLate (late : table.isLate current task = true) :
    ∃ record, table.find? task = some record ∧ record.isLate current = true := by
  rw [isLate, Option.any_eq_true] at late
  exact late

end TaskTable

namespace Scan

variable {ω : Type} (scan : Scan ω) (current : Ticks) (task : TaskHandle)

inductive Visited (after : Scan ω) : Prop where
  | passed (early : scan.table.isLate current task = false) (table : after.table = scan.table)
      (cancelled : after.selection.cancelled = scan.selection.cancelled)
      (repaired : after.selection.repaired = scan.selection.repaired)
      (exhausted : after.selection.exhausted = scan.selection.exhausted)
  | givenUp (record : TaskRecord ω) (found : scan.table.find? task = some record)
      (late : record.isLate current = true) (first : scan.selection.cancelled = none)
      (table : after.table = (scan.table.update task (·.cancel .deadlineMissed)).dequeue task)
      (cancelled : after.selection.cancelled = some task)
      (repaired : after.selection.repaired = scan.selection.repaired)
      (exhausted : after.selection.exhausted = scan.selection.exhausted)
  | moved (record : TaskRecord ω) (found : scan.table.find? task = some record)
      (late : record.isLate current = true) (given : TaskHandle)
      (further : scan.selection.cancelled = some given)
      (table : after.table = scan.table.update task fun held =>
        { held with timing := (record.timing.realign current).1 })
      (cancelled : after.selection.cancelled = some given)
      (repaired : after.selection.repaired = scan.selection.repaired + 1)
      (exhausted : after.selection.exhausted =
        scan.selection.exhausted + if record.losesPhase current then 1 else 0)

theorem visit_visited : scan.Visited current task (visit current scan task) := by
  unfold visit
  split
  case h_1 absent =>
    exact .passed (by simp [TaskTable.isLate, absent]) rfl rfl rfl rfl
  case h_2 record found =>
    have early (apart : record.isLate current = false) :
        scan.table.isLate current task = false := by
      simpa [TaskTable.isLate, found] using apart
    by_cases queued : record.state = .queued
    · cases late : record.timing.isMissed current with
      | false =>
          have spared := early (by simp [TaskRecord.isLate, late])
          simp only [queued, ne_eq, not_true_eq_false, if_false, Bool.not_false, if_true, consider]
          split <;> exact .passed spared rfl rfl rfl rfl
      | true =>
          have missed : record.isLate current = true :=
            (record.isLate_iff current).mpr ⟨queued, late⟩
          simp only [queued, ne_eq, not_true_eq_false, if_false, Bool.not_true, Bool.false_eq_true]
          cases given : scan.selection.cancelled with
          | none =>
              simp only [Option.isNone_none, if_true]
              exact .givenUp record found missed given rfl rfl rfl rfl
          | some first =>
              simp only [Option.isNone_some, Bool.false_eq_true, if_false]
              exact .moved record found missed first given rfl given rfl rfl
    · have spared := early (by simp [TaskRecord.isLate, queued])
      simp only [ne_eq, queued, not_false_eq_true, if_true]
      exact .passed spared rfl rfl rfl rfl

/-- The task among `entries` that the scan will give up: the first late one, unless one was
given up before. -/
def gives? (entries : List TaskHandle) : Option TaskHandle :=
  match scan.selection.cancelled with
  | none => (entries.filter (scan.table.isLate current)).head?
  | some _ => none

def moves (entries : List TaskHandle) : List TaskHandle :=
  match scan.selection.cancelled with
  | none => (entries.filter (scan.table.isLate current)).tail
  | some _ => entries.filter (scan.table.isLate current)

structure Settled (entries : List TaskHandle) (after : Scan ω) : Prop where
  cancelled : after.selection.cancelled =
    (scan.gives? current entries).or scan.selection.cancelled
  repaired : after.selection.repaired =
    scan.selection.repaired + (scan.moves current entries).length
  exhausted : after.selection.exhausted =
    scan.selection.exhausted + (scan.moves current entries).countP (scan.table.losesPhase current)
  queue : after.table.queue =
    ((scan.gives? current entries).map scan.table.queue.erase).getD scan.table.queue
  find? : ∀ other, after.table.find? other =
    (scan.table.find? other).map fun record =>
      if scan.gives? current entries = some other then record.cancel .deadlineMissed
      else if other ∈ scan.moves current entries then record.move current
      else record

variable {scan current task}

theorem filter_isLate_visit {rest : List TaskHandle} (once : task ∉ rest) :
    rest.filter ((visit current scan task).table.isLate current) =
      rest.filter (scan.table.isLate current) := by
  apply List.filter_congr
  intro other member
  have apart : other ≠ task := fun same => once (same ▸ member)
  exact TaskTable.isLate_congr (find?_visit_of_ne scan current task other apart)

theorem countP_losesPhase_visit {entries : List TaskHandle} (once : task ∉ entries) :
    entries.countP ((visit current scan task).table.losesPhase current) =
      entries.countP (scan.table.losesPhase current) := by
  apply List.countP_congr
  intro other member
  have apart : other ≠ task := fun same => once (same ▸ member)
  rw [TaskTable.losesPhase_congr (find?_visit_of_ne scan current task other apart)]

theorem moves_subset {entries : List TaskHandle} : scan.moves current entries ⊆ entries := by
  unfold moves
  split
  · exact fun _ member => List.mem_of_mem_filter (List.mem_of_mem_tail member)
  · exact List.filter_subset_self _

theorem Settled.of_passed {rest : List TaskHandle} {after : Scan ω}
    (early : scan.table.isLate current task = false)
    (table : (visit current scan task).table = scan.table)
    (cancelled : (visit current scan task).selection.cancelled = scan.selection.cancelled)
    (repaired : (visit current scan task).selection.repaired = scan.selection.repaired)
    (exhausted : (visit current scan task).selection.exhausted = scan.selection.exhausted)
    (settled : (visit current scan task).Settled current rest after) :
    scan.Settled current (task :: rest) after := by
  have gives : (visit current scan task).gives? current rest =
      scan.gives? current (task :: rest) := by
    simp [gives?, cancelled, table, early]
  have moves : (visit current scan task).moves current rest =
      scan.moves current (task :: rest) := by
    simp [Scan.moves, cancelled, table, early]
  constructor
  case cancelled => rw [settled.cancelled, gives, cancelled]
  case repaired => rw [settled.repaired, moves, repaired]
  case exhausted => rw [settled.exhausted, moves, exhausted, table]
  case queue => rw [settled.queue, gives, table]
  case find? =>
    intro other
    rw [settled.find? other, gives, moves, table]

theorem Settled.of_givenUp {rest : List TaskHandle} {after : Scan ω} {record : TaskRecord ω}
    (once : task ∉ rest) (found : scan.table.find? task = some record)
    (late : record.isLate current = true) (first : scan.selection.cancelled = none)
    (table : (visit current scan task).table =
      (scan.table.update task (·.cancel .deadlineMissed)).dequeue task)
    (cancelled : (visit current scan task).selection.cancelled = some task)
    (repaired : (visit current scan task).selection.repaired = scan.selection.repaired)
    (exhausted : (visit current scan task).selection.exhausted = scan.selection.exhausted)
    (settled : (visit current scan task).Settled current rest after) :
    scan.Settled current (task :: rest) after := by
  have here : scan.table.isLate current task = true := by
    rw [TaskTable.isLate_of_find? found, late]
  have given : scan.gives? current (task :: rest) = some task := by simp [gives?, first, here]
  have none : (visit current scan task).gives? current rest = none := by simp [gives?, cancelled]
  have moves : (visit current scan task).moves current rest =
      scan.moves current (task :: rest) := by
    simp [Scan.moves, cancelled, first, here, filter_isLate_visit once]
  have absent : task ∉ scan.moves current (task :: rest) := by
    rw [← moves]
    exact fun member => once (moves_subset member)
  constructor
  case cancelled => rw [settled.cancelled, none, given, cancelled, Option.none_or, Option.some_or]
  case repaired => rw [settled.repaired, moves, repaired]
  case exhausted =>
    rw [settled.exhausted, moves, exhausted, countP_losesPhase_visit absent]
  case queue =>
    rw [settled.queue, none, given, table]
    rfl
  case find? =>
    intro other
    rw [settled.find? other, none, given, moves]
    by_cases same : other = task
    · subst same
      rw [table, TaskTable.find?_dequeue, TaskTable.find?_update, if_pos rfl, found]
      simp [absent]
    · rw [find?_visit_of_ne scan current task other same]
      simp [Ne.symm same]

theorem Settled.of_moved {rest : List TaskHandle} {after : Scan ω} {record : TaskRecord ω}
    {given : TaskHandle} (once : task ∉ rest) (found : scan.table.find? task = some record)
    (late : record.isLate current = true) (further : scan.selection.cancelled = some given)
    (table : (visit current scan task).table = scan.table.update task fun held =>
      { held with timing := (record.timing.realign current).1 })
    (cancelled : (visit current scan task).selection.cancelled = some given)
    (repaired : (visit current scan task).selection.repaired = scan.selection.repaired + 1)
    (exhausted : (visit current scan task).selection.exhausted =
      scan.selection.exhausted + if record.losesPhase current then 1 else 0)
    (settled : (visit current scan task).Settled current rest after) :
    scan.Settled current (task :: rest) after := by
  have here : scan.table.isLate current task = true := by
    rw [TaskTable.isLate_of_find? found, late]
  have loses : scan.table.losesPhase current task = record.losesPhase current := by
    rw [TaskTable.losesPhase, found, Option.any_some]
  -- A task was given up already, so this one is moved, and no later one is given up.
  have keeps (entries : List TaskHandle) : scan.gives? current entries = none := by
    simp [gives?, further]
  have kept : (visit current scan task).gives? current rest = none := by simp [gives?, cancelled]
  have moves : scan.moves current (task :: rest) =
      task :: (visit current scan task).moves current rest := by
    simp [Scan.moves, cancelled, further, here, filter_isLate_visit once]
  have absent : task ∉ (visit current scan task).moves current rest :=
    fun member => once (moves_subset member)
  constructor
  case cancelled => rw [settled.cancelled, kept, keeps, cancelled, further]
  case repaired => rw [settled.repaired, moves, repaired, List.length_cons]; omega
  case exhausted =>
    rw [settled.exhausted, moves, exhausted, countP_losesPhase_visit absent, List.countP_cons,
      loses]
    omega
  case queue =>
    rw [settled.queue, kept, keeps, table]
    rfl
  case find? =>
    intro other
    rw [settled.find? other, kept, keeps, moves]
    by_cases same : other = task
    · subst same
      rw [table, TaskTable.find?_update, if_pos rfl, found]
      simp [absent, TaskRecord.move]
    · rw [find?_visit_of_ne scan current task other same]
      simp [same]

variable (scan current)

/-- A scan of entries that come once each, by the late ones among them. -/
theorem foldl_visit_settled (entries : List TaskHandle) (once : entries.Nodup) :
    scan.Settled current entries (entries.foldl (visit current) scan) := by
  induction entries generalizing scan with
  | nil =>
      have gives : scan.gives? current [] = none := by
        unfold gives?
        split <;> rfl
      have moves : scan.moves current [] = [] := by
        unfold Scan.moves
        split <;> rfl
      constructor <;> simp [gives, moves]
  | cons entry rest ih =>
      obtain ⟨first, later⟩ := List.nodup_cons.mp once
      have settled := ih (visit current scan entry) later
      rw [List.foldl_cons]
      cases visit_visited scan current entry with
      | passed early table cancelled repaired exhausted =>
          exact .of_passed early table cancelled repaired exhausted settled
      | givenUp record found late unset table cancelled repaired exhausted =>
          exact .of_givenUp first found late unset table cancelled repaired exhausted settled
      | moved record found late given further table cancelled repaired exhausted =>
          exact .of_moved first found late further table cancelled repaired exhausted settled

end Scan

namespace TaskTable

variable {ω : Type} {table : TaskTable ω}

/-- What a selection does to the late tasks: the first in the queue is given up, the others are
moved to their next window, and it says how many those are and how many lost their phase. -/
structure Selects (table : TaskTable ω) (current : Ticks) (scan : Scan ω) : Prop where
  cancelled : scan.selection.cancelled = (table.lateTasks current).head?
  repaired : scan.selection.repaired = (table.lateTasks current).tail.length
  exhausted : scan.selection.exhausted =
    (table.lateTasks current).tail.countP (table.losesPhase current)
  queue : scan.table.queue =
    ((table.lateTasks current).head?.map table.queue.erase).getD table.queue
  find? : ∀ task, scan.table.find? task =
    (table.find? task).map fun record =>
      if (table.lateTasks current).head? = some task then record.cancel .deadlineMissed
      else if task ∈ (table.lateTasks current).tail then record.move current
      else record

theorem selects (once : table.queue.Nodup) (current : Ticks) :
    table.Selects current (table.select current) := by
  have settled := (Scan.start table).foldl_visit_settled current table.queue once
  constructor
  case cancelled => exact settled.cancelled.trans (Option.or_none)
  case repaired => exact settled.repaired.trans (Nat.zero_add _)
  case exhausted => exact settled.exhausted.trans (Nat.zero_add _)
  case queue => exact settled.queue
  case find? => exact settled.find?

/-- The queued tasks that are found cancelled for a missed slot afterwards. -/
def missedIn (table after : TaskTable ω) : List TaskHandle :=
  table.queue.filter fun task =>
    (after.find? task).any fun record => decide (record.state = .cancelled .deadlineMissed)

/-- The late tasks that are found queued all the same afterwards. -/
def movedIn (table after : TaskTable ω) (current : Ticks) : List TaskHandle :=
  (table.lateTasks current).filter fun task =>
    (after.find? task).any fun record => decide (record.state = .queued)

theorem Consistent.not_missed (consistent : table.Consistent) {task : TaskHandle}
    {record : TaskRecord ω} (member : task ∈ table.queue)
    (found : table.find? task = some record) : record.state ≠ .cancelled .deadlineMissed := by
  obtain ⟨held, here, admitted⟩ := (consistent.mem_queue task).mp member
  cases found.symm.trans here
  intro missed
  rw [missed] at admitted
  cases admitted

variable {current : Ticks} {scan : Scan ω}

theorem Consistent.lateTasks_nodup (consistent : table.Consistent) (current : Ticks) :
    (table.lateTasks current).Nodup := consistent.queue_nodup.filter _

theorem Selects.movedIn (selects : table.Selects current scan) (consistent : table.Consistent) :
    table.movedIn scan.table current = (table.lateTasks current).tail := by
  have once := consistent.lateTasks_nodup current
  have late (task : TaskHandle) (member : task ∈ table.lateTasks current) :
      ∃ record, table.find? task = some record ∧ record.isLate current = true :=
    find?_of_isLate (List.of_mem_filter member)
  unfold TaskTable.movedIn
  cases tasks : table.lateTasks current with
  | nil => rfl
  | cons first others =>
      rw [tasks] at once late
      obtain ⟨absent, _⟩ := List.nodup_cons.mp once
      obtain ⟨record, found, _⟩ := late first List.mem_cons_self
      have given : scan.table.find? first = some (record.cancel .deadlineMissed) := by
        simp [selects.find?, found, tasks]
      rw [List.filter_cons_of_neg (by simp [given, TaskRecord.cancel]), List.tail_cons,
        List.filter_eq_self]
      intro task member
      obtain ⟨held, here, missed⟩ := late task (List.mem_cons_of_mem _ member)
      have apart : first ≠ task := fun same => absent (same ▸ member)
      have moved : scan.table.find? task = some (held.move current) := by
        simp [selects.find?, here, tasks, apart, member]
      simpa [moved, TaskRecord.move] using ((held.isLate_iff current).mp missed).1

theorem Selects.missedIn (selects : table.Selects current scan) (consistent : table.Consistent) :
    table.missedIn scan.table = (table.lateTasks current).head?.toList := by
  have cancelled (task : TaskHandle) (member : task ∈ table.queue) :
      ((scan.table.find? task).any fun record =>
        decide (record.state = .cancelled .deadlineMissed)) =
          decide ((table.lateTasks current).head? = some task) := by
    obtain ⟨record, found, _⟩ := (consistent.mem_queue task).mp member
    have waiting := consistent.not_missed member found
    rw [selects.find?, found]
    by_cases first : (table.lateTasks current).head? = some task
    · simp [first, TaskRecord.cancel]
    · by_cases moves : task ∈ (table.lateTasks current).tail
      · simp [first, moves, TaskRecord.move, waiting]
      · simp [first, moves, waiting]
  unfold TaskTable.missedIn
  rw [List.filter_congr cancelled]
  cases given : (table.lateTasks current).head? with
  | none => simp
  | some first =>
      have member : first ∈ table.queue :=
        List.mem_of_mem_filter (List.mem_of_mem_head? given)
      have only := List.filter_eq (l := table.queue) first
      rw [List.count_eq_one_of_mem consistent.queue_nodup member] at only
      simp only [Option.some.injEq, Option.toList_some, eq_comm (a := first)]
      exact only

end TaskTable

end EdfKernel
