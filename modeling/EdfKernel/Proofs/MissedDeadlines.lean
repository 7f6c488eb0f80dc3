import EdfKernel.Proofs.Counters
import Mathlib

/-!
Every task counts the slots that it missed. What the live tasks of a scheduler have counted,
and what those had counted that were freed, is what the selector gave up: no other section
touches these counts, and a new task starts from nothing.
-/

namespace EdfKernel

namespace TaskTable

variable {ω : Type}

/-- The slots that a task missed; one that does not live has missed none. -/
def missesOf (table : TaskTable ω) (task : TaskHandle) : Nat :=
  ((table.find? task).map fun record => record.missedDeadlines.toNat).getD 0

def misses (table : TaskTable ω) : Nat := (table.liveTasks.map table.missesOf).sum

def endedIn (table after : TaskTable ω) : List TaskHandle :=
  table.liveTasks.filter fun task => (after.find? task).isNone

def BelowLimit (table : TaskTable ω) : Prop :=
  ∀ task record, table.find? task = some record → record.missedDeadlines.toNat < 4294967295

theorem belowLimit_of_slots {table : TaskTable ω}
    (below : table.slots.all (fun slot =>
      slot.record.all fun record => record.missedDeadlines.toNat < 4294967295) = true) :
    table.BelowLimit := by
  intro task record found
  have held := List.mem_of_getElem? ((find?_eq_some_iff table task record).mp found)
  simpa using List.all_eq_true.mp below _ held

/-- The misses of a task are kept, by the task or with the freed ones, but for one that is new. -/
def BalancesAt (table after : TaskTable ω) (task : TaskHandle) : Prop :=
  after.missesOf task + (if task ∈ table.endedIn after then table.missesOf task else 0) =
    table.missesOf task + if task ∈ table.missedIn after then 1 else 0

variable {table after : TaskTable ω} {task : TaskHandle}

theorem missesOf_of_find? {record : TaskRecord ω} (found : table.find? task = some record) :
    table.missesOf task = record.missedDeadlines.toNat := by
  rw [missesOf, found]
  rfl

theorem missesOf_of_none (absent : table.find? task = none) : table.missesOf task = 0 := by
  rw [missesOf, absent]
  rfl

theorem mem_endedIn :
    task ∈ table.endedIn after ↔
      (∃ record, table.find? task = some record) ∧ after.find? task = none := by
  rw [endedIn, List.mem_filter, mem_liveTasks, Option.isNone_iff_eq_none]

theorem Consistent.live_of_mem_missedIn (consistent : table.Consistent)
    (missed : task ∈ table.missedIn after) : ∃ record, table.find? task = some record := by
  obtain ⟨record, found, _⟩ := (consistent.mem_queue task).mp (List.mem_of_mem_filter missed)
  exact ⟨record, found⟩

theorem BalancesAt.of_kept (unmissed : task ∉ table.missedIn after)
    (kept : ∀ record, after.find? task = some record →
      record.missedDeadlines.toNat = table.missesOf task) :
    table.BalancesAt after task := by
  rw [BalancesAt, if_neg unmissed]
  cases later : after.find? task with
  | none =>
      rw [missesOf_of_none later]
      cases found : table.find? task with
      | none => simp [missesOf_of_none found]
      | some record =>
          rw [if_pos (mem_endedIn.mpr ⟨⟨record, found⟩, later⟩)]
          omega
  | some record =>
      have lives : task ∉ table.endedIn after := by
        rw [mem_endedIn, later]
        exact fun ended => nomatch ended.2
      rw [missesOf_of_find? later, kept record later, if_neg lives]

theorem Handled.missed {admitted : Bool} {before : Option (TaskRecord ω)} {record : TaskRecord ω}
    (handled : Handled admitted before (some record)) :
    record.missedDeadlines.toNat =
      (before.map fun record => record.missedDeadlines.toNat).getD 0 := by
  cases handled with
  | same | configured | queued | completed => rfl
  | made => rfl
  | cancelled earlier idle => simp [TaskRecord.cancel]

theorem Change.balancesAt {admits : Option TaskHandle} {brings : Option ω}
    (change : table.Change admits brings after) (consistent : table.Consistent)
    (task : TaskHandle) : table.BalancesAt after task := by
  apply BalancesAt.of_kept
  · rw [change.missedIn consistent]
    exact List.not_mem_nil
  · intro record found
    have handled := change.handled consistent task
    rw [found] at handled
    exact handled.missed

theorem Consistent.balancesAt_finish (consistent : table.Consistent) (ended : TaskHandle)
    (work : Option ω) (task : TaskHandle) :
    table.BalancesAt (table.finish ended work).2 task := by
  apply BalancesAt.of_kept
  · rw [consistent.missedIn_finish]
    exact List.not_mem_nil
  · intro record found
    rw [find?_finish] at found
    split at found
    · obtain ⟨held, before, rfl⟩ := Option.map_eq_some_iff.mp found
      exact (missesOf_of_find? before).symm
    · exact (missesOf_of_find? found).symm

theorem cancel_missed {record : TaskRecord ω}
    (below : record.missedDeadlines.toNat < 4294967295) :
    (record.cancel .deadlineMissed).missedDeadlines.toNat = record.missedDeadlines.toNat + 1 := by
  rw [record.toNat_missedDeadlines_cancel]
  omega

theorem Selects.balancesAt {current : Ticks} {scan : Scan ω} (selects : table.Selects current scan)
    (consistent : table.Consistent) (below : table.BelowLimit) (task : TaskHandle) :
    table.BalancesAt scan.table task := by
  by_cases given : (table.lateTasks current).head? = some task
  · have missed : task ∈ table.missedIn scan.table := by
      rw [selects.missedIn consistent, given]
      exact List.mem_singleton_self task
    obtain ⟨record, found⟩ := consistent.live_of_mem_missedIn missed
    have later : scan.table.find? task = some (record.cancel .deadlineMissed) := by
      simp [selects.find?, found, given]
    have lives : task ∉ table.endedIn scan.table := by
      rw [mem_endedIn, later]
      exact fun ended => nomatch ended.2
    rw [BalancesAt, if_pos missed, if_neg lives, missesOf_of_find? later, missesOf_of_find? found,
      cancel_missed (below task record found)]
  · apply BalancesAt.of_kept
    · rw [selects.missedIn consistent, Option.mem_toList]
      exact given
    · intro record later
      rw [selects.find?] at later
      obtain ⟨held, found, rfl⟩ := Option.map_eq_some_iff.mp later
      rw [missesOf_of_find? found, if_neg given]
      split <;> rfl

theorem missesOf_claim {current : Ticks} {taken : TaskHandle} {work : Option ω}
    {claimed : TaskTable ω} (claim : table.claim current taken = some (work, claimed))
    (task : TaskHandle) : claimed.missesOf task = table.missesOf task := by
  rw [missesOf, missesOf, find?_claim claim]
  split
  · cases table.find? task <;> rfl
  · rfl

theorem live_claim {current : Ticks} {taken : TaskHandle} {work : Option ω}
    {claimed : TaskTable ω} (claim : table.claim current taken = some (work, claimed))
    (task : TaskHandle) :
    (∃ record, claimed.find? task = some record) ↔ ∃ record, table.find? task = some record := by
  rw [find?_claim claim]
  split
  · cases table.find? task <;> simp
  · rfl

theorem BalancesAt.of_claim {current : Ticks} {taken : TaskHandle} {work : Option ω}
    {claimed : TaskTable ω} (claim : table.claim current taken = some (work, claimed))
    (balances : claimed.BalancesAt after task) : table.BalancesAt after task := by
  have ended : task ∈ claimed.endedIn after ↔ task ∈ table.endedIn after := by
    rw [mem_endedIn, mem_endedIn, live_claim claim]
  rw [BalancesAt, missesOf_claim claim, missedIn_claim claim] at balances
  simp only [ended] at balances
  exact balances

end TaskTable

/-- No section loses a miss or makes one up. -/
theorem Worked.balancesAt {number : Nat} {clock : Ticks} {table after : TaskTable Work}
    {part : Section} {next : List Activity} (worked : Worked number clock table part after next)
    (consistent : table.Consistent) (below : table.BelowLimit) (task : TaskHandle) :
    table.BalancesAt after task := by
  have nothing : table.BalancesAt table task :=
    TaskTable.Change.nothing.balancesAt consistent task
  cases worked with
  | call part admits brings after called change => exact change.balancesAt consistent task
  | idle | due =>
      exact (TaskTable.selects consistent.queue_nodup clock).balancesAt consistent below task
  | abandoned | refused | looked => exact nothing
  | claimed wakes current other work claimed taken =>
      apply TaskTable.BalancesAt.of_claim taken
      have still := consistent.claim taken
      refine (TaskTable.selects still.queue_nodup current).balancesAt still ?_ task
      intro one record found
      rw [← TaskTable.missesOf_of_find? found, TaskTable.missesOf_claim taken]
      obtain ⟨held, before⟩ := (TaskTable.live_claim taken one).mp ⟨record, found⟩
      rw [TaskTable.missesOf_of_find? before]
      exact below one held before
  | finished run work | asked run work => exact consistent.balancesAt_finish run.task work task
  | readmitted run startUs deadlineUs after change => exact change.balancesAt consistent task

namespace TaskTable

variable {ω : Type} {table after : TaskTable ω}

theorem sum_of_subset (tasks : List TaskHandle) (once : tasks.Nodup) (all : Finset TaskHandle)
    (within : ∀ task ∈ tasks, task ∈ all) (f : TaskHandle → Nat) :
    (tasks.map f).sum = ∑ task ∈ all, if task ∈ tasks then f task else 0 := by
  have inside : all.filter (fun task => task ∈ tasks) = tasks.toFinset := by
    ext task
    simp only [Finset.mem_filter, List.mem_toFinset, and_iff_right_iff_imp]
    exact within task
  rw [← Finset.sum_filter, inside, List.sum_toFinset f once]

/-- What the live tasks count afterwards, and what the freed ones had counted, is what the live
ones counted before and one for each that was given up. -/
theorem Consistent.misses_balance (consistent : table.Consistent)
    (balances : ∀ task, table.BalancesAt after task) :
    after.misses + ((table.endedIn after).map table.missesOf).sum =
      table.misses + (table.missedIn after).length := by
  -- All four sums range over these tasks, those that do not count contributing nothing.
  let all : Finset TaskHandle := (table.liveTasks ++ after.liveTasks).toFinset
  have alive (task : TaskHandle) (record : TaskRecord ω) (found : table.find? task = some record) :
      task ∈ all := by
    rw [List.mem_toFinset, List.mem_append]
    exact .inl ((mem_liveTasks table task).mpr ⟨record, found⟩)
  have total (counted : TaskTable ω) (within : ∀ task ∈ counted.liveTasks, task ∈ all) :
      counted.misses = ∑ task ∈ all, counted.missesOf task := by
    rw [misses, sum_of_subset _ counted.liveTasks_nodup all within]
    apply Finset.sum_congr rfl
    intro task _
    split
    case isTrue => rfl
    case isFalse dead =>
      rw [missesOf_of_none]
      rw [mem_liveTasks] at dead
      cases found : counted.find? task with
      | none => rfl
      | some record => exact absurd ⟨record, found⟩ dead
  have before := total table fun task live => by
    rw [List.mem_toFinset, List.mem_append]
    exact .inl live
  have later := total after fun task live => by
    rw [List.mem_toFinset, List.mem_append]
    exact .inr live
  have ended := sum_of_subset (table.endedIn after) (table.liveTasks_nodup.filter _) all
    (fun task member => by
      obtain ⟨⟨record, found⟩, _⟩ := mem_endedIn.mp member
      exact alive task record found) table.missesOf
  have missed := sum_of_subset (table.missedIn after) (consistent.queue_nodup.filter _) all
    (fun task member => by
      obtain ⟨record, found⟩ := consistent.live_of_mem_missedIn member
      exact alive task record found) fun _ => 1
  have counted : (table.missedIn after).length = ((table.missedIn after).map fun _ => 1).sum := by
    simp
  rw [before, later, ended, counted, missed, ← Finset.sum_add_distrib, ← Finset.sum_add_distrib]
  exact Finset.sum_congr rfl fun task _ => balances task

end TaskTable

end EdfKernel
