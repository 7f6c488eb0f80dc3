import EdfKernel.Proofs.Candidates
import EdfKernel.Proofs.LateTasks

/-!
The selector as a whole. A scan can read the queue by place: the entry at a place is judged, and
the place goes on to the next one, unless the entry left, for then the next one has moved up.
Wherever no task is queued twice this is the scan in admission order. What it makes of a table is
told by two lists of the table it started from, those that are late and those that are not.
-/

namespace EdfKernel

namespace Scan

variable {ω : Type}

theorem consider_table (scan : Scan ω) (current : Ticks) (task : TaskHandle) (timing : Timing) :
    (scan.consider current task timing).table = scan.table := by
  simp only [consider]
  split <;> rfl

/-- The late task at a place in the queue is given up, and the entries behind it move up. -/
def giveUpAt (scan : Scan ω) (current : Ticks) (place : Nat) (task : TaskHandle)
    (timing : Timing) : Scan ω :=
  { scan.giveUp current task timing with
    table :=
      { scan.table.update task (·.cancel .deadlineMissed) with
        queue := scan.table.queue.eraseIdx place } }

/-- The scan from a place in the queue on, while there is an entry at it. -/
def walk (current : Ticks) (scan : Scan ω) (place : Nat) : Scan ω :=
  if inside : place < scan.table.queue.length then
    let task := scan.table.queue[place]
    match scan.table.find? task with
    | none => walk current scan (place + 1)
    | some record =>
        if record.state ≠ .queued then walk current scan (place + 1)
        else if !record.timing.isMissed current then
          walk current (scan.consider current task record.timing) (place + 1)
        else if scan.selection.cancelled.isNone then
          walk current (scan.giveUpAt current place task record.timing) place
        else walk current (scan.repair current task record.timing) (place + 1)
  else scan
-- Each round either goes on by one place or has one entry less to come to.
termination_by scan.table.queue.length - place
decreasing_by
  · omega
  · omega
  · rw [consider_table]
    omega
  · simp only [giveUpAt, List.length_eraseIdx_of_lt inside]
    omega
  · simp only [repair, TaskTable.queue_update]
    omega

variable {current : Ticks} {scan : Scan ω} {front rest : List TaskHandle} {task : TaskHandle}

theorem walk_of_end (finished : scan.table.queue = front) :
    walk current scan front.length = scan := by
  rw [walk, finished, dif_neg (Nat.lt_irrefl _)]

theorem giveUpAt_eq (timing : Timing) (queue : scan.table.queue = front ++ task :: rest)
    (apart : task ∉ front) :
    scan.giveUpAt current front.length task timing = scan.giveUp current task timing := by
  have removed : scan.table.queue.eraseIdx front.length = scan.table.queue.erase task := by
    rw [queue, List.eraseIdx_append_of_length_le (Nat.le_refl _), Nat.sub_self,
      List.eraseIdx_cons_zero, List.erase_append_right _ apart, List.erase_cons_head]
  simp only [giveUpAt, removed]
  rfl

theorem walk_visit (queue : scan.table.queue = front ++ task :: rest) (apart : task ∉ front) :
    ((visit current scan task).table.queue = front ++ task :: rest ∧
      walk current scan front.length =
        walk current (visit current scan task) (front.length + 1)) ∨
    ((visit current scan task).table.queue = front ++ rest ∧
      walk current scan front.length = walk current (visit current scan task) front.length) := by
  have inside : front.length < scan.table.queue.length := by
    rw [queue, List.length_append, List.length_cons]
    omega
  have entry : scan.table.queue[front.length] = task := by
    simp only [queue, List.getElem_append_right (Nat.le_refl _), Nat.sub_self,
      List.getElem_cons_zero]
  rw [walk, dif_pos inside, entry]
  dsimp only
  unfold visit
  cases found : scan.table.find? task with
  | none => exact .inl ⟨queue, rfl⟩
  | some record =>
      by_cases queued : record.state = .queued
      · simp only [queued, ne_eq, not_true_eq_false, if_false]
        cases late : record.timing.isMissed current with
        | false =>
            simp only [Bool.not_false, if_true, consider_table, queue, and_self, true_or]
        | true =>
            simp only [Bool.not_true, Bool.false_eq_true, if_false]
            cases scan.selection.cancelled with
            | none =>
                simp only [Option.isNone_none, if_true, giveUpAt_eq record.timing queue apart]
                refine .inr ⟨?_, trivial⟩
                change scan.table.queue.erase task = front ++ rest
                rw [queue, List.erase_append_right _ apart, List.erase_cons_head]
            | some given => exact .inl ⟨queue, rfl⟩
      · simp only [queued, ne_eq, not_false_eq_true, if_true]
        exact .inl ⟨queue, trivial⟩

/-- From behind the entries in front, the walk is the scan of those to come. -/
theorem walk_eq_foldl (entries : List TaskHandle) (queue : scan.table.queue = front ++ entries)
    (once : (front ++ entries).Nodup) :
    walk current scan front.length = entries.foldl (visit current) scan := by
  -- By induction on the entries to come; what is in front has been judged and kept.
  induction entries generalizing scan front with
  | nil => exact walk_of_end (queue.trans (List.append_nil front))
  | cons task rest ih =>
      have apart : task ∉ front := fun ahead =>
        (List.nodup_append.mp once).2.2 task ahead task List.mem_cons_self rfl
      rw [List.foldl_cons]
      rcases walk_visit queue apart with ⟨kept, round⟩ | ⟨left, round⟩
      · have behind : front ++ task :: rest = (front ++ [task]) ++ rest := by simp
        rw [behind] at kept once
        rw [round, ← ih kept once, List.length_append, List.length_singleton]
      · have fewer := once.sublist ((List.sublist_cons_self task rest).append_left front)
        rw [round, ← ih left fewer]

end Scan

namespace TaskTable

variable {ω : Type} {table : TaskTable ω} {current : Ticks}

/-- What a selection makes of a table. The late tasks are the queued ones whose effective
deadline is over, in admission order. -/
structure SelectsAsSpecified (table : TaskTable ω) (current : Ticks) (scan : Scan ω) : Prop where
  few : (table.lateTasks current).length ≤ 4294967295
  cancelled : scan.selection.cancelled = (table.lateTasks current).head?
  repaired : scan.selection.repaired = (table.lateTasks current).length - 1
  exhausted : scan.selection.exhausted =
    (table.lateTasks current).tail.countP (table.losesPhase current)
  queue : scan.table.queue =
    match (table.lateTasks current).head? with
    | none => table.queue
    | some first => table.queue.erase first
  /-- The first late task is given up, and its misses are counted as far as their word goes. -/
  givenUp : ∀ first, (table.lateTasks current).head? = some first →
    ∃ record after, table.find? first = some record ∧ scan.table.find? first = some after ∧
      after = { record with
        state := .cancelled .deadlineMissed, missedDeadlines := after.missedDeadlines } ∧
      after.missedDeadlines.toNat = min (record.missedDeadlines.toNat + 1) 4294967295
  moved : ∀ task ∈ (table.lateTasks current).tail,
    ∃ record, table.find? task = some record ∧ record.state = .queued ∧
      scan.table.find? task = some { record with timing := (record.timing.realign current).1 }
  others : ∀ task, task ∉ table.lateTasks current → scan.table.find? task = table.find? task
  /-- What is next could start in time, and comes before all others that could. -/
  next : ∀ task, scan.selection.next = some task →
    ∃ record, table.find? task = some record ∧ record.state = .queued ∧
      record.timing.isMissed current = false ∧
      ∀ other held, table.find? other = some held → held.state = .queued →
        held.timing.isMissed current = false → other ≠ task → table.Precedes task other
  idle : scan.selection.next = none ↔ table.AllUnbounded current

theorem QueueAgrees.queue_le_slots (agrees : table.QueueAgrees) :
    table.queue.length ≤ table.slots.length := by
  have live : table.queue.Subperm table.liveTasks := by
    apply agrees.once.subperm
    intro task member
    obtain ⟨record, found, _⟩ := (agrees.mem_iff task).mp member
    exact (mem_liveTasks table task).mpr ⟨record, found⟩
  calc table.queue.length
      ≤ table.liveTasks.length := live.length_le
    _ ≤ (List.range table.slots.length).length := List.length_filterMap_le _ _
    _ = table.slots.length := List.length_range

theorem QueueAgrees.head?_ne (agrees : table.QueueAgrees) {task : TaskHandle}
    (moved : task ∈ (table.lateTasks current).tail) :
    (table.lateTasks current).head? ≠ some task := by
  have once : (table.lateTasks current).Nodup := agrees.once.filter _
  cases tasks : table.lateTasks current with
  | nil => simp
  | cons first others =>
      rw [tasks] at once moved
      rw [List.head?_cons]
      rintro same
      cases same
      exact (List.nodup_cons.mp once).1 moved

theorem QueueAgrees.next_specified (agrees : table.QueueAgrees) {task : TaskHandle}
    (next : (table.select current).selection.next = some task) :
    ∃ record, table.find? task = some record ∧ record.state = .queued ∧
      record.timing.isMissed current = false ∧
      ∀ other held, table.find? other = some held → held.state = .queued →
        held.timing.isMissed current = false → other ≠ task → table.Precedes task other := by
  rcases select_choice agrees.once current with ⟨idle, _⟩ | ⟨chosen, record, chooses, _, there, _⟩
  · cases next.symm.trans idle
  · cases next.symm.trans there
    refine ⟨record, chooses.found, chooses.queued, chooses.early, ?_⟩
    intro other held found queued early apart
    have waits := agrees.mem_timelyTasks found queued early
    exact chooses.precedes List.filter_sublist waits apart found queued

/-- A selection, read by place as it is carried out, ends, and makes of every table whose queue
agrees with its tasks what is said of it. -/
theorem select_as_specified (table : TaskTable ω) (agrees : table.QueueAgrees)
    (bound : table.slots.length ≤ 4294967295) (current : Ticks) :
    Scan.walk current (Scan.start table) 0 = table.select current ∧
      table.SelectsAsSpecified current (Scan.walk current (Scan.start table) 0) := by
  have walks : Scan.walk current (Scan.start table) 0 = table.select current :=
    @Scan.walk_eq_foldl ω current (Scan.start table) [] table.queue rfl agrees.once
  refine ⟨walks, ?_⟩
  rw [walks]
  have selects := selects agrees.once current
  constructor
  case few =>
    calc (table.lateTasks current).length
        ≤ table.queue.length := List.length_filter_le _ _
      _ ≤ table.slots.length := agrees.queue_le_slots
      _ ≤ 4294967295 := bound
  case cancelled => exact selects.cancelled
  case repaired => rw [selects.repaired, List.length_tail]
  case exhausted => exact selects.exhausted
  case queue =>
    rw [selects.queue]
    cases (table.lateTasks current).head? <;> rfl
  case givenUp =>
    intro first given
    have late : table.isLate current first = true :=
      List.of_mem_filter (List.mem_of_mem_head? given)
    obtain ⟨record, found, _⟩ := find?_of_isLate late
    refine ⟨record, record.cancel .deadlineMissed, found, ?_, rfl,
      record.toNat_missedDeadlines_cancel⟩
    rw [selects.find?, found, Option.map_some, if_pos given]
  case moved =>
    intro task moved
    have late : table.isLate current task = true :=
      List.of_mem_filter (List.mem_of_mem_tail moved)
    obtain ⟨record, found, missed⟩ := find?_of_isLate late
    refine ⟨record, found, ((record.isLate_iff current).mp missed).1, ?_⟩
    rw [selects.find?, found, Option.map_some, if_neg (agrees.head?_ne moved), if_pos moved]
    rfl
  case others =>
    intro task apart
    have kept : (table.lateTasks current).head? ≠ some task :=
      fun first => apart (List.mem_of_mem_head? first)
    have still : task ∉ (table.lateTasks current).tail :=
      fun moved => apart (List.mem_of_mem_tail moved)
    rw [selects.find?]
    simp only [kept, still, if_false, Option.map_id']
  case next => exact fun task next => agrees.next_specified next
  case idle => exact select_idle_iff agrees current

/-- At instant 30 the first task of the queue is late and the fourth one too, the second has the
same deadline as the last, and the third is running. -/
def mixed : TaskTable Unit where
  slots :=
    [⟨0, some ⟨.queued, ⟨0, 10, 0⟩, 0, 0, 4294967295, some ()⟩⟩,
      ⟨0, some ⟨.queued, ⟨0, 50, 10⟩, 0, 0, 0, some ()⟩⟩,
      ⟨2, some ⟨.running, ⟨0, 20, 0⟩, 0, 0, 0, none⟩⟩,
      ⟨0, some ⟨.queued, ⟨0, 20, 0⟩, 0, 0, 0, some ()⟩⟩,
      ⟨1, some ⟨.queued, ⟨0, 40, 0⟩, 0, 0, 0, some ()⟩⟩]
  free := []
  queue := [⟨0, 0⟩, ⟨1, 0⟩, ⟨2, 2⟩, ⟨3, 0⟩, ⟨4, 1⟩]
  capacity := 8

theorem mixed_agrees : mixed.QueueAgrees := by
  constructor
  case once => decide
  case mem_iff =>
    rintro ⟨index, generation⟩
    constructor
    · intro member
      simp only [mixed, List.mem_cons, List.not_mem_nil, or_false] at member
      rcases member with same | same | same | same | same <;> cases same <;>
        exact ⟨_, rfl, rfl⟩
    · rintro ⟨record, found, _⟩
      rw [find?_eq_some_iff] at found
      match index with
      | 0 | 1 | 2 | 3 | 4 =>
          cases Option.some.inj found
          decide
      | _ + 5 => cases found

theorem mixed_selected :
    mixed.QueueAgrees ∧ mixed.slots.length ≤ 4294967295 ∧
      mixed.lateTasks 30 = [⟨0, 0⟩, ⟨3, 0⟩] ∧
      (mixed.select 30).selection = ⟨some ⟨1, 0⟩, some ⟨0, 0⟩, 1, 0⟩ ∧
      mixed.SelectsAsSpecified 30 (Scan.walk 30 (Scan.start mixed) 0) :=
  ⟨mixed_agrees, by decide, by decide, by decide,
    (select_as_specified mixed mixed_agrees (by decide) 30).2⟩

end TaskTable

end EdfKernel
