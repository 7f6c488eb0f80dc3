import EdfKernel.Proofs.AdmissionOrder

/-!
The states that a live task goes through. A section changes the state of a task only if it is
about it: a caller admits, completes, cancels or frees it, a scan gives it up, and a pass takes
it and puts its work back. A running task is left to its pass by all but a completion.
-/

namespace EdfKernel

namespace TaskTable

variable {ω : Type} {table : TaskTable ω} {task other : TaskHandle} {record : TaskRecord ω}

def state? (table : TaskTable ω) (task : TaskHandle) : Option TaskState :=
  (table.find? task).map fun record => record.state

theorem state?_of_find? (found : table.find? task = some record) :
    table.state? task = some record.state := by
  rw [state?, found, Option.map_some]

theorem state?_congr {after : TaskTable ω} (same : after.find? task = table.find? task) :
    after.state? task = table.state? task :=
  congrArg (Option.map fun record : TaskRecord ω => record.state) same

theorem state?_update (f : TaskRecord ω → TaskRecord ω) (found : table.find? task = some record) :
    (table.update other f).state? task =
      some (if task = other then (f record).state else record.state) := by
  rw [state?, find?_update, found]
  split <;> rfl

theorem state?_select (consistent : table.Consistent) (current : Ticks)
    (found : table.find? task = some record) :
    (table.select current).table.state? task = some record.state ∨
      record.state = .queued ∧
        (table.select current).table.state? task = some (.cancelled .deadlineMissed) := by
  obtain ⟨after, here, scanned⟩ := find?_select consistent current task record found
  rw [state?_of_find? here]
  cases scanned with
  | same | moved => exact .inl rfl
  | missed queued late => exact .inr ⟨queued, rfl⟩

theorem state?_finish (work : Option ω) (found : table.find? task = some record) :
    (table.finish other work).2.state? task =
      some (if task = other ∧ record.state = .running then .completed else record.state) := by
  rw [state?, find?_finish, found]
  by_cases same : task = other
  · simp [same]
  · simp [same]

theorem state?_claim {after : TaskTable ω} {current : Ticks} {work : Option ω}
    (taken : table.claim current other = some (work, after))
    (found : table.find? task = some record) :
    after.state? task = some (if task = other then .running else record.state) := by
  rw [state?, find?_claim taken, found]
  split <;> rfl

theorem state?_insert {after : TaskTable ω} {config : SchedulerConfig} {now : Ticks}
    {startUs deadlineUs : UInt64} {window : Window}
    (done : table.insert config now other startUs deadlineUs = .ok (window, after))
    (found : table.find? task = some record) :
    after.state? task = some (if task = other then .queued else record.state) := by
  obtain ⟨_, _, _, _, rfl⟩ := insert_cases done
  rw [state?, find?_enqueue, find?_update, found]
  split <;> rfl

theorem insert_accepts_iff {config : SchedulerConfig} {now : Ticks} {startUs deadlineUs : UInt64}
    (found : table.find? task = some record) (idle : record.state ≠ .running) :
    (∃ window after, table.insert config now task startUs deadlineUs = .ok (window, after)) ↔
      startAfter config now record.timing.start startUs ≠ Ticks.last ∧
        0 < config.toTicks deadlineUs := by
  have live := (idle?_eq_ok_iff table task record).mpr ⟨found, idle⟩
  have edge : startAfter config now record.timing.start startUs = Ticks.last ↔
      (startAfter config now record.timing.start startUs).toNat = 18446744073709551615 := by
    rw [← Ticks.toNat_last, UInt64.toNat_inj]
  have top := Ticks.le_last (startAfter config now record.timing.start startUs)
  simp only [insert, live]
  rw [ne_eq, edge, UInt64.lt_iff_toNat_lt, UInt64.toNat_zero]
  split
  case isTrue empty =>
    rw [UInt64.le_iff_toNat_le, Ticks.toNat_satAdd] at empty
    constructor
    · rintro ⟨window, after, accepted⟩
      cases accepted
    · intro open'
      omega
  case isFalse open' =>
    rw [UInt64.le_iff_toNat_le, Ticks.toNat_satAdd] at open'
    exact ⟨fun _ => by omega, fun _ => ⟨_, _, rfl⟩⟩

end TaskTable

namespace Section

/-- How a section may leave a task that lives when it begins; no state is the end of it. -/
inductive Treats (part : Section) (task : TaskHandle) (before : TaskState) :
    Option TaskState → Prop where
  | kept : Treats part task before (some before)
  | admitted (admits : part.admits? = some task) (idle : before ≠ .running) :
      Treats part task before (some .queued)
  | completed (completes : part = .complete task) : Treats part task before (some .completed)
  | cancelled (cancels : part = .cancel task) (idle : before ≠ .running) :
      Treats part task before (some (.cancelled .caller))
  | retired (retires : part = .retire task) (idle : before ≠ .running) :
      Treats part task before none
  | missed (scans : part.scans = true) (queued : before = .queued) :
      Treats part task before (some (.cancelled .deadlineMissed))
  | taken (takes : part.takes task = true) (queued : before = .queued) :
      Treats part task before (some .running)
  | finished (run : Dispatch) (work : Option Work) (status : WorkStatus)
      (finishes : part = .finish run work status) (own : run.task = task)
      (running : before = .running) : Treats part task before (some .completed)

variable {part : Section} {scheduler : Scheduler} {clock : Ticks} {task : TaskHandle}
  {record : TaskRecord Work} {after : TaskTable Work}

namespace Treats

theorem of_same (found : scheduler.table.find? task = some record)
    (same : after.find? task = scheduler.table.find? task) :
    part.Treats task record.state (after.state? task) := by
  rw [TaskTable.state?_congr same, TaskTable.state?_of_find? found]
  exact .kept

theorem of_named {other : TaskHandle} {state : TaskState}
    (found : scheduler.table.find? task = some record)
    (named : after.state? task = some (if task = other then state else record.state))
    (own : task = other → scheduler.table.find? other = some record →
      part.Treats task record.state (some state)) :
    part.Treats task record.state (after.state? task) := by
  rw [named]
  by_cases same : task = other
  · rw [if_pos same]
    exact own same (same ▸ found)
  · rw [if_neg same]
    exact .kept

theorem of_insert {other : TaskHandle} {startUs deadlineUs : UInt64} {window : Window}
    (found : scheduler.table.find? task = some record) (admits : part.admits? = some other)
    (done : scheduler.table.insert scheduler.config clock other startUs deadlineUs =
      .ok (window, after)) : part.Treats task record.state (after.state? task) := by
  refine of_named found (TaskTable.state?_insert done found) fun same here => ?_
  obtain ⟨held, there, idle, _⟩ := TaskTable.insert_cases done
  cases here.symm.trans there
  exact .admitted (same ▸ admits) idle

theorem of_claim {wakes : Bool} {current : Ticks} {other : TaskHandle} {work : Option Work}
    (consistent : scheduler.table.Consistent) (found : scheduler.table.find? task = some record)
    (taken : scheduler.table.claim current other = some (work, after)) :
    (dispatch wakes current other).Treats task record.state
      ((after.select current).table.state? task) := by
  have state := TaskTable.state?_claim taken found
  obtain ⟨held, here, same⟩ := Option.map_eq_some_iff.mp state
  rcases TaskTable.state?_select (consistent.claim taken) current here with
    scanned | ⟨queued, missed⟩
  · refine of_named found (scanned.trans (congrArg some same)) fun own there => ?_
    obtain ⟨earlier, before, queued, _⟩ := TaskTable.claim_cases taken
    cases there.symm.trans before
    exact .taken (decide_eq_true own.symm) queued
  · rw [missed]
    by_cases own : task = other
    · rw [if_pos own, queued] at same
      cases same
    · rw [if_neg own, queued] at same
      exact .missed rfl same.symm

end Treats

theorem Makes.treats (makes : part.Makes scheduler clock after)
    (consistent : scheduler.table.Consistent) (found : scheduler.table.find? task = some record) :
    part.Treats task record.state (after.state? task) := by
  cases makes with
  | kept => exact .of_same found rfl
  | created other work settings after done =>
      apply Treats.of_same found
      rw [TaskTable.find?_alloc consistent done, if_neg]
      rintro rfl
      cases (TaskTable.find?_of_alloc consistent done).symm.trans found
  | configured other settings after own done =>
      obtain ⟨held, here, idle, rfl⟩ := TaskTable.idle?_map_eq_ok done
      rw [TaskTable.state?_update _ found]
      split <;> exact .kept
  | retired other after own done =>
      subst own
      obtain ⟨held, here, idle, rfl⟩ := TaskTable.idle?_map_eq_ok done
      by_cases same : task = other
      · subst same
        cases found.symm.trans here
        rw [TaskTable.state?, TaskTable.find?_release here, if_pos rfl, Option.map_none]
        exact .retired rfl idle
      · exact .of_same found ((TaskTable.find?_release here task).trans (if_neg same))
  | cancelled other after own done =>
      subst own
      obtain ⟨held, here, idle, rfl⟩ := TaskTable.idle?_map_eq_ok done
      refine .of_named found (TaskTable.state?_update _ found) fun same there => ?_
      cases there.symm.trans here
      exact .cancelled (same ▸ rfl) idle
  | completed other after own done =>
      subst own
      unfold TaskTable.complete at done
      split at done
      case h_1 => cases done
      case h_2 =>
        cases done
        refine .of_named found (TaskTable.state?_update _ found) fun same _ => ?_
        exact .completed (same ▸ rfl)
  | admitted other startUs deadlineUs window after admits done => exact .of_insert found admits done
  | selected wakes own =>
      subst own
      rcases TaskTable.state?_select consistent clock found with same | ⟨queued, missed⟩
      · rw [same]
        exact .kept
      · rw [missed]
        exact .missed rfl queued
  | claimed wakes current other work middle own taken =>
      subst own
      exact .of_claim consistent found taken
  | finished run work status own =>
      rw [TaskTable.state?_finish work found]
      by_cases mine : task = run.task ∧ record.state = .running
      · rw [if_pos mine]
        exact .finished run work status own mine.1.symm mine.2
      · rw [if_neg mine]
        exact .kept

end Section

end EdfKernel
