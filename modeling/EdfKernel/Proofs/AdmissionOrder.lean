import EdfKernel.Proofs.LateTasks
import EdfKernel.Proofs.LockedSections
import EdfKernel.Proofs.SectionTables
import EdfKernel.Proofs.Trails

/-!
The queue of a scheduler is in the order of admission. A task that comes into the queue goes
to its end, one that leaves it is taken out, and nothing else is ever done to it: to insert a
task again that is queued, to move a late one to a later window, to start one or to change its
settings leaves it where it stands.
-/

namespace EdfKernel

namespace Section

def withdraws? : Section → Option TaskHandle
  | retire task | cancel task | complete task => some task
  | finish run _ _ => some run.task
  | _ => none

def scans : Section → Bool
  | select _ | dispatch _ _ _ => true
  | _ => false

def takes (task : TaskHandle) : Section → Bool
  | dispatch _ _ chosen => chosen = task
  | _ => false

theorem withdraws?_of_admits? {part : Section} {task : TaskHandle}
    (admits : part.admits? = some task) : part.withdraws? = none ∧ part.scans = false := by
  cases part with
  | insert | reinsert => exact ⟨rfl, rfl⟩
  | _ => cases admits

theorem scans_of_withdraws? {part : Section} {task : TaskHandle}
    (names : part.withdraws? = some task) : part.scans = false := by
  cases part with
  | retire | cancel | complete | finish => rfl
  | _ => cases names

/-- What a section does to the queue. -/
inductive Requeues (part : Section) (table after : TaskTable Work) : Prop where
  | stays (same : after.queue = table.queue)
  | appended (task : TaskHandle) (admits : part.admits? = some task) (absent : task ∉ table.queue)
      (last : after.queue = table.queue ++ [task])
  | withdrawn (task : TaskHandle) (names : part.withdraws? = some task)
      (erased : after.queue = table.queue.erase task)
  | missed (task : TaskHandle) (record : TaskRecord Work) (scans : part.scans = true)
      (apart : part.takes task = false) (found : after.find? task = some record)
      (late : record.state = .cancelled .deadlineMissed)
      (erased : after.queue = table.queue.erase task)

variable {part : Section} {table after : TaskTable Work} {task : TaskHandle}

theorem Requeues.of_insert {config : SchedulerConfig} {now : Ticks} {startUs deadlineUs : UInt64}
    {window : Window} (admits : part.admits? = some task)
    (done : table.insert config now task startUs deadlineUs = .ok (window, after)) :
    part.Requeues table after := by
  obtain ⟨record, found, idle, room, rfl⟩ := TaskTable.insert_cases done
  by_cases member : task ∈ table.queue
  · apply Requeues.stays
    rw [TaskTable.enqueue, TaskTable.queue_update, if_pos member, TaskTable.queue_update]
  · apply Requeues.appended task admits member
    rw [TaskTable.enqueue, TaskTable.queue_update, if_neg member]

theorem Requeues.of_select {current : Ticks} (consistent : table.Consistent)
    (scans : part.scans = true)
    (apart : ∀ task record, table.find? task = some record → record.isLate current = true →
      part.takes task = false) :
    part.Requeues table (table.select current).table := by
  have selects := TaskTable.selects consistent.queue_nodup current
  cases given : (table.lateTasks current).head? with
  | none =>
      apply Requeues.stays
      rw [selects.queue, given]
      rfl
  | some task =>
      have late := List.of_mem_filter (List.mem_of_mem_head? given)
      obtain ⟨record, found, missed⟩ := TaskTable.find?_of_isLate late
      refine .missed task (record.cancel .deadlineMissed) scans (apart task record found missed)
        ?_ rfl ?_
      · rw [selects.find?, found, given]
        simp
      · rw [selects.queue, given]
        rfl

theorem Requeues.of_finish (run : Dispatch) (work : Option Work)
    (names : part.withdraws? = some run.task) :
    part.Requeues table (table.finish run.task work).2 := by
  cases found : table.find? run.task with
  | none =>
      rw [TaskTable.finish_of_none work found]
      exact .stays rfl
  | some record =>
      by_cases running : record.state = .running
      · rw [TaskTable.finish_of_running work record found running]
        exact .withdrawn run.task names rfl
      · rw [TaskTable.finish_of_changed work record found running]
        exact .stays rfl

theorem Requeues.of_claim {wakes : Bool} {current : Ticks} {work : Option Work}
    (consistent : table.Consistent) (taken : table.claim current task = some (work, after)) :
    (dispatch wakes current task).Requeues table (after.select current).table := by
  have queues : after.queue = table.queue := by
    obtain ⟨_, _, _, _, _, rfl⟩ := TaskTable.claim_cases taken
    rfl
  have apart : ∀ other record, after.find? other = some record →
      record.isLate current = true → (dispatch wakes current task).takes other = false := by
    intro other record found late
    apply decide_eq_false
    rintro rfl
    obtain ⟨queued, _⟩ := (record.isLate_iff current).mp late
    rw [TaskTable.find?_claim taken, if_pos rfl] at found
    obtain ⟨_, _, rfl⟩ := Option.map_eq_some_iff.mp found
    cases queued
  have scanned : (dispatch wakes current task).Requeues after (after.select current).table :=
    .of_select (consistent.claim taken) rfl apart
  cases scanned with
  | stays same => exact .stays (same.trans queues)
  | missed other record scans apart found late erased =>
      exact .missed other record scans apart found late (erased.trans (by rw [queues]))
  | appended other admits => cases admits
  | withdrawn other names => cases names

theorem Makes.requeues {scheduler : Scheduler} {clock : Ticks}
    (makes : part.Makes scheduler clock after) (consistent : scheduler.table.Consistent) :
    part.Requeues scheduler.table after := by
  cases makes with
  | kept => exact .stays rfl
  | created task work settings after done =>
      apply Requeues.stays
      rcases TaskTable.alloc_cases _ after _ task done with
        ⟨_, _, _, _, _, _, rfl⟩ | ⟨_, _, _, rfl⟩
      · rfl
      · rfl
  | configured task settings after own done =>
      obtain ⟨_, _, _, rfl⟩ := TaskTable.idle?_map_eq_ok done
      exact .stays rfl
  | retired task after own done | cancelled task after own done =>
      subst own
      obtain ⟨_, _, _, rfl⟩ := TaskTable.idle?_map_eq_ok done
      exact .withdrawn task rfl rfl
  | completed task after own done =>
      subst own
      unfold TaskTable.complete at done
      split at done
      · cases done
      · cases done
        exact .withdrawn task rfl rfl
  | admitted task startUs deadlineUs window after admits done => exact .of_insert admits done
  | selected wakes own =>
      subst own
      exact .of_select consistent rfl fun _ _ _ _ => rfl
  | claimed wakes current task work middle own taken =>
      subst own
      exact .of_claim consistent taken
  | finished run work status own =>
      subst own
      exact .of_finish run work rfl

theorem Requeues.cases (requeues : part.Requeues table after) :
    after.queue = table.queue ∨
      (∃ task, task ∉ table.queue ∧ after.queue = table.queue ++ [task]) ∨
      ∃ task, task ∈ table.queue ∧ after.queue = table.queue.erase task := by
  have taken (task : TaskHandle) (erased : after.queue = table.queue.erase task) :
      after.queue = table.queue ∨
        ∃ task, task ∈ table.queue ∧ after.queue = table.queue.erase task := by
    by_cases member : task ∈ table.queue
    · exact .inr ⟨task, member, erased⟩
    · exact .inl (erased.trans (List.erase_of_not_mem member))
  cases requeues with
  | stays same => exact .inl same
  | appended task admits absent last => exact .inr (.inl ⟨task, absent, last⟩)
  | withdrawn task names erased | missed task record scans apart found late erased =>
      exact (taken task erased).imp_right .inr

theorem Requeues.admitting (requeues : part.Requeues table after)
    (admits : part.admits? = some task) :
    after.queue = table.queue ∨ task ∉ table.queue ∧ after.queue = table.queue ++ [task] := by
  obtain ⟨names, searches⟩ := withdraws?_of_admits? admits
  cases requeues with
  | stays same => exact .inl same
  | appended other same absent last =>
      cases admits.symm.trans same
      exact .inr ⟨absent, last⟩
  | withdrawn other same => cases names.symm.trans same
  | missed other record scans => cases searches.symm.trans scans

theorem Requeues.withdrawing (requeues : part.Requeues table after)
    (names : part.withdraws? = some task) :
    after.queue = table.queue ∨ after.queue = table.queue.erase task := by
  cases requeues with
  | stays same => exact .inl same
  | appended other admits => cases (withdraws?_of_admits? admits).1.symm.trans names
  | withdrawn other same erased =>
      cases names.symm.trans same
      exact .inr erased
  | missed other record scans => cases (scans_of_withdraws? names).symm.trans scans

theorem Requeues.scanning (requeues : part.Requeues table after) (scans : part.scans = true) :
    after.queue = table.queue ∨
      ∃ task record, part.takes task = false ∧ after.find? task = some record ∧
        record.state = .cancelled .deadlineMissed ∧ after.queue = table.queue.erase task := by
  cases requeues with
  | stays same => exact .inl same
  | appended other admits => cases (withdraws?_of_admits? admits).2.symm.trans scans
  | withdrawn other names => cases (scans_of_withdraws? names).symm.trans scans
  | missed other record _ apart found late erased =>
      exact .inr ⟨other, record, apart, found, late, erased⟩

theorem finish_withdraws {run : Dispatch} {work : Option Work} {status : WorkStatus}
    {startUs deadlineUs : UInt64}
    (again : .acquire number (.reinsert run startUs deadlineUs) ∈
      (Effect.finish scheduler number run work status).next) :
    (Effect.finish scheduler number run work status).scheduler.table.queue =
      scheduler.table.queue.erase run.task := by
  cases found : scheduler.table.find? run.task with
  | none =>
      simp only [Effect.finish, TaskTable.finish_of_none work found] at again
      simp at again
  | some record =>
      by_cases running : record.state = .running
      · simp only [Effect.finish, TaskTable.finish_of_running work record found running, if_true]
        cases status <;> rfl
      · simp only [Effect.finish, TaskTable.finish_of_changed work record found running] at again
        simp at again

end Section

theorem Move.absent {number : Nat} {clock : Ticks} {pipelines : Nat} {done : Option Activity}
    {before after : Focus} (move : Move number clock pipelines done before after)
    (gone : after.scheduler = none) : before.scheduler = none := by
  cases move with
  | rest | ask | acquire | run | spare | back | vanish => exact gone
  | _ => cases gone

namespace Machine

def queueOf (machine : Machine) (number : Nat) : List TaskHandle :=
  ((machine.scheduler? number).map fun scheduler => scheduler.table.queue).getD []

/-- The admission number of a task: the steps are numbered, and it is the number of the last
one with which the task came into the queue. -/
def admission (number : Nat) (task : TaskHandle) : List Machine → Machine → Nat
  | [], _ => 0
  | earlier :: past, machine =>
      if task ∈ machine.queueOf number ∧ task ∉ earlier.queueOf number then past.length + 1
      else admission number task past earlier

variable {machine : Machine} {number : Nat} {scheduler : Scheduler} {past : List Machine}

theorem queueOf_of_scheduler? (found : machine.scheduler? number = some scheduler) :
    machine.queueOf number = scheduler.table.queue := by
  rw [queueOf, found]
  rfl

theorem Reachable.queueOf_nodup (reachable : Reachable machine) :
    (machine.queueOf number).Nodup := by
  cases found : machine.scheduler? number with
  | none =>
      rw [queueOf, found]
      exact List.nodup_nil
  | some scheduler =>
      rw [queueOf_of_scheduler? found]
      exact (reachable.tableSound found).consistent.queue_nodup

theorem Reachable.step_queueOf (reachable : Reachable machine) (number : Nat) :
    machine.step.queueOf number = machine.queueOf number ∨
      ∃ part rest scheduler after, machine.agenda = .enter number part :: rest ∧
        machine.scheduler? number = some scheduler ∧
        machine.step.scheduler? number = some after ∧
        part.Requeues scheduler.table after.table := by
  obtain ⟨done, comes, move⟩ := step_moves machine number
  cases found : machine.step.scheduler? number with
  | none =>
      have before : machine.scheduler? number = none := move.absent found
      exact .inl (by rw [queueOf, queueOf, found, before])
  | some scheduler =>
      rcases move.table_cases scheduler found with
        ⟨absent, config, executor, rfl⟩ | ⟨earlier, there, _, same | ⟨part, next, enters, _⟩⟩
      · have before : machine.scheduler? number = none := absent
        exact .inl (by rw [queueOf, queueOf, found, before]; rfl)
      · exact .inl (by rw [queueOf_of_scheduler? found, queueOf_of_scheduler? there, same])
      · obtain ⟨rest, agenda⟩ := comes _ enters
        have free := reachable.free_of_agenda there agenda nofun
        obtain ⟨stepped, _⟩ := step_enter machine number part rest earlier agenda there free
        cases found.symm.trans stepped
        exact .inr ⟨part, rest, earlier, _, agenda, there, rfl,
          (part.effect_makes earlier number machine.clock machine.pipelines.length).requeues
            (reachable.tableSound there).consistent⟩

/-- What a step does to the queue of a scheduler: who comes goes to the end, who leaves is taken
out, and none of the rest moves. -/
structure KeepsOrder (machine : Machine) (number : Nat) : Prop where
  arrives : ∀ task, task ∉ machine.queueOf number → task ∈ machine.step.queueOf number →
    machine.step.queueOf number = machine.queueOf number ++ [task]
  leaves : ∀ task, task ∈ machine.queueOf number → task ∉ machine.step.queueOf number →
    machine.step.queueOf number = (machine.queueOf number).erase task
  stays : (∀ task, task ∈ machine.step.queueOf number ↔ task ∈ machine.queueOf number) →
    machine.step.queueOf number = machine.queueOf number
  readmitted : ∀ part rest task, machine.agenda = .enter number part :: rest →
    part.admits? = some task → task ∈ machine.queueOf number →
    machine.step.queueOf number = machine.queueOf number
  configured : ∀ task settings rest,
    machine.agenda = .enter number (.configure task settings) :: rest →
    machine.step.queueOf number = machine.queueOf number
  withdrawn : ∀ part rest task, machine.agenda = .enter number part :: rest →
    part.withdraws? = some task →
    machine.step.queueOf number = machine.queueOf number ∨
      machine.step.queueOf number = (machine.queueOf number).erase task
  /-- A pass that scans the queue takes out at most one task, which is late; the late tasks that
  it moves to another window, and the task that it takes for the executor, stay. -/
  scanned : ∀ part rest, machine.agenda = .enter number part :: rest → part.scans = true →
    machine.step.queueOf number = machine.queueOf number ∨
      ∃ task record, part.takes task = false ∧
        (machine.step.focus number).record? task = some record ∧
        record.state = .cancelled .deadlineMissed ∧
        machine.step.queueOf number = (machine.queueOf number).erase task
  /-- The task of a pass that is to admit it again is not in the queue, so it goes to the end. -/
  rescheduled : ∀ run work status startUs deadlineUs rest,
    machine.agenda = .enter number (.finish run work status) :: rest →
    machine.step.agenda =
      .leave number :: .acquire number (.reinsert run startUs deadlineUs) :: rest →
    run.task ∉ machine.step.queueOf number

variable {part : Section} {rest : List Activity} {after : Scheduler}

theorem step_queueOf_of_absent (agenda : machine.agenda = .enter number part :: rest)
    (absent : machine.scheduler? number = none) : machine.step.agenda = rest := by
  have here : ({ machine with agenda := rest } : Machine).scheduler? number = none := absent
  simp only [step, agenda, carryOut, enter, here]

theorem Reachable.rescheduled_absent (reachable : Reachable machine) {run : Dispatch}
    {work : Option Work} {status : WorkStatus} {startUs deadlineUs : UInt64}
    (agenda : machine.agenda = .enter number (.finish run work status) :: rest)
    (again : machine.step.agenda =
      .leave number :: .acquire number (.reinsert run startUs deadlineUs) :: rest) :
    run.task ∉ machine.step.queueOf number := by
  cases found : machine.scheduler? number with
  | none =>
      rw [step_queueOf_of_absent agenda found] at again
      have longer := congrArg List.length again
      simp only [List.length_cons] at longer
      omega
  | some scheduler =>
      have free := reachable.free_of_agenda found agenda nofun
      obtain ⟨stepped, _⟩ := step_enter machine number _ rest scheduler agenda found free
      rw [step_enter_eq agenda found free rfl] at again
      have next : (Effect.finish scheduler number run work status).next ++ rest =
          [.acquire number (.reinsert run startUs deadlineUs)] ++ rest := (List.cons.inj again).2
      have pending : .acquire number (.reinsert run startUs deadlineUs) ∈
          (Effect.finish scheduler number run work status).next := by
        rw [List.append_cancel_right next]
        exact List.mem_singleton_self _
      have withdrawn := Section.finish_withdraws pending
      rw [queueOf_of_scheduler? stepped]
      change run.task ∉ (Effect.finish scheduler number run work status).scheduler.table.queue
      rw [withdrawn]
      exact (reachable.tableSound found).consistent.queue_nodup.not_mem_erase

theorem Reachable.step_queueOf_cases (reachable : Reachable machine) (number : Nat) :
    machine.step.queueOf number = machine.queueOf number ∨
      (∃ task, task ∉ machine.queueOf number ∧
        machine.step.queueOf number = machine.queueOf number ++ [task]) ∨
      ∃ task, task ∈ machine.queueOf number ∧
        machine.step.queueOf number = (machine.queueOf number).erase task := by
  rcases reachable.step_queueOf number with
    same | ⟨part, rest, scheduler, after, agenda, before, there, requeues⟩
  · exact .inl same
  · rw [queueOf_of_scheduler? before, queueOf_of_scheduler? there]
    exact requeues.cases

theorem Reachable.step_queueOf_enter (reachable : Reachable machine)
    (agenda : machine.agenda = .enter number part :: rest) :
    machine.step.queueOf number = machine.queueOf number ∨
      ∃ scheduler after, machine.scheduler? number = some scheduler ∧
        machine.step.scheduler? number = some after ∧
        part.Requeues scheduler.table after.table := by
  rcases reachable.step_queueOf number with
    same | ⟨other, below, scheduler, after, front, before, there, requeues⟩
  · exact .inl same
  · cases agenda.symm.trans front
    exact .inr ⟨scheduler, after, before, there, requeues⟩

theorem Reachable.keepsOrder (reachable : Reachable machine) (number : Nat) :
    machine.KeepsOrder number where
  arrives task absent present := by
    rcases reachable.step_queueOf_cases number with same | ⟨other, _, last⟩ | ⟨other, _, erased⟩
    · exact absurd (same ▸ present) absent
    · rw [last, List.mem_append, List.mem_singleton] at present
      obtain rfl := present.resolve_left absent
      exact last
    · exact absurd (List.mem_of_mem_erase (erased ▸ present)) absent
  leaves task present absent := by
    rcases reachable.step_queueOf_cases number with same | ⟨other, _, last⟩ | ⟨other, _, erased⟩
    · exact absurd (same ▸ present) absent
    · rw [last] at absent
      exact absurd (List.mem_append_left _ present) absent
    · by_cases here : task = other
      · exact here ▸ erased
      · rw [erased] at absent
        exact absurd ((List.mem_erase_of_ne here).mpr present) absent
  stays members := by
    rcases reachable.step_queueOf_cases number with
      same | ⟨other, out, last⟩ | ⟨other, here, erased⟩
    · exact same
    · have comes : other ∈ machine.step.queueOf number := by simp [last]
      exact absurd ((members other).mp comes) out
    · have gone : other ∉ machine.step.queueOf number := by
        rw [erased]
        exact reachable.queueOf_nodup.not_mem_erase
      exact absurd ((members other).mpr here) gone
  readmitted part rest task agenda admits queued := by
    rcases reachable.step_queueOf_enter agenda with
      same | ⟨scheduler, after, before, there, requeues⟩
    · exact same
    · rw [queueOf_of_scheduler? before] at queued ⊢
      rw [queueOf_of_scheduler? there]
      exact (requeues.admitting admits).resolve_right fun absent => absent.1 queued
  configured task settings rest agenda := by
    rcases reachable.step_queueOf_enter agenda with
      same | ⟨scheduler, after, before, there, requeues⟩
    · exact same
    · rw [queueOf_of_scheduler? before, queueOf_of_scheduler? there]
      cases requeues with
      | stays same => exact same
      | appended _ admits => cases admits
      | withdrawn _ names => cases names
      | missed _ _ scans => cases scans
  withdrawn part rest task agenda names := by
    rcases reachable.step_queueOf_enter agenda with
      same | ⟨scheduler, after, before, there, requeues⟩
    · exact .inl same
    · rw [queueOf_of_scheduler? before, queueOf_of_scheduler? there]
      exact requeues.withdrawing names
  scanned part rest agenda scans := by
    rcases reachable.step_queueOf_enter agenda with
      same | ⟨scheduler, after, before, there, requeues⟩
    · exact .inl same
    · rw [queueOf_of_scheduler? before, queueOf_of_scheduler? there, focus, there]
      exact requeues.scanning scans
  rescheduled run work status startUs deadlineUs rest agenda again :=
    reachable.rescheduled_absent agenda again

/-! Admission numbers grow along the queue. -/

theorem admission_le (number : Nat) (task : TaskHandle) (past : List Machine) (machine : Machine) :
    admission number task past machine ≤ past.length := by
  induction past generalizing machine with
  | nil => exact Nat.le_refl 0
  | cons earlier past ih =>
      unfold admission
      split
      · exact Nat.le_refl _
      · exact Nat.le_succ_of_le (ih earlier)

theorem admission_of_mem {earlier : Machine} {task : TaskHandle}
    (member : task ∈ earlier.queueOf number) :
    admission number task (earlier :: past) machine = admission number task past earlier := by
  rw [admission, if_neg (fun came => came.2 member)]

theorem admission_congr {machine other : Machine}
    (same : machine.queueOf number = other.queueOf number) (task : TaskHandle) :
    admission number task past machine = admission number task past other := by
  cases past with
  | nil => rfl
  | cons earlier past => rw [admission, admission, same]

/-- The queue is strictly sorted by admission number. -/
def QueueSorted (number : Nat) (past : List Machine) (machine : Machine) : Prop :=
  (machine.queueOf number).Pairwise fun first second =>
    admission number first past machine < admission number second past machine

theorem QueueSorted.older (sorted : QueueSorted number past machine) (after : Machine) :
    (machine.queueOf number).Pairwise fun first second =>
      admission number first (machine :: past) after <
        admission number second (machine :: past) after := by
  apply List.Pairwise.imp_of_mem _ sorted
  intro first second firstIn secondIn less
  rwa [admission_of_mem firstIn, admission_of_mem secondIn]

theorem QueueSorted.step (sorted : QueueSorted number past machine)
    (reachable : Reachable machine) : QueueSorted number (machine :: past) machine.step := by
  have older := sorted.older machine.step
  unfold QueueSorted
  rcases reachable.step_queueOf_cases number with same | ⟨task, absent, last⟩ | ⟨task, _, erased⟩
  · rw [same]
    exact older
  · rw [last]
    refine List.pairwise_append.mpr ⟨older, List.pairwise_singleton _ _, ?_⟩
    intro first member second only
    obtain rfl := List.mem_singleton.mp only
    have came : second ∈ machine.step.queueOf number := by simp [last]
    rw [admission_of_mem member, admission, if_pos ⟨came, absent⟩]
    exact Nat.lt_succ_of_le (admission_le number first past machine)
  · rw [erased]
    exact older.sublist List.erase_sublist

theorem Trail.queueSorted (trail : Trail past machine) (number : Nat) :
    QueueSorted number past machine := by
  induction trail with
  | boot start => exact List.Pairwise.nil
  | @start past machine call interposed _ rest ih =>
      have same : (machine.start call interposed).queueOf number = machine.queueOf number := rfl
      unfold QueueSorted
      rw [same]
      apply List.Pairwise.imp _ ih
      intro first second less
      rwa [admission_congr same, admission_congr same]
  | step trail ih => exact ih.step trail.reachable

/-- In every state of every run the queue is strictly sorted by admission number, and the next
step moves no entry of it. -/
theorem queue_in_admission_order (trail : Trail past machine) (number : Nat) :
    ((machine.queueOf number).Pairwise fun first second =>
        admission number first past machine < admission number second past machine) ∧
      machine.KeepsOrder number :=
  ⟨trail.queueSorted number, trail.reachable.keepsOrder number⟩

/-- Two tasks, the one made last admitted first, and the first one admitted again. -/
def lined : Machine :=
  let alone : Nat → Option Script := fun _ => none
  let create : Call := .scheduler 0 (.create [] .default)
  let insert (task : TaskHandle) : Call := .scheduler 0 (.insert (some task) 0 1000)
  let set := (boot 0).exec 1 (.init ⟨1000000, 0, 7, 2⟩ .inline) alone
  let made := (set.exec 4 create alone).exec 4 create alone
  ((made.exec 4 (insert ⟨1, 0⟩) alone).exec 4 (insert ⟨0, 0⟩) alone).exec 4 (insert ⟨1, 0⟩) alone

theorem lined_reachable : Reachable lined := by
  unfold lined exec
  refine .run (.start _ _ (.run (.start _ _ (.run (.start _ _ ?_ rfl) 4) rfl) 4) rfl) 4
  refine .run (.start _ _ (.run (.start _ _ ?_ rfl) 4) rfl) 4
  exact .run (.start _ _ (.boot 0) rfl) 1

theorem lined_in_admission_order :
    lined.queueOf 0 = [⟨1, 0⟩, ⟨0, 0⟩] ∧
      ∃ past, Trail past lined ∧
        admission 0 ⟨1, 0⟩ past lined < admission 0 ⟨0, 0⟩ past lined := by
  have queue : lined.queueOf 0 = [⟨1, 0⟩, ⟨0, 0⟩] := rfl
  obtain ⟨past, trail⟩ := lined_reachable.trail
  obtain ⟨sorted, _⟩ := queue_in_admission_order trail 0
  rw [queue] at sorted
  exact ⟨queue, past, trail, List.rel_of_pairwise_cons sorted (List.mem_singleton_self _)⟩

end Machine

end EdfKernel
