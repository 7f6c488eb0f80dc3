import EdfKernel.Proofs.EventAccounts
import EdfKernel.Proofs.OpenWindows
import EdfKernel.Proofs.Realignments
import EdfKernel.Proofs.SectionEffects

/-!
One scan is enough to recover from misses. A late task that has room for it is moved to a window
in which it is not late, so after a scan nothing is left for another one at the same instant to
give up or to move. A pass scans twice at most, at one instant, and so gives up one task at most,
whatever its work and the executor call.
-/

namespace EdfKernel

/-- A feasible task, with room ahead for two windows twice as long as its own, is moved to one
that it can make. -/
theorem Timing.realign_not_missed {timing : Timing} {current : Ticks}
    (nonempty : timing.start < timing.deadline)
    (feasible : timing.maxRuntime.toNat ≤ timing.deadline.toNat - timing.start.toNat)
    (room : current.toNat + 4 * (timing.deadline.toNat - timing.start.toNat) ≤ 2 ^ 64 - 1) :
    (timing.realign current).1.isMissed current = false := by
  have twice : timing.stride = 2 * (timing.deadline.toNat - timing.start.toNat) := by
    rw [stride]
    omega
  have some' := stride_pos nonempty
  have ahead : current.toNat + timing.stride ≤ (timing.realign current).1.start.toNat :=
    lt_realign_start nonempty (by omega)
  have ends := realign_deadline nonempty current
  rw [← Bool.not_eq_true, isMissed_iff, realign_maxRuntime]
  omega

namespace Scan

variable {ω : Type} {scan : Scan ω} {current : Ticks}

theorem foldl_visit_of_timely {entries : List TaskHandle}
    (timely : ∀ task ∈ entries, scan.table.isLate current task = false) :
    (entries.foldl (visit current) scan).table = scan.table ∧
      (entries.foldl (visit current) scan).selection.cancelled = scan.selection.cancelled ∧
      (entries.foldl (visit current) scan).selection.repaired = scan.selection.repaired ∧
      (entries.foldl (visit current) scan).selection.exhausted = scan.selection.exhausted := by
  induction entries generalizing scan with
  | nil => exact ⟨rfl, rfl, rfl, rfl⟩
  | cons task rest ih =>
      have early := timely task List.mem_cons_self
      cases visit_visited scan current task with
      | passed _ table cancelled repaired exhausted =>
          obtain ⟨kept, given, moved, restarted⟩ := @ih (visit current scan task)
            fun other member => by
              rw [table]
              exact timely other (List.mem_cons_of_mem task member)
          exact ⟨kept.trans table, given.trans cancelled, moved.trans repaired,
            restarted.trans exhausted⟩
      | givenUp record found late | moved record found late =>
          rw [TaskTable.isLate_of_find? found, late] at early
          cases early

end Scan

namespace TaskTable

variable {ω : Type} {table : TaskTable ω} {current : Ticks}

/-- Every late task is feasible, and has room ahead for two windows twice as long as its own. -/
def CanRecover (table : TaskTable ω) (current : Ticks) : Prop :=
  ∀ task record, table.find? task = some record → record.state = .queued →
    record.timing.isMissed current = true →
    record.timing.maxRuntime.toNat ≤
        record.timing.deadline.toNat - record.timing.start.toNat ∧
      current.toNat + 4 * (record.timing.deadline.toNat - record.timing.start.toNat) ≤ 2 ^ 64 - 1

/-- Of the late tasks the first is no longer queued, and the others are no longer late. -/
theorem CanRecover.isLate_select (recovers : table.CanRecover current)
    (consistent : table.Consistent) (windows : table.WindowsOpen) (task : TaskHandle) :
    (table.select current).table.isLate current task = false := by
  have selects := selects consistent.queue_nodup current
  cases found : table.find? task with
  | none => rw [isLate, selects.find?, found, Option.map_none, Option.any_none]
  | some record =>
      rw [isLate, selects.find?, found, Option.map_some, Option.any_some]
      by_cases late : record.isLate current = true
      · have member : task ∈ table.lateTasks current := by
          obtain ⟨queued, _⟩ := (record.isLate_iff current).mp late
          have waits := (consistent.mem_queue task).mpr ⟨record, found, by rw [queued]; rfl⟩
          exact List.mem_filter.mpr ⟨waits, (isLate_of_find? found).trans late⟩
        obtain ⟨queued, missed⟩ := (record.isLate_iff current).mp late
        obtain ⟨feasible, room⟩ := recovers task record found queued missed
        have moved := Timing.realign_not_missed (windows task record found queued) feasible room
        cases tasks : table.lateTasks current with
        | nil =>
            rw [tasks] at member
            cases member
        | cons first others =>
            rw [tasks] at member
            rw [List.head?_cons, List.tail_cons]
            split
            case isTrue => rfl
            case isFalse further =>
              have behind : task ∈ others := by
                rcases List.mem_cons.mp member with rfl | behind
                · exact absurd rfl further
                · exact behind
              rw [if_pos behind, TaskRecord.isLate]
              exact Bool.and_eq_false_imp.mpr fun _ => moved
      · rw [Bool.not_eq_true] at late
        have absent : task ∉ table.lateTasks current := fun member => by
          have missed := List.of_mem_filter member
          rw [isLate_of_find? found, late] at missed
          cases missed
        have first : (table.lateTasks current).head? ≠ some task := fun first =>
          absent (List.mem_of_mem_head? first)
        have further : task ∉ (table.lateTasks current).tail := fun further =>
          absent (List.mem_of_mem_tail further)
        rw [if_neg first, if_neg further]
        exact late

theorem select_of_timely (timely : ∀ task, table.isLate current task = false) :
    (table.select current).table = table ∧
      (table.select current).selection.cancelled = none ∧
      (table.select current).selection.repaired = 0 ∧
      (table.select current).selection.exhausted = 0 :=
  @Scan.foldl_visit_of_timely ω (Scan.start table) current table.queue fun task _ => timely task

theorem isLate_claim {claimed : TaskTable ω} {task : TaskHandle} {work : Option ω}
    (taken : table.claim current task = some (work, claimed))
    (timely : ∀ task, table.isLate current task = false) (other : TaskHandle) :
    claimed.isLate current other = false := by
  by_cases same : other = task
  · rw [isLate, find?_claim taken, if_pos same]
    cases table.find? other <;> rfl
  · rw [isLate_congr ((find?_claim taken other).trans (if_neg same))]
    exact timely other

end TaskTable

namespace Activity

def willScan : Activity → Bool
  | acquire _ part | enter _ part => part.scans
  | _ => false

theorem isLink_of_willScan {activity : Activity} (scans : activity.willScan = true) :
    activity.isLink = true := by
  cases activity with
  | acquire number part | enter number part =>
      cases part with
      | select | dispatch => rfl
      | _ => cases scans
  | _ => cases scans

end Activity

namespace Worked

variable {number : Nat} {clock : Ticks} {table after : TaskTable Work} {part : Section}
  {next : List Activity}

theorem missedIn (worked : Worked number clock table part after next)
    (scans : part.scans = false) (consistent : table.Consistent) :
    table.missedIn after = [] := by
  cases worked with
  | call part admits brings after called change => exact change.missedIn consistent
  | finished run work status => exact consistent.missedIn_finish run.task work
  | asked run work startUs deadlineUs running => exact consistent.missedIn_finish run.task work
  | refused | looked => exact consistent.missedIn_self
  | readmitted run startUs deadlineUs after change => exact change.missedIn consistent
  | idle | due | abandoned | claimed => cases scans

theorem next_willScan (worked : Worked number clock table part after next)
    (scans : part.scans = false) : ∀ duty ∈ next, duty.willScan = false := by
  intro duty member
  cases worked with
  | call | looked => cases member
  | finished | asked | refused | readmitted =>
      cases List.mem_singleton.mp member
      rfl
  | idle | due | abandoned | claimed => cases scans

end Worked

/-- While a pass is under way that has done its scans, no scan comes up. -/
theorem Move.unscanned {number : Nat} {clock : Ticks} {pipelines : Nat} {done : Option Activity}
    {before after : Focus} (move : Move number clock pipelines done before after)
    (busy : before.scheduler.any (·.inPass) = true)
    (unscanned : ∀ duty ∈ before.duties, duty.willScan = false) :
    ∀ duty ∈ after.duties, duty.willScan = false := by
  have replaced {first next : Activity} {duties : List Activity} (plain : next.willScan = false)
      (unscanned : ∀ duty ∈ first :: duties, duty.willScan = false) :
      ∀ duty ∈ next :: duties, duty.willScan = false := by
    intro duty member
    rcases List.mem_cons.mp member with rfl | old
    · exact plain
    · exact unscanned duty (List.mem_cons_of_mem first old)
  cases move with
  | rest | setUp | drop | coalesce => exact unscanned
  | begin scheduler duties wakes idle =>
      rw [Option.any_some, idle] at busy
      cases busy
  | ask scheduler duties part called =>
      intro duty member
      rcases List.mem_cons.mp member with rfl | old
      · cases part <;> first | rfl | cases called
      · exact unscanned duty old
  | acquire scheduler duties part =>
      have plain : (Activity.acquire number part).willScan = false :=
        unscanned _ List.mem_cons_self
      exact replaced plain unscanned
  | enter scheduler duties part free =>
      have scans : part.scans = false := unscanned _ List.mem_cons_self
      have worked := (part.effect_done scheduler number clock pipelines).worked
      intro duty member
      rcases List.mem_append.mp member with new | old
      · rcases List.mem_cons.mp new with rfl | follows
        · rfl
        · exact worked.next_willScan scans duty follows
      · exact unscanned duty (List.mem_cons_of_mem _ old)
  | hand | skip | run | spare | back | lookUp => exact replaced rfl unscanned
  | leave | conclude | vanish =>
      exact fun duty member => unscanned duty (List.mem_cons_of_mem _ member)

namespace Machine

variable {machine : Machine} {number : Nat} {scheduler : Scheduler} {part : Section}
  {below : List Activity} {wakes : Bool} {steps : Nat}

/-- The tasks that the scans of a scheduler give up in so many steps. -/
def missedDuring (number : Nat) : (steps : Nat) → Machine → List TaskHandle
  | 0, _ => []
  | steps + 1, machine => machine.missedNext number ++ missedDuring number steps machine.step

theorem missedDuring_add (machine : Machine) (number first second : Nat) :
    machine.missedDuring number (first + second) =
      machine.missedDuring number first ++ (machine.run first).missedDuring number second := by
  induction first generalizing machine with
  | zero => rw [Nat.zero_add]; rfl
  | succ first ih =>
      rw [Nat.succ_add, missedDuring, missedDuring, ih, run_succ, List.append_assoc]

theorem missedDuring_prefix (machine : Machine) (number : Nat) {fewer more : Nat}
    (le : fewer ≤ more) :
    machine.missedDuring number fewer <+: machine.missedDuring number more := by
  obtain ⟨extra, rfl⟩ := Nat.exists_eq_add_of_le le
  rw [missedDuring_add]
  exact List.prefix_append _ _

theorem Reachable.missedNext_of_kept (reachable : Reachable machine) {after : Scheduler}
    (found : machine.scheduler? number = some scheduler)
    (there : machine.step.scheduler? number = some after) (same : after.table = scheduler.table) :
    machine.missedNext number = [] := by
  rw [missedNext, tableOf_of_scheduler? found, tableOf_of_scheduler? there, same]
  exact (reachable.tableSound found).consistent.missedIn_self

theorem Reachable.missedNext_of_unscanned (reachable : Reachable machine)
    (found : machine.scheduler? number = some scheduler)
    (unscanned : ∀ duty ∈ machine.duties number, duty.willScan = false) :
    machine.missedNext number = [] := by
  obtain ⟨done, comes, move⟩ := step_moves machine number
  obtain ⟨later, there⟩ := move.persists scheduler found
  rcases move.table_cases later there with
    ⟨absent, _⟩ | ⟨earlier, here, _, same | ⟨part, next, enters, worked⟩⟩
  · cases found.symm.trans absent
  · exact reachable.missedNext_of_kept here there same
  · obtain ⟨rest, agenda⟩ := comes _ enters
    have scans : part.scans = false := by
      apply unscanned (.enter number part)
      rw [duties_cons agenda rfl]
      exact List.mem_cons_self
    rw [missedNext, tableOf_of_scheduler? here, tableOf_of_scheduler? there]
    exact worked.missedIn scans (reachable.tableSound here).consistent

theorem Reachable.missedDuring_of_unscanned (reachable : Reachable machine)
    (unscanned : ∀ duty ∈ machine.duties number, duty.willScan = false)
    (busy : ∀ k < steps, (machine.run k).isInPass number = true) :
    machine.missedDuring number steps = [] := by
  induction steps generalizing machine with
  | zero => rfl
  | succ steps ih =>
      have now : machine.isInPass number = true := busy 0 (Nat.succ_pos steps)
      obtain ⟨scheduler, found, _⟩ := isInPass_iff.mp now
      obtain ⟨done, _, move⟩ := step_moves machine number
      have later := ih reachable.step (move.unscanned now unscanned) fun k less => by
        rw [← run_succ]
        exact busy (k + 1) (Nat.succ_lt_succ less)
      rw [missedDuring, reachable.missedNext_of_unscanned found unscanned, later]
      rfl

theorem Reachable.unscanned_of_link (reachable : Reachable machine) {link : Activity}
    (agenda : machine.agenda = link :: below) (own : link.scheduler? = some number)
    (linked : link.isLink = true) (plain : link.willScan = false) :
    ∀ duty ∈ machine.duties number, duty.willScan = false := by
  have excluded := reachable.excluded number
  rw [focus, duties_cons agenda own] at excluded
  obtain ⟨_, _, _, others, _⟩ := excluded.of_link linked
  rw [duties_cons agenda own]
  intro duty member
  rcases List.mem_cons.mp member with rfl | old
  · exact plain
  · rw [← Bool.not_eq_true]
    intro scans
    exact List.filter_eq_nil_iff.mp others duty old (Activity.isLink_of_willScan scans)

theorem Reachable.missedDuring_section (reachable : Reachable machine)
    (found : machine.scheduler? number = some scheduler)
    (agenda : machine.agenda = .acquire number part :: below)
    (alone : machine.interposed (machine.acquisitions + 1) = none) (steps : Nat) :
    machine.missedDuring number steps <+:
      scheduler.table.missedIn
          (part.effect scheduler number machine.clock machine.pipelines.length).scheduler.table ++
        (machine.run 3).missedDuring number (steps - 3) := by
  have free := reachable.free_of_agenda found agenda nofun
  generalize made :
    part.effect scheduler number machine.clock machine.pipelines.length = effect
  have acquired := step_acquire_alone agenda alone
  have waiting : machine.step.scheduler? number = some scheduler := by
    rw [acquired]
    exact found
  have enters : machine.step.agenda = .enter number part :: below := by rw [acquired]
  have same : part.effect scheduler number machine.step.clock machine.step.pipelines.length =
      effect := by
    rw [acquired]
    exact made
  have entered := step_enter_eq enters waiting free same
  have inside : machine.step.step.scheduler? number =
      some { effect.scheduler with locked := true } := by
    rw [entered]
    exact scheduler?_setScheduler_self machine.step number scheduler _ waiting
  have leaves : machine.step.step.agenda = .leave number :: (effect.next ++ below) := by
    rw [entered]
  have left : machine.step.step.step.scheduler? number =
      some { effect.scheduler with locked := false } := by
    rw [step_leave leaves inside]
    exact scheduler?_setScheduler_self machine.step.step number _ _ inside
  -- Of the three steps of a section only the one under the lock changes the table.
  have whole : machine.missedDuring number 3 =
      scheduler.table.missedIn effect.scheduler.table := by
    rw [missedDuring, missedDuring, missedDuring, missedDuring,
      reachable.missedNext_of_kept found waiting rfl,
      reachable.step.step.missedNext_of_kept inside left rfl, missedNext,
      tableOf_of_scheduler? waiting, tableOf_of_scheduler? inside]
    simp only [List.nil_append, List.append_nil]
  rw [← whole]
  by_cases enough : 3 ≤ steps
  · obtain ⟨fewer, rfl⟩ := Nat.exists_eq_add_of_le enough
    rw [missedDuring_add, Nat.add_sub_cancel_left]
  · exact (machine.missedDuring_prefix number (Nat.le_of_not_le enough)).trans
      (List.prefix_append _ _)

theorem Reachable.missedDuring_after (reachable : Reachable machine) {effect : Effect}
    {line acquisitions : Nat} {link : Activity}
    (ran : machine.run 3 = { machine.enact number line effect below with acquisitions })
    (next : effect.next = [link]) (own : link.scheduler? = some number)
    (linked : link.isLink = true) (plain : link.willScan = false)
    (busy : ∀ k < steps, (machine.run k).isInPass number = true) :
    (machine.run 3).missedDuring number (steps - 3) = [] := by
  have agenda : (machine.run 3).agenda = link :: below := by
    rw [ran]
    exact congrArg (· ++ below) next
  apply (reachable.run 3).missedDuring_of_unscanned
    ((reachable.run 3).unscanned_of_link agenda own linked plain)
  intro k less
  rw [← run_add]
  exact busy (3 + k) (by omega)

theorem Reachable.dispatch_misses_none (reachable : Reachable machine)
    (found : machine.scheduler? number = some scheduler) {current : Ticks} {task : TaskHandle}
    (agenda : machine.agenda = .acquire number (.dispatch wakes current task) :: below)
    (alone : machine.interposed (machine.acquisitions + 1) = none)
    (timely : ∀ task, scheduler.table.isLate current task = false)
    (busy : ∀ k < steps, (machine.run k).isInPass number = true) :
    machine.missedDuring number steps = [] := by
  have consistent := (reachable.tableSound found).consistent
  have free := reachable.free_of_agenda found agenda nofun
  have ran := run_section_alone agenda found free alone
  have during := reachable.missedDuring_section found agenda alone steps
  rw [Section.effect] at ran during
  cases taken : scheduler.table.claim current task with
  | none =>
      rw [Effect.dispatch_lost taken] at ran during
      rw [reachable.missedDuring_after ran rfl rfl rfl rfl busy, List.append_nil] at during
      exact List.prefix_nil.mp (consistent.missedIn_self ▸ during)
  | some pair =>
      obtain ⟨work, claimed⟩ := pair
      rw [Effect.dispatch_claimed taken] at ran during
      rw [reachable.missedDuring_after ran rfl rfl rfl rfl busy, List.append_nil] at during
      have kept : scheduler.table.missedIn (claimed.select current).table = [] := by
        have settled := TaskTable.select_of_timely (TaskTable.isLate_claim taken timely)
        rw [settled.1, ← TaskTable.missedIn_claim taken]
        exact (consistent.claim taken).missedIn_self
      exact List.prefix_nil.mp (kept ▸ during)

theorem Reachable.pass_misses_one (reachable : Reachable machine)
    (found : machine.scheduler? number = some scheduler)
    (agenda : machine.agenda = .acquire number (.select wakes) :: below)
    (first : machine.interposed (machine.acquisitions + 1) = none)
    (second : machine.interposed (machine.acquisitions + 2) = none)
    (recovers : scheduler.table.CanRecover machine.clock)
    (busy : ∀ k < steps, (machine.run k).isInPass number = true) :
    (machine.missedDuring number steps).length ≤ 1 := by
  have consistent := (reachable.tableSound found).consistent
  have free := reachable.free_of_agenda found agenda nofun
  have ran := run_section_alone agenda found free first
  have during := reachable.missedDuring_section found agenda first steps
  have scanned : ((Section.select wakes).effect scheduler number machine.clock
      machine.pipelines.length).scheduler.table = (scheduler.table.select machine.clock).table :=
    Section.effect_scanned rfl number machine.pipelines.length
  rw [scanned] at during
  rw [Section.effect] at ran
  -- Behind the first scan none is late at the instant that the pass has read, so its second scan,
  -- which is for the same instant, gives up none.
  have gone : (machine.run 3).missedDuring number (steps - 3) = [] := by
    cases next : (scheduler.table.select machine.clock).selection.next with
    | none =>
        rw [Effect.select_idle next] at ran
        exact reachable.missedDuring_after ran rfl rfl rfl rfl busy
    | some task =>
        obtain ⟨record, held, _⟩ :=
          scheduler.table.select_choosesInTime machine.clock task next
        by_cases early : machine.clock < record.timing.start
        · rw [Effect.select_early next held early] at ran
          exact reachable.missedDuring_after ran rfl rfl rfl rfl busy
        · rw [Effect.select_due next held (UInt64.not_lt.mp early)] at ran
          have holds : (machine.run 3).scheduler? number = some
              { scheduler.scanned (scheduler.table.select machine.clock) with
                locked := false } := by
            rw [ran]
            exact scheduler?_setScheduler_self machine number scheduler _ found
          have goes : (machine.run 3).agenda =
              .acquire number (.dispatch wakes machine.clock task) :: below := by
            rw [ran]
            rfl
          have alone : (machine.run 3).interposed ((machine.run 3).acquisitions + 1) = none := by
            rw [ran]
            exact second
          apply (reachable.run 3).dispatch_misses_none holds goes alone
          · exact recovers.isLate_select consistent (reachable.windowsOpen found)
          · intro k less
            rw [← run_add]
            exact busy (3 + k) (by omega)
  have one := (TaskTable.selects consistent.queue_nodup machine.clock).missedIn consistent
  rw [gone, List.append_nil, one] at during
  calc (machine.missedDuring number steps).length
      ≤ (scheduler.table.lateTasks machine.clock).head?.toList.length := during.length_le
    _ ≤ 1 := by cases (scheduler.table.lateTasks machine.clock).head? <;> simp

/-- If every late task can recover, none is late once a scan is over, and another scan at the same
instant gives up none, moves none and leaves the table as it is. So a pass that is called for gives
up one task at most if nobody comes before its scans, whoever comes in between later. -/
theorem recovery_settles_in_one_scan (reachable : Reachable machine)
    (found : machine.scheduler? number = some scheduler) :
    (∀ current, scheduler.table.CanRecover current →
      (∀ task record, (scheduler.table.select current).table.find? task = some record →
        record.state = .queued → record.timing.isMissed current = false) ∧
      ((scheduler.table.select current).table.select current).table =
          (scheduler.table.select current).table ∧
        ((scheduler.table.select current).table.select current).selection.cancelled = none ∧
        ((scheduler.table.select current).table.select current).selection.repaired = 0 ∧
        ((scheduler.table.select current).table.select current).selection.exhausted = 0) ∧
    (scheduler.table.CanRecover machine.clock → machine.callsPass number = true →
      machine.interposed (machine.acquisitions + 1) = none →
      machine.interposed (machine.acquisitions + 2) = none →
      ∀ length, machine.PassSpan number length →
        (machine.step.missedDuring number length).length ≤ 1) := by
  have consistent := (reachable.tableSound found).consistent
  have windows := reachable.windowsOpen found
  constructor
  · intro current recovers
    have timely := recovers.isLate_select consistent windows
    refine ⟨fun task record there queued => ?_, TaskTable.select_of_timely timely⟩
    have early := timely task
    rw [TaskTable.isLate_of_find? there, TaskRecord.isLate, queued] at early
    exact (Bool.true_and _).symm.trans early
  · intro recovers calls first second length span
    have idle : scheduler.inPass = false := by
      have between := span.begins
      rw [isInPass, found] at between
      exact between
    unfold callsPass at calls
    split at calls
    case h_2 => cases calls
    case h_1 activity rest agenda =>
      have begun := step_of_passes agenda (of_decide_eq_true calls) found idle
      have holds : machine.step.scheduler? number = some scheduler.beginPass := by
        rw [begun]
        exact scheduler?_setScheduler_self machine number scheduler _ found
      rw [begun] at holds ⊢
      have later := begun ▸ reachable.step
      apply later.pass_misses_one holds rfl first second recovers
      intro k less
      rw [← begun, ← run_succ]
      exact span.underWay k less

/-- Two tasks are late and a third is due when a pass is about to begin. -/
def outpaced : Machine :=
  let ask (machine : Machine) (call : Call) : Machine := machine.exec 4 call fun _ => none
  let create : Call := .scheduler 0 (.create [] .default)
  let insert (index : Nat) : Call := .scheduler 0 (.insert (some ⟨index, 0⟩) 0 1000)
  let made := ask (ask (ask (ask (boot 0) (.init ⟨1000000, 0, 7, 3⟩ .inline)) create) create) create
  let late := ask (ask (ask made (insert 0)) (insert 1)) (.platform (.setClock 2000))
  (ask late (insert 2)).start (.scheduler 0 .runPass) fun _ => none

theorem outpaced_reachable : Reachable outpaced := by
  unfold outpaced
  refine .start _ _ (.exec (.exec (.exec (.exec ?_ rfl 4 _ _) rfl 4 _ _) rfl 4 _ _) rfl 4 _ _) rfl
  refine .exec (.exec (.exec (.exec ?_ rfl 4 _ _) rfl 4 _ _) rfl 4 _ _) rfl 4 _ _
  exact .boot 0

theorem outpaced_canRecover :
    ∃ scheduler, outpaced.scheduler? 0 = some scheduler ∧
      scheduler.table.lateTasks outpaced.clock = [⟨0, 0⟩, ⟨1, 0⟩] ∧
      scheduler.table.CanRecover outpaced.clock := by
  refine ⟨_, rfl, by decide, ?_⟩
  intro task record found _ _
  have live : task ∈ [⟨0, 0⟩, ⟨1, 0⟩, ⟨2, 0⟩] :=
    (TaskTable.mem_liveTasks _ task).mpr ⟨record, found⟩
  simp only [List.mem_cons, List.not_mem_nil, or_false] at live
  rcases live with rfl | rfl | rfl
  all_goals
    have same := Option.some.inj found
    subst same
    exact ⟨by decide, by decide⟩

/-- The pass gives up one of them at most, and runs the third. -/
theorem outpaced_settles :
    outpaced.PassSpan 0 16 ∧ (outpaced.run 17).isInPass 0 = false ∧
      (outpaced.run 17).reply = .ok (.outcome ⟨some ⟨2, 0⟩, some ⟨1, 0⟩⟩) ∧
      (outpaced.step.missedDuring 0 16).length ≤ 1 := by
  obtain ⟨scheduler, found, _, recovers⟩ := outpaced_canRecover
  have span : outpaced.PassSpan 0 16 := ⟨rfl, by decide⟩
  have settles := recovery_settles_in_one_scan outpaced_reachable found
  exact ⟨span, by decide, by decide, settles.2 recovers (by decide) rfl rfl 16 span⟩

end Machine

end EdfKernel
