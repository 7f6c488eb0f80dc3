import EdfKernel.Proofs.MissedDeadlines

/-!
The counters of a scheduler account for everything that happened to it since the first boot.
What a step adds to a counter is what happens in that step, so after any run a counter stands
at the number of events of its kind, wherever in a nest of calls and passes they happened.
-/

namespace EdfKernel

namespace Activity

/-- A pass that has yet to call the executor, if it does at all. -/
def isAwaiting : Activity → Bool
  | acquire _ part | enter _ part => part.scans
  | execute _ _ _ => true
  | _ => false

end Activity

namespace Focus

def statistics (focus : Focus) : Statistics :=
  (focus.scheduler.map fun scheduler => scheduler.statistics).getD .zero

def awaiting (focus : Focus) : Nat := focus.duties.countP Activity.isAwaiting

end Focus

/-- Sections that look for a task leave at most one pass that has yet to call the executor, and
the others leave none. -/
theorem Worked.awaiting {number : Nat} {clock : Ticks} {table after : TaskTable Work}
    {part : Section} {next : List Activity} (worked : Worked number clock table part after next) :
    next.countP Activity.isAwaiting ≤ part.scans.toNat := by
  cases worked with
  | call => exact Nat.zero_le _
  | _ => simp [Activity.isAwaiting, Section.scans, List.countP_cons]

theorem Focus.awaiting_cons (scheduler : Option Scheduler) (activity : Activity)
    (duties : List Activity) :
    Focus.awaiting ⟨scheduler, activity :: duties⟩ =
      duties.countP Activity.isAwaiting + activity.isAwaiting.toNat := by
  rw [Focus.awaiting, List.countP_cons]
  cases activity.isAwaiting <;> rfl

theorem Move.awaiting {number : Nat} {clock : Ticks} {pipelines : Nat} {done : Option Activity}
    {before after : Focus} (move : Move number clock pipelines done before after)
    (sound : ∀ scheduler, before.scheduler = some scheduler → scheduler.TableSound) :
    (after.statistics.passes = before.statistics.passes + 1 ∧
        after.statistics.dispatched = before.statistics.dispatched ∧
        after.awaiting = before.awaiting + 1) ∨
      (after.statistics.dispatched = before.statistics.dispatched + 1 ∧
        after.statistics.passes = before.statistics.passes ∧
        after.awaiting + 1 = before.awaiting) ∨
      (after.statistics.dispatched = before.statistics.dispatched ∧
        after.awaiting ≤ before.awaiting) := by
  cases move with
  | rest | setUp | drop | coalesce => exact .inr (.inr ⟨rfl, Nat.le_refl _⟩)
  | begin =>
      refine .inl ⟨rfl, rfl, ?_⟩
      rw [Focus.awaiting_cons]
      rfl
  | ask scheduler duties part called =>
      have unscanned : part.scans = false := by cases part <;> first | rfl | cases called
      refine .inr (.inr ⟨rfl, ?_⟩)
      rw [Focus.awaiting_cons, Activity.isAwaiting, unscanned]
      exact Nat.le_refl _
  | acquire scheduler duties part =>
      refine .inr (.inr ⟨rfl, ?_⟩)
      rw [Focus.awaiting_cons, Focus.awaiting_cons]
      exact Nat.le_refl _
  | enter scheduler duties part free =>
      have accounts := (part.effect_accounts scheduler number clock pipelines
        (sound scheduler rfl).consistent).statistics
      have worked := (part.effect_done scheduler number clock pipelines).worked.awaiting
      refine .inr (.inr ⟨congrArg (fun counted => counted.dispatched) accounts, ?_⟩)
      rw [Focus.awaiting_cons, List.cons_append, Focus.awaiting_cons, List.countP_append]
      change _ + 0 ≤ _ + part.scans.toNat
      omega
  | hand | skip =>
      refine .inr (.inl ⟨rfl, rfl, ?_⟩)
      rw [Focus.awaiting_cons, Focus.awaiting_cons]
      rfl
  | run | spare | back | lookUp =>
      refine .inr (.inr ⟨rfl, ?_⟩)
      rw [Focus.awaiting_cons, Focus.awaiting_cons]
      exact Nat.le_refl _
  | leave | conclude | vanish =>
      refine .inr (.inr ⟨rfl, ?_⟩)
      rw [Focus.awaiting_cons]
      exact Nat.le_add_right _ _

namespace Machine

variable {machine : Machine} {number : Nat} {scheduler : Scheduler} {past : List Machine}

def beginsPass (machine : Machine) (number : Nat) : Bool :=
  machine.callsPass number && !machine.isInPass number

def putsOffPass (machine : Machine) (number : Nat) : Bool :=
  machine.callsPass number && machine.isInPass number

/-- What the tasks that a step frees had missed. -/
def freedMisses (machine : Machine) (number : Nat) : Nat :=
  (((machine.tableOf number).endedIn (machine.step.tableOf number)).map
    (machine.tableOf number).missesOf).sum

/-- How many events there were, if each step had so many. -/
def total (past : List Machine) (events : Machine → Nat) : Nat := (past.map events).sum

theorem total_cons (events : Machine → Nat) :
    total (machine :: past) events = events machine + total past events := by
  rw [total, total, List.map_cons, List.sum_cons]

theorem countP_callsPass (number : Nat) (past : List Machine) :
    past.countP (·.callsPass number) =
      past.countP (·.beginsPass number) + past.countP (·.putsOffPass number) := by
  induction past with
  | nil => rfl
  | cons machine past ih =>
      simp only [List.countP_cons, ih, beginsPass, putsOffPass]
      cases machine.callsPass number <;> cases machine.isInPass number <;> simp <;> omega

theorem ofNat_add_ite (count : Nat) (event : Bool) :
    UInt64.ofNat (count + if event then 1 else 0) =
      UInt64.ofNat count + if event then 1 else 0 := by
  cases event <;> simp

structure Accounted (number : Nat) (past : List Machine) (statistics : Statistics) : Prop where
  passes : statistics.passes = UInt64.ofNat (past.countP (·.beginsPass number))
  coalesced : statistics.coalesced = UInt64.ofNat (past.countP (·.putsOffPass number))
  dispatched : statistics.dispatched = UInt64.ofNat (past.countP (·.callsExecutor number))
  deadlineMisses : statistics.deadlineMisses =
    UInt64.ofNat (total past fun earlier => (earlier.missedNext number).length)
  repairs : statistics.repairs =
    UInt64.ofNat (total past fun earlier => (earlier.movedNext number).length)
  exhaustedRepairs : statistics.exhaustedRepairs =
    UInt64.ofNat (total past fun earlier => (earlier.restartedNext number).length)
  busyRejections : statistics.busyRejections =
    UInt64.ofNat (past.countP (·.refusesBusy number))

theorem Accounted.step {before after : Statistics} (accounted : Accounted number past before)
    (counts : machine.Counts number before after) : Accounted number (machine :: past) after where
  passes := by
    rw [counts.passes, accounted.passes, List.countP_cons, ofNat_add_ite]
    rfl
  coalesced := by
    rw [counts.coalesced, accounted.coalesced, List.countP_cons, ofNat_add_ite]
    rfl
  dispatched := by
    rw [counts.dispatched, accounted.dispatched, List.countP_cons, ofNat_add_ite]
  deadlineMisses := by
    rw [counts.deadlineMisses, accounted.deadlineMisses, total_cons, Nat.add_comm, UInt64.ofNat_add]
  repairs := by
    rw [counts.repairs, accounted.repairs, total_cons, Nat.add_comm, UInt64.ofNat_add]
  exhaustedRepairs := by
    rw [counts.exhaustedRepairs, accounted.exhaustedRepairs, total_cons, Nat.add_comm,
      UInt64.ofNat_add]
  busyRejections := by
    rw [counts.busyRejections, accounted.busyRejections, List.countP_cons, ofNat_add_ite]

theorem Trail.accounted (trail : Trail past machine) (number : Nat) :
    Accounted number past (machine.statisticsOf number) := by
  induction trail with
  | boot start => exact ⟨rfl, rfl, rfl, rfl, rfl, rfl, rfl⟩
  | start call interposed _ rest ih => exact ih
  | step trail ih => exact ih.step (trail.reachable.counts number)

theorem Trail.executions_le (trail : Trail past machine) (number : Nat) :
    past.countP (·.callsExecutor number) + (machine.focus number).awaiting ≤
      past.countP (·.beginsPass number) := by
  induction trail with
  | boot start => exact Nat.le_refl 0
  | start call interposed _ rest ih =>
      rw [focus_start _ call interposed number rest]
      exact ih
  | @step past machine trail ih =>
      have counts := trail.reachable.counts number
      have passes : (machine.step.focus number).statistics.passes =
          (machine.focus number).statistics.passes +
            if machine.beginsPass number then 1 else 0 := counts.passes
      have dispatched : (machine.step.focus number).statistics.dispatched =
          (machine.focus number).statistics.dispatched +
            if machine.callsExecutor number then 1 else 0 := counts.dispatched
      obtain ⟨done, _, move⟩ := step_moves machine number
      have apart (count : UInt64) : count + 1 ≠ count := by simp
      simp only [List.countP_cons]
      rcases move.awaiting fun held there => trail.reachable.tableSound there with
        ⟨begins, same, more⟩ | ⟨hands, same, fewer⟩ | ⟨same, fewer⟩
      · rw [begins] at passes
        rw [same] at dispatched
        cases begun : machine.beginsPass number <;> cases handed : machine.callsExecutor number <;>
          simp [begun, handed] at passes dispatched ⊢
        omega
      · rw [hands] at dispatched
        cases handed : machine.callsExecutor number
        · simp [handed] at dispatched
        · simp only [if_true]
          omega
      · rw [same] at dispatched
        cases handed : machine.callsExecutor number
        · simp only [Bool.false_eq_true, if_false]
          omega
        · simp [handed] at dispatched

theorem Reachable.step_misses (reachable : Reachable machine)
    (below : (machine.tableOf number).BelowLimit) :
    (machine.step.tableOf number).misses + machine.freedMisses number =
      (machine.tableOf number).misses + (machine.missedNext number).length := by
  have consistent : (machine.tableOf number).Consistent := reachable.tableOf_consistent
  apply consistent.misses_balance
  intro task
  obtain ⟨done, _, move⟩ := step_moves machine number
  cases found : machine.step.scheduler? number with
  | none =>
      have absent : machine.scheduler? number = none := move.absent found
      have same : machine.step.tableOf number = machine.tableOf number := by
        rw [tableOf, tableOf, found, absent]
      rw [same]
      exact TaskTable.Change.nothing.balancesAt consistent task
  | some later =>
      rw [tableOf_of_scheduler? found]
      rcases move.table_cases later found with
        ⟨absent, config, executor, rfl⟩ | ⟨earlier, there, _, same | ⟨part, next, _, worked⟩⟩
      · have before : machine.scheduler? number = none := absent
        have empty : machine.tableOf number = .empty 0 := by rw [tableOf, before]; rfl
        rw [empty]
        exact .of_kept List.not_mem_nil fun record made => by cases made
      · rw [tableOf_of_scheduler? there, same]
        exact TaskTable.Change.nothing.balancesAt (reachable.tableSound there).consistent task
      · rw [tableOf_of_scheduler? there] at below ⊢
        exact worked.balancesAt (reachable.tableSound there).consistent below task

/-- All misses of all tasks that ever lived. -/
theorem Trail.misses (trail : Trail past machine)
    (below : ∀ earlier ∈ past, (earlier.tableOf number).BelowLimit) :
    (machine.tableOf number).misses + total past (·.freedMisses number) =
      total past fun earlier => (earlier.missedNext number).length := by
  induction trail with
  | boot start => rfl
  | start call interposed _ rest ih => exact ih below
  | @step past machine trail ih =>
      have before := ih fun earlier member => below earlier (List.mem_cons_of_mem _ member)
      have stepped := trail.reachable.step_misses (below machine List.mem_cons_self)
      rw [total_cons, total_cons]
      omega

theorem restartedNext_le (machine : Machine) (number : Nat) :
    (machine.restartedNext number).length ≤ (machine.movedNext number).length := by
  unfold restartedNext movedNext
  split
  · unfold Section.restarted Section.moved
    split
    · exact List.length_filter_le _ _
    · exact Nat.le_refl 0
  · exact Nat.le_refl 0

theorem total_le (events others : Machine → Nat) (le : ∀ machine, events machine ≤ others machine)
    (past : List Machine) : total past events ≤ total past others := by
  induction past with
  | nil => exact Nat.le_refl 0
  | cons machine past ih =>
      rw [total_cons, total_cons]
      exact Nat.add_le_add (le machine) ih

theorem toNat_of_eq {counter : UInt64} {count : Nat} (same : counter = UInt64.ofNat count)
    (few : count < 2 ^ 64) : counter.toNat = count := by
  rw [same, UInt64.toNat_ofNat_of_lt' few]

/-- After any run each counter of a scheduler stands at the number of events of its kind. -/
theorem statistics_account_for_events (trail : Trail past machine)
    (found : machine.scheduler? number = some scheduler) :
    (past.countP (·.callsExecutor number) < 2 ^ 64 →
      scheduler.statistics.dispatched.toNat = past.countP (·.callsExecutor number)) ∧
    (past.countP (·.callsPass number) < 2 ^ 64 →
      scheduler.statistics.passes.toNat + scheduler.statistics.coalesced.toNat =
          past.countP (·.callsPass number) ∧
        scheduler.statistics.dispatched.toNat ≤ scheduler.statistics.passes.toNat) ∧
    (total past (fun earlier => (earlier.missedNext number).length) < 2 ^ 64 →
      scheduler.statistics.deadlineMisses.toNat =
        total past fun earlier => (earlier.missedNext number).length) ∧
    ((∀ earlier ∈ past, (earlier.tableOf number).BelowLimit) →
      total past (fun earlier => (earlier.missedNext number).length) =
        scheduler.table.misses + total past (·.freedMisses number)) ∧
    (total past (fun earlier => (earlier.movedNext number).length) < 2 ^ 64 →
      scheduler.statistics.repairs.toNat =
          total past (fun earlier => (earlier.movedNext number).length) ∧
        scheduler.statistics.exhaustedRepairs.toNat =
          total past (fun earlier => (earlier.restartedNext number).length) ∧
        scheduler.statistics.exhaustedRepairs.toNat ≤ scheduler.statistics.repairs.toNat) ∧
    (past.countP (·.refusesBusy number) < 2 ^ 64 →
      scheduler.statistics.busyRejections.toNat = past.countP (·.refusesBusy number)) := by
  have accounted := trail.accounted number
  rw [statisticsOf_of_scheduler? found] at accounted
  have once := trail.executions_le number
  have called := countP_callsPass number past
  have fewer := total_le _ _ (restartedNext_le · number) past
  refine ⟨toNat_of_eq accounted.dispatched, fun few => ?_, toNat_of_eq accounted.deadlineMisses,
    fun below => ?_, fun few => ?_, toNat_of_eq accounted.busyRejections⟩
  · have passes := toNat_of_eq accounted.passes (by omega)
    have coalesced := toNat_of_eq accounted.coalesced (by omega)
    have dispatched := toNat_of_eq accounted.dispatched (by omega)
    omega
  · have misses := trail.misses below
    rw [tableOf_of_scheduler? found] at misses
    exact misses.symm
  · have repairs := toNat_of_eq accounted.repairs few
    have exhausted := toNat_of_eq accounted.exhaustedRepairs (by omega)
    omega

/-- Of three tasks two are late when a pass comes to them, and the third one tries to end itself;
then the one that was given up is freed. -/
def belated : List (Nat × Call) :=
  let create (calls : Script) : Call := .scheduler 0 (.create [⟨calls, .done⟩] .default)
  let insert (index : Nat) (us : UInt64) : Call := .scheduler 0 (.insert (some ⟨index, 0⟩) 0 us)
  [(4, .scheduler 0 (.retire (some ⟨0, 0⟩))), (24, .scheduler 0 .runPass),
    (1, .platform (.setClock 2000)), (4, insert 2 5000), (4, insert 1 1000), (4, insert 0 1000),
    (4, create [.scheduler 0 (.retire none)]), (4, create []), (4, create []),
    (1, .init ⟨1000000, 0, 7, 3⟩ .inline)]

/-- One task ran, one was given up and freed, one was realigned, and one refused. -/
theorem belated_accounted :
    ∃ scheduler, (session belated).2.scheduler? 0 = some scheduler ∧
      scheduler.statistics = ⟨1, 0, 1, 1, 1, 0, 1⟩ ∧ scheduler.table.misses = 0 ∧
      scheduler.statistics.dispatched.toNat =
        (session belated).1.countP (·.callsExecutor 0) ∧
      scheduler.statistics.passes.toNat + scheduler.statistics.coalesced.toNat =
        (session belated).1.countP (·.callsPass 0) ∧
      scheduler.statistics.deadlineMisses.toNat =
        scheduler.table.misses + total (session belated).1 (·.freedMisses 0) ∧
      scheduler.statistics.repairs.toNat =
        total (session belated).1 (fun earlier => (earlier.movedNext 0).length) ∧
      scheduler.statistics.busyRejections.toNat =
        (session belated).1.countP (·.refusesBusy 0) := by
  have trail : Trail (session belated).1 (session belated).2 := session_trail belated (by decide)
  have found : (session belated).2.scheduler? 0 = some _ := rfl
  obtain ⟨executed, passed, missed, kept, moved, refused⟩ :=
    statistics_account_for_events trail found
  have below : ∀ earlier ∈ (session belated).1, (earlier.tableOf 0).BelowLimit := by
    have slots : ∀ earlier ∈ (session belated).1, (earlier.tableOf 0).slots.all (fun slot =>
        slot.record.all fun record => record.missedDeadlines.toNat < 4294967295) = true := by decide
    exact fun earlier member => TaskTable.belowLimit_of_slots (slots earlier member)
  refine ⟨_, found, by decide, by decide, executed (by decide), (passed (by decide)).1, ?_,
    (moved (by decide)).1, refused (by decide)⟩
  exact (missed (by decide)).trans (kept below)

end Machine

end EdfKernel
