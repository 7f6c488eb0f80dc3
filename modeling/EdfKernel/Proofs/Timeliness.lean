import EdfKernel.Proofs.Candidates
import EdfKernel.Proofs.Lapses
import EdfKernel.Proofs.PassRequests
import EdfKernel.Proofs.Withdrawal

/-!
A pass chooses a task under one hold of the lock and takes it under another. The task
that it chooses can still start in time, and stays so for the instant that the pass read,
whatever others do to it in between, with two exceptions: the second section looks at the
state and the start of the task again, but not at its deadline, so a caller who inserts the
task or changes its settings meanwhile can have it run too late.
-/

namespace EdfKernel

namespace TaskTable

variable {ω : Type}

/-- If the task is queued, it can still start in time at `current`. -/
def Timely (table : TaskTable ω) (current : Ticks) (task : TaskHandle) : Prop :=
  ∀ record, table.find? task = some record → record.state = .queued →
    record.timing.isMissed current = false

def KeepsTiming (table after : TaskTable ω) (task : TaskHandle) : Prop :=
  ∀ record, after.find? task = some record → record.state = .queued →
    ∃ earlier, table.find? task = some earlier ∧ earlier.state = .queued ∧
      earlier.timing = record.timing

theorem KeepsTiming.of_same {table after : TaskTable ω} {task : TaskHandle}
    (same : after.find? task = table.find? task) : table.KeepsTiming after task := by
  intro record found queued
  exact ⟨record, same ▸ found, queued, rfl⟩

theorem KeepsTiming.timely {table after : TaskTable ω} {task : TaskHandle} {current : Ticks}
    (keeps : table.KeepsTiming after task) (timely : table.Timely current task) :
    after.Timely current task := by
  intro record found queued
  obtain ⟨earlier, here, before, same⟩ := keeps record found queued
  exact same ▸ timely earlier here before

theorem KeepsTiming.withdraw {table : TaskTable ω} (task other : TaskHandle)
    (f : TaskRecord ω → TaskRecord ω) (out : ∀ record, (f record).state ≠ .queued) :
    table.KeepsTiming ((table.update other f).dequeue other) task := by
  by_cases same : task = other
  · intro record found queued
    rw [find?_dequeue, find?_update, if_pos same] at found
    obtain ⟨earlier, _, rfl⟩ := Option.map_eq_some_iff.mp found
    exact absurd queued (out earlier)
  · apply KeepsTiming.of_same
    rw [find?_dequeue, find?_update, if_neg same]

end TaskTable

namespace Section

/-- A caller's section that chooses a new window or budget for the task. -/
def retimes (task : TaskHandle) : Section → Bool
  | insert other _ _ | configure other _ => other = task
  | _ => false

theorem change_keepsTiming (scheduler : Scheduler)
    (result : Except SchedulerError (TaskTable Work)) (task : TaskHandle)
    (kept : ∀ after, result = .ok after → scheduler.table.KeepsTiming after task) :
    scheduler.table.KeepsTiming (Effect.change scheduler result).scheduler.table task := by
  cases result with
  | error error =>
      apply TaskTable.KeepsTiming.of_same
      obtain ⟨statistics, same⟩ := refuse_scheduler scheduler error
      change (scheduler.refuse error).table.find? task = _
      rw [same]
  | ok after => exact kept after rfl

theorem refusal_keepsTiming (scheduler : Scheduler) (error : SchedulerError)
    (task : TaskHandle) :
    scheduler.table.KeepsTiming (Effect.refusal scheduler error).scheduler.table task :=
  change_keepsTiming scheduler (.error error) task nofun

theorem create_keepsTiming (scheduler : Scheduler) (consistent : scheduler.table.Consistent)
    (work : Work) (settings : TaskSettings) (task : TaskHandle) :
    scheduler.table.KeepsTiming (Effect.create scheduler work settings).scheduler.table task := by
  unfold Effect.create Scheduler.create
  cases taken : scheduler.table.alloc (.fresh work settings) with
  | none => exact refusal_keepsTiming scheduler _ task
  | some pair =>
      obtain ⟨made, after⟩ := pair
      intro record found queued
      change after.find? task = some record at found
      rw [TaskTable.find?_alloc consistent taken] at found
      split at found
      · cases found
        cases queued
      · exact ⟨record, found, queued, rfl⟩

theorem effect_keepsTiming (part : Section) (called : part.isCall = true) (scheduler : Scheduler)
    (consistent : scheduler.table.Consistent) (number : Nat) (clock : Ticks) (pipelines : Nat)
    (task : TaskHandle) (apart : part.retimes task = false) :
    scheduler.table.KeepsTiming
      (part.effect scheduler number clock pipelines).scheduler.table task := by
  cases part with
  | create routine settings => exact create_keepsTiming scheduler consistent _ settings task
  | createPipeline desc routine =>
      obtain ⟨_, same⟩ := (createPipeline desc routine).newcomer_effect scheduler number clock
        pipelines _ _ rfl
      rw [same]
      exact create_keepsTiming scheduler consistent _ _ task
  | configure other settings =>
      apply change_keepsTiming
      intro after done
      obtain ⟨record, found, idle, rfl⟩ := TaskTable.idle?_map_eq_ok done
      apply TaskTable.KeepsTiming.of_same
      rw [TaskTable.find?_update, if_neg (Ne.symm (of_decide_eq_false apart))]
  | retire other =>
      simp only [effect, Effect.retire]
      cases done : scheduler.table.retire other with
      | error error => exact refusal_keepsTiming scheduler error task
      | ok after =>
          obtain ⟨record, found, idle, rfl⟩ := TaskTable.idle?_map_eq_ok done
          intro held here queued
          change (scheduler.table.release other).find? task = some held at here
          rw [TaskTable.find?_release found] at here
          split at here
          · cases here
          · exact ⟨held, here, queued, rfl⟩
  | insert other startUs deadlineUs =>
      simp only [effect, Effect.insert]
      cases done : scheduler.table.insert scheduler.config clock other startUs deadlineUs with
      | error error => exact refusal_keepsTiming scheduler error task
      | ok pair =>
          obtain ⟨window, after⟩ := pair
          obtain ⟨record, found, _, _, rfl⟩ := TaskTable.insert_cases done
          apply TaskTable.KeepsTiming.of_same
          change TaskTable.find? (TaskTable.enqueue _ other) task = _
          rw [TaskTable.find?_enqueue, TaskTable.find?_update,
            if_neg (Ne.symm (of_decide_eq_false apart))]
  | cancel other =>
      apply change_keepsTiming
      intro after done
      obtain ⟨record, found, idle, rfl⟩ := TaskTable.idle?_map_eq_ok done
      exact .withdraw task other _ (by simp [TaskRecord.cancel])
  | complete other =>
      apply change_keepsTiming
      intro after done
      unfold TaskTable.complete at done
      split at done
      · cases done
      · cases done
        exact .withdraw task other _ (by simp)
  | inspect | queued | queuedLength | describe => exact .of_same rfl
  | check other =>
      simp only [effect, Effect.check]
      split
      · exact refusal_keepsTiming scheduler _ task
      · exact .of_same rfl
  | checkDeadline pipeline other =>
      simp only [effect, Effect.checkDeadline]
      split <;> exact .of_same rfl
  | _ => cases called

end Section

namespace Activity

def isSelect : Activity → Bool
  | acquire _ (.select _) | enter _ (.select _) => true
  | _ => false

/-- The task that a pass is about to take, and the instant at which it chose it. -/
def target? : Activity → Option (Ticks × TaskHandle)
  | acquire _ (.dispatch _ current task) | enter _ (.dispatch _ current task) =>
      some (current, task)
  | _ => none

theorem isSelect_enter (number : Nat) (part : Section) :
    (enter number part).isSelect = (acquire number part).isSelect := by
  cases part <;> rfl

theorem target?_enter (number : Nat) (part : Section) :
    (enter number part).target? = (acquire number part).target? := by
  cases part <;> rfl

theorem isLink_of_isSelect {activity : Activity} (selects : activity.isSelect = true) :
    activity.isLink = true := by
  cases activity with
  | acquire number part | enter number part => cases part <;> first | rfl | cases selects
  | _ => cases selects

theorem isLink_of_target? {activity : Activity} {target : Ticks × TaskHandle}
    (aims : activity.target? = some target) : activity.isLink = true := by
  cases activity with
  | acquire number part | enter number part => cases part <;> first | rfl | cases aims
  | _ => cases aims

end Activity

/-- The pass under way has chosen. What it is about to take it chose at `current`, and that
task is in time for this instant, unless it was `retimed` since. -/
structure Focus.Chosen (focus : Focus) (current : Ticks) (retimed : TaskHandle → Prop) :
    Prop where
  chosen : ∀ duty ∈ focus.duties, duty.isSelect = false
  timely : ∀ duty ∈ focus.duties, ∀ instant task, duty.target? = some (instant, task) →
    instant = current ∧
      (retimed task ∨ ∀ scheduler, focus.scheduler = some scheduler →
        scheduler.table.Timely current task)

namespace Focus.Chosen

variable {scheduler : Option Scheduler} {activity : Activity} {duties : List Activity}
  {current : Ticks} {retimed : TaskHandle → Prop}

theorem mono {focus : Focus} (chosen : focus.Chosen current retimed)
    {others : TaskHandle → Prop} (further : ∀ task, retimed task → others task) :
    focus.Chosen current others where
  chosen := chosen.chosen
  timely duty member instant task aims := by
    obtain ⟨same, reason⟩ := chosen.timely duty member instant task aims
    exact ⟨same, reason.imp_left (further task)⟩

theorem cons (rest : Chosen ⟨scheduler, duties⟩ current retimed)
    (blank : activity.isSelect = false ∧ activity.target? = none) :
    Chosen ⟨scheduler, activity :: duties⟩ current retimed where
  chosen duty member := by
    rcases List.mem_cons.mp member with rfl | later
    · exact blank.1
    · exact rest.chosen duty later
  timely duty member instant task aims := by
    rcases List.mem_cons.mp member with rfl | later
    · rw [blank.2] at aims
      cases aims
    · exact rest.timely duty later instant task aims

theorem tail (chosen : Chosen ⟨scheduler, activity :: duties⟩ current retimed) :
    Chosen ⟨scheduler, duties⟩ current retimed where
  chosen duty member := chosen.chosen duty (List.mem_cons_of_mem _ member)
  timely duty member := chosen.timely duty (List.mem_cons_of_mem _ member)

theorem of_table {earlier later : Scheduler}
    (chosen : Chosen ⟨some earlier, duties⟩ current retimed) (table : later.table = earlier.table) :
    Chosen ⟨some later, duties⟩ current retimed where
  chosen := chosen.chosen
  timely duty member instant task aims := by
    obtain ⟨same, reason⟩ := chosen.timely duty member instant task aims
    refine ⟨same, reason.imp_right fun timely scheduler held => ?_⟩
    cases held
    exact table ▸ timely earlier rfl

theorem acquire {number : Nat} {part : Section}
    (chosen : Chosen ⟨scheduler, .acquire number part :: duties⟩ current retimed) :
    Chosen ⟨scheduler, .enter number part :: duties⟩ current retimed where
  chosen duty member := by
    rcases List.mem_cons.mp member with rfl | later
    · rw [Activity.isSelect_enter]
      exact chosen.chosen _ List.mem_cons_self
    · exact chosen.chosen duty (List.mem_cons_of_mem _ later)
  timely duty member instant task aims := by
    rcases List.mem_cons.mp member with rfl | later
    · rw [Activity.target?_enter] at aims
      exact chosen.timely _ List.mem_cons_self instant task aims
    · exact chosen.timely duty (List.mem_cons_of_mem _ later) instant task aims

end Focus.Chosen

theorem Worked.next_blank {number : Nat} {clock : Ticks} {table after : TaskTable Work}
    {part : Section} {next : List Activity} (worked : Worked number clock table part after next)
    (selected : (Activity.enter number part).isSelect = false) :
    ∀ duty ∈ next, duty.isSelect = false ∧ duty.target? = none := by
  intro duty member
  cases worked with
  | call | looked => cases member
  | idle | due => cases selected
  | abandoned | claimed | finished | asked | refused | readmitted =>
      cases List.mem_singleton.mp member
      exact ⟨rfl, rfl⟩

theorem Section.effect_timely (part : Section) (beside : part.isPass = false)
    (scheduler : Scheduler) (consistent : scheduler.table.Consistent) (number : Nat)
    (clock : Ticks) (pipelines : Nat) {current : Ticks} {task : TaskHandle}
    (apart : part.retimes task = false) (timely : scheduler.table.Timely current task) :
    (part.effect scheduler number clock pipelines).scheduler.table.Timely current task := by
  by_cases called : part.isCall = true
  · exact (part.effect_keepsTiming called scheduler consistent number clock pipelines task
      apart).timely timely
  · cases part with
    | wake outcome next =>
        simp only [effect, Effect.wake_scheduler]
        exact timely
    | select | dispatch | finish | reinsert => cases beside
    | _ => exact absurd rfl called

theorem Focus.Chosen.enter {number : Nat} {scheduler : Scheduler} {duties : List Activity}
    {part : Section} {current : Ticks} {retimed : TaskHandle → Prop}
    (chosen : Chosen ⟨some scheduler, .enter number part :: duties⟩ current retimed)
    (consistent : scheduler.table.Consistent)
    (excluded : Focus.Excluded ⟨some scheduler, .enter number part :: duties⟩)
    (clock : Ticks) (pipelines : Nat) (noted : ∀ task, part.retimes task = true → retimed task) :
    Chosen
      ⟨some { (part.effect scheduler number clock pipelines).scheduler with locked := true },
        .leave number ::
          ((part.effect scheduler number clock pipelines).next.filter
            fun activity => activity.isDuty number) ++ duties⟩ current retimed := by
  obtain ⟨_, worked⟩ := part.effect_done scheduler number clock pipelines
  have fresh := worked.next_blank (chosen.chosen _ List.mem_cons_self)
  constructor
  · intro duty member
    rcases List.mem_cons.mp member with rfl | more
    · rfl
    · rcases List.mem_append.mp more with made | later
      · exact (fresh duty made).1
      · exact chosen.tail.chosen duty later
  · intro duty member instant task aims
    rcases List.mem_cons.mp member with rfl | more
    · cases aims
    rcases List.mem_append.mp more with made | later
    · rw [(fresh duty made).2] at aims
      cases aims
    obtain ⟨same, reason⟩ := chosen.tail.timely duty later instant task aims
    refine ⟨same, ?_⟩
    rcases reason with before | timely
    · exact .inl before
    -- The section is not one of the pass, which is waiting for the lock behind it.
    have beside : part.isPass = false := by
      cases pass : part.isPass with
      | false => rfl
      | true =>
          obtain ⟨_, _, _, alone, _⟩ := excluded.of_link pass
          exact absurd (Activity.isLink_of_target? aims)
            (List.filter_eq_nil_iff.mp alone duty later)
    cases apart : part.retimes task with
    | true => exact .inl (noted task apart)
    | false =>
        right
        intro held here
        cases here
        exact part.effect_timely beside scheduler consistent number clock pipelines apart
          (timely scheduler rfl)

/-- While a pass is under way, a move keeps its choice timely, unless it retimes the task. -/
theorem Move.chosen {number : Nat} {clock : Ticks} {pipelines : Nat} {done : Option Activity}
    {before after : Focus} (move : Move number clock pipelines done before after)
    (sound : ∀ scheduler, before.scheduler = some scheduler → scheduler.TableSound)
    (excluded : before.Excluded)
    (busy : ∃ scheduler, before.scheduler = some scheduler ∧ scheduler.inPass = true)
    {current : Ticks} {retimed : TaskHandle → Prop} (chosen : before.Chosen current retimed)
    (noted : ∀ part task, done = some (.enter number part) → part.retimes task = true →
      retimed task) :
    after.Chosen current retimed := by
  cases move with
  | rest => exact chosen
  | setUp config executor duties valid =>
      obtain ⟨scheduler, absent, _⟩ := busy
      cases absent
  | drop | coalesce => exact chosen.of_table rfl
  | leave => exact chosen.tail.of_table rfl
  | begin scheduler duties wakes idle =>
      obtain ⟨held, same, inPass⟩ := busy
      cases same
      rw [idle] at inPass
      cases inPass
  | ask scheduler duties part called =>
      refine chosen.cons ?_
      cases part <;> first | exact ⟨rfl, rfl⟩ | cases called
  | acquire => exact chosen.acquire
  | enter scheduler duties part free =>
      exact chosen.enter (sound scheduler rfl).consistent excluded clock pipelines
        fun task => noted part task rfl
  | hand | skip => exact .cons (chosen.tail.of_table rfl) ⟨rfl, rfl⟩
  | run | spare | back => exact .cons chosen.tail ⟨rfl, rfl⟩
  | conclude => exact chosen.tail.of_table rfl
  | lookUp => exact .cons (chosen.tail.of_table rfl) ⟨rfl, rfl⟩
  | vanish => exact chosen.tail

namespace Section

theorem select_aims (scheduler : Scheduler) (number : Nat) (clock : Ticks) (wakes : Bool) :
    ∀ duty ∈ (Effect.select scheduler number clock wakes).next, duty.isSelect = false ∧
      ∀ instant task, duty.target? = some (instant, task) → instant = clock ∧
        (Effect.select scheduler number clock wakes).scheduler.table.Timely clock task := by
  have table : (Effect.select scheduler number clock wakes).scheduler.table =
      (scheduler.table.select clock).table := by
    unfold Effect.select
    dsimp only
    split
    · rfl
    · split <;> rfl
  intro duty member
  rw [table]
  simp only [Effect.select] at member
  split at member
  case h_1 =>
    cases List.mem_singleton.mp member
    exact ⟨rfl, fun _ _ aims => by cases aims⟩
  case h_2 chosen start found =>
    split at member
    case isTrue =>
      cases List.mem_singleton.mp member
      exact ⟨rfl, fun _ _ aims => by cases aims⟩
    case isFalse =>
      cases List.mem_singleton.mp member
      refine ⟨rfl, fun instant task aims => ?_⟩
      cases aims
      refine ⟨rfl, fun record here queued => ?_⟩
      obtain ⟨next, choice, rest⟩ := Option.bind_eq_some_iff.mp found
      obtain ⟨_, _, same⟩ := Option.map_eq_some_iff.mp rest
      cases same
      obtain ⟨held, there, _, early⟩ := scheduler.table.select_choosesInTime clock _ choice
      cases here.symm.trans there
      exact early

end Section

namespace Machine

variable {machine first : Machine} {number : Nat} {scheduler : Scheduler}

def isRetimedNext (machine : Machine) (number : Nat) (task : TaskHandle) : Bool :=
  match machine.agenda with
  | .enter other part :: _ => other = number && part.retimes task
  | _ => false

/-- The pass has just marked the task running, and hands it to the executor next. -/
def HandsOver (machine : Machine) (number : Nat) (current : Ticks) (task : TaskHandle) : Prop :=
  (∃ run work rest, machine.agenda = .leave number :: .execute number run work :: rest ∧
    run.task = task ∧ run.current = current) ∧
    ∃ record, (machine.focus number).record? task = some record ∧ record.state = .running

theorem Reachable.step_select (reachable : Reachable machine) {wakes : Bool}
    {rest : List Activity} (agenda : machine.agenda = .enter number (.select wakes) :: rest)
    (found : machine.scheduler? number = some scheduler) (free : scheduler.locked = false) :
    (machine.step.focus number).Chosen machine.clock fun _ => False := by
  obtain ⟨stepped, _⟩ := step_enter machine number (.select wakes) rest scheduler agenda found free
  have follows := agenda_step_enter agenda found free
  have aims := Section.select_aims scheduler number machine.clock wakes
  have excluded := reachable.excluded number
  rw [focus, duties_cons agenda rfl] at excluded
  obtain ⟨_, _, _, alone, _⟩ := excluded.of_link rfl
  have others (duty : Activity) (member : duty ∈ machine.step.duties number) :
      duty = .leave number ∨ duty ∈ (Effect.select scheduler number machine.clock wakes).next ∨
        duty.isLink = false := by
    obtain ⟨there, mine⟩ := List.mem_filter.mp member
    rw [follows] at there
    rcases List.mem_cons.mp there with leaves | more
    · exact .inl leaves
    · rcases List.mem_append.mp more with made | later
      · exact .inr (.inl made)
      · right
        right
        have unlinked := List.filter_eq_nil_iff.mp alone duty (List.mem_filter.mpr ⟨later, mine⟩)
        simpa using unlinked
  constructor
  · intro duty member
    rcases others duty member with rfl | made | unlinked
    · rfl
    · exact (aims duty made).1
    · cases select : duty.isSelect with
      | false => rfl
      | true =>
          rw [Activity.isLink_of_isSelect select] at unlinked
          cases unlinked
  · intro duty member instant task target
    rcases others duty member with rfl | made | unlinked
    · cases target
    · obtain ⟨same, timely⟩ := (aims duty made).2 instant task target
      refine ⟨same, .inr fun held holds => ?_⟩
      cases stepped.symm.trans holds
      exact timely
    · rw [Activity.isLink_of_target? target] at unlinked
      cases unlinked

theorem Reachable.run_chosen (reachable : Reachable first) {wakes : Bool}
    {rest : List Activity} (agenda : first.agenda = .enter number (.select wakes) :: rest)
    (found : first.scheduler? number = some scheduler) (free : scheduler.locked = false)
    (steps : Nat) (underWay : ∀ k < steps, (first.run (k + 1)).isInPass number = true) :
    ((first.run (steps + 1)).focus number).Chosen first.clock fun task =>
      ∃ k < steps, (first.run (k + 1)).isRetimedNext number task = true := by
  induction steps with
  | zero =>
      rw [run_succ]
      exact (reachable.step_select agenda found free).mono fun _ never => never.elim
  | succ steps ih =>
      have before := ih fun k less => underWay k (Nat.lt_succ_of_lt less)
      have here := reachable.run (steps + 1)
      rw [run_add, run_succ]
      change ((first.run (steps + 1)).step.focus number).Chosen _ _
      obtain ⟨done, comes, move⟩ := step_moves (first.run (steps + 1)) number
      have busy := isInPass_iff.mp (underWay steps (Nat.lt_succ_self steps))
      apply move.chosen (fun held holds => here.tableSound holds) (here.excluded number) busy
      · apply before.mono
        rintro task ⟨k, less, retimed⟩
        exact ⟨k, Nat.lt_succ_of_lt less, retimed⟩
      · intro part task enters retimes
        obtain ⟨ahead, next⟩ := comes _ enters
        exact ⟨steps, Nat.lt_succ_self steps, by simp [isRetimedNext, next, retimes]⟩

theorem handsOver_iff (reachable : Reachable machine) {wakes : Bool} {current : Ticks}
    {task : TaskHandle} {rest : List Activity}
    (agenda : machine.agenda = .enter number (.dispatch wakes current task) :: rest)
    (found : machine.scheduler? number = some scheduler) (free : scheduler.locked = false) :
    machine.step.HandsOver number current task ↔
      ∃ record, scheduler.table.find? task = some record ∧ record.state = .queued ∧
        record.timing.start ≤ current := by
  have follows := agenda_step_enter agenda found free
  obtain ⟨stepped, _⟩ := step_enter machine number _ rest scheduler agenda found free
  simp only [Section.effect, Effect.dispatch] at follows stepped
  cases taken : scheduler.table.claim current task with
  | none =>
      rw [taken] at follows
      constructor
      · rintro ⟨⟨run, work, more, same, _⟩, _⟩
        rw [follows] at same
        cases same
      · rintro ⟨record, here, queued, due⟩
        simp [TaskTable.claim, here, queued, due] at taken
  | some pair =>
      obtain ⟨work, after⟩ := pair
      obtain ⟨record, here, queued, due, _, rfl⟩ := TaskTable.claim_cases taken
      rw [taken] at follows stepped
      refine ⟨fun _ => ⟨record, here, queued, due⟩, fun _ => ⟨⟨_, _, _, follows, rfl, rfl⟩, ?_⟩⟩
      have consistent := ((reachable.tableSound found).consistent.claim taken)
      have claimed := TaskTable.find?_claim taken task
      rw [if_pos rfl, here] at claimed
      obtain ⟨held, there, running⟩ :=
        TaskTable.select_running consistent current claimed rfl
      refine ⟨held, ?_, running⟩
      rw [Focus.record?, focus, stepped]
      exact there

/-- When a pass marks its task running, the task is live and queued, and its start has come
by the instant that the pass read; this instant is before the effective deadline, unless
the task was inserted or configured after the pass chose it. -/
theorem dispatch_timely_unless_retimed (reachable : Reachable first) {wakes : Bool}
    {rest : List Activity} (agenda : first.agenda = .enter number (.select wakes) :: rest)
    (found : first.scheduler? number = some scheduler) (free : scheduler.locked = false)
    {steps : Nat} (underWay : ∀ k < steps, (first.run (k + 1)).isInPass number = true)
    {wakes' : Bool} {current : Ticks} {task : TaskHandle} {ahead : List Activity}
    (arrives : (first.run (steps + 1)).agenda =
      .enter number (.dispatch wakes' current task) :: ahead)
    {holder : Scheduler} (held : (first.run (steps + 1)).scheduler? number = some holder)
    (unlocked : holder.locked = false) :
    current = first.clock ∧
      ((first.run (steps + 2)).HandsOver number current task ↔
        ∃ record, holder.table.find? task = some record ∧ record.state = .queued ∧
          record.timing.start ≤ current) ∧
      ((first.run (steps + 2)).HandsOver number current task →
        (∃ record, holder.table.find? task = some record ∧
          current < record.timing.effectiveDeadline) ∨
        ∃ k < steps, (first.run (k + 1)).isRetimedNext number task = true) := by
  have chosen := reachable.run_chosen agenda found free steps underWay
  have target : Activity.enter number (.dispatch wakes' current task) ∈
      (first.run (steps + 1)).duties number := by
    rw [duties_cons arrives rfl]
    exact List.mem_cons_self
  obtain ⟨same, reason⟩ := chosen.timely _ target current task rfl
  have next : first.run (steps + 2) = (first.run (steps + 1)).step := by
    rw [run_add first (steps + 1) 1, run_succ]
    rfl
  have hands := handsOver_iff (reachable.run (steps + 1)) arrives held unlocked
  rw [next]
  refine ⟨same, hands, fun taken => ?_⟩
  obtain ⟨record, here, queued, _⟩ := hands.mp taken
  rcases reason with retimed | timely
  · exact .inr retimed
  · left
    refine ⟨record, here, ?_⟩
    have early := timely holder held record here queued
    rw [same]
    exact UInt64.not_le.mp (of_decide_eq_false early)

/-- A pass is about to choose a task that is due, and nobody interposes. -/
def punctual : Machine := (recurring.start (.scheduler 0 .runPass) fun _ => none).run 2

theorem punctual_in_time :
    (punctual.run 4).HandsOver 0 0 ⟨0, 0⟩ ∧
      ∃ holder record, (punctual.run 3).scheduler? 0 = some holder ∧
        holder.table.find? ⟨0, 0⟩ = some record ∧ 0 < record.timing.effectiveDeadline := by
  have reachable : Reachable punctual := .run (.start _ _ recurring_reachable rfl) 2
  have agenda : punctual.agenda = [.enter 0 (.select false)] := rfl
  have found : punctual.scheduler? 0 = some _ := rfl
  have underWay : ∀ k < 2, (punctual.run (k + 1)).isInPass 0 = true := by decide
  have arrives : (punctual.run 3).agenda = [.enter 0 (.dispatch false 0 ⟨0, 0⟩)] := rfl
  have held : (punctual.run 3).scheduler? 0 = some _ := rfl
  obtain ⟨_, hands, timely⟩ :=
    dispatch_timely_unless_retimed reachable agenda found rfl underWay arrives held rfl
  have taken := hands.mpr ⟨_, rfl, rfl, by decide⟩
  refine ⟨taken, ?_⟩
  rcases timely taken with ⟨record, here, early⟩ | ⟨k, less, retimed⟩
  · exact ⟨_, record, held, here, early⟩
  · have never : ∀ k < 2, (punctual.run (k + 1)).isRetimedNext 0 ⟨0, 0⟩ = false := by decide
    rw [never k less] at retimed
    cases retimed

/-- Between the two sections somebody gives the chosen task a budget as long as its window. -/
def overcommitted : Machine :=
  (recurring.start (.scheduler 0 .runPass)
    (interposeAt 2 [.scheduler 0 (.configure (some ⟨0, 0⟩) ⟨1000, 0, 0⟩)])).run 12

/-- It is past its effective deadline then, and is run all the same. -/
theorem overcommitted_runs_late :
    ¬ ∀ (machine : Machine) (wakes : Bool) (current : Ticks) (task : TaskHandle)
      (rest : List Activity) (scheduler : Scheduler) (record : TaskRecord Work),
      Reachable machine →
      machine.agenda = .enter 0 (.dispatch wakes current task) :: rest →
      machine.scheduler? 0 = some scheduler → scheduler.locked = false →
      machine.step.HandsOver 0 current task → scheduler.table.find? task = some record →
      current < record.timing.effectiveDeadline := by
  intro law
  have reachable : Reachable overcommitted := .run (.start _ _ recurring_reachable rfl) 12
  have hands : overcommitted.step.HandsOver 0 0 ⟨0, 0⟩ :=
    ⟨⟨_, _, _, rfl, rfl, rfl⟩, ⟨_, rfl, rfl⟩⟩
  have early := law overcommitted false 0 ⟨0, 0⟩ [] _ _ reachable rfl rfl rfl hands rfl
  exact absurd early (by decide)

end Machine

end EdfKernel
