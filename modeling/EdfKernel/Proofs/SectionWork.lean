import EdfKernel.Proofs.Moves
import EdfKernel.Proofs.TableChange

/-!
What a section does to the scheduler whose lock it holds: `Worked` lists what it
can make of the table and what it leaves to do. Together with `Move` this is all
that can happen to a scheduler, and a law about its states and duties is proved
move by move.
-/

namespace EdfKernel

namespace Work

def routine : Work → Routine
  | task routine | copy _ routine => routine

end Work

namespace Section

def routine? : Section → Option Routine
  | create routine _ | createPipeline _ routine => some routine
  | _ => none

end Section

namespace Focus

def record? (focus : Focus) (task : TaskHandle) : Option (TaskRecord Work) :=
  focus.scheduler.bind fun scheduler => scheduler.table.find? task

end Focus

/-- What a section at `clock` can make of a table, and what it leaves to do on
its scheduler. -/
inductive Worked (number : Nat) (clock : Ticks) (table : TaskTable Work) :
    Section → TaskTable Work → List Activity → Prop where
  | call (part : Section) (admits : Option TaskHandle) (brings : Option Work)
      (after : TaskTable Work) (called : part.isCall = true)
      (change : table.Change admits brings after)
      (asked : ∀ task, admits = some task →
        ∃ startUs deadlineUs, part = .insert task startUs deadlineUs)
      (made : ∀ work, brings = some work → part.routine? = some work.routine) :
      Worked number clock table part after []
  | idle (wakes : Bool) (next : Option TaskHandle) :
      Worked number clock table (.select wakes) (table.select clock).table
        [.conclude number wakes ⟨none, next⟩]
  | due (wakes : Bool) (task : TaskHandle) :
      Worked number clock table (.select wakes) (table.select clock).table
        [.acquire number (.dispatch wakes clock task)]
  | abandoned (wakes : Bool) (current : Ticks) (task : TaskHandle)
      (lost : table.claim current task = none) :
      Worked number clock table (.dispatch wakes current task) table
        [.conclude number wakes .idle]
  | claimed (wakes : Bool) (current : Ticks) (task : TaskHandle) (work : Option Work)
      (after : TaskTable Work) (taken : table.claim current task = some (work, after)) :
      Worked number clock table (.dispatch wakes current task) (after.select current).table
        [.execute number ⟨task, current, (after.select current).selection.next, wakes⟩ work]
  | finished (run : Dispatch) (work : Option Work) (status : WorkStatus) :
      Worked number clock table (.finish run work status) (table.finish run.task work).2
        [.conclude number run.wake run.outcome]
  | asked (run : Dispatch) (work : Option Work) (startUs deadlineUs : UInt64)
      (running : (table.finish run.task work).1 = true) :
      Worked number clock table (.finish run work (.reschedule startUs deadlineUs))
        (table.finish run.task work).2 [.acquire number (.reinsert run startUs deadlineUs)]
  | refused (run : Dispatch) (startUs deadlineUs : UInt64) :
      Worked number clock table (.reinsert run startUs deadlineUs) table
        [.conclude number run.wake run.outcome]
  | readmitted (run : Dispatch) (startUs deadlineUs : UInt64) (after : TaskTable Work)
      (change : table.Change (some run.task) none after) :
      Worked number clock table (.reinsert run startUs deadlineUs) after
        [.conclude number run.wake run.outcome]
  | looked (outcome : PassOutcome) (task : TaskHandle) :
      Worked number clock table (.wake outcome task) table []

theorem Worked.consistent {number : Nat} {clock : Ticks} {table after : TaskTable Work}
    {part : Section} {next : List Activity} (worked : Worked number clock table part after next)
    (consistent : table.Consistent) : after.Consistent := by
  cases worked with
  | call part admits brings after called change asked made => exact change.consistent consistent
  | idle | due => exact consistent.select clock
  | abandoned | refused | looked => exact consistent
  | claimed wakes current task work after taken => exact (consistent.claim taken).select current
  | finished run work status => exact consistent.finish run.task work
  | asked run work startUs deadlineUs running => exact consistent.finish run.task work
  | readmitted run startUs deadlineUs after change => exact change.consistent consistent

theorem Worked.capacity {number : Nat} {clock : Ticks} {table after : TaskTable Work}
    {part : Section} {next : List Activity} (worked : Worked number clock table part after next) :
    after.capacity = table.capacity := by
  cases worked with
  | call part admits brings after called change asked made => exact change.capacity
  | idle | due => exact TaskTable.select_capacity table clock
  | abandoned | refused | looked => rfl
  | claimed wakes current task work after taken =>
      obtain ⟨_, _, _, _, _, rfl⟩ := TaskTable.claim_cases taken
      exact TaskTable.select_capacity _ current
  | finished run work status => exact TaskTable.finish_capacity table run.task work
  | asked run work startUs deadlineUs running =>
      exact TaskTable.finish_capacity table run.task work
  | readmitted run startUs deadlineUs after change => exact change.capacity

namespace TaskTable

variable {ω : Type}

theorem Handled.admitted {chosen : Bool} {before : Option (TaskRecord ω)} {after : TaskRecord ω}
    (handled : Handled chosen before (some after)) (admitted : after.state.isAdmitted = true) :
    chosen = true ∨ ∃ record, before = some record ∧ record.state.isAdmitted = true := by
  cases handled with
  | same => exact .inr ⟨after, rfl, admitted⟩
  | configured record settings idle => exact .inr ⟨record, rfl, admitted⟩
  | queued record start deadline idle chosen => exact .inl chosen
  | made | cancelled | completed => cases admitted

theorem select_admitted {table : TaskTable ω} (consistent : table.Consistent) (current : Ticks)
    {task : TaskHandle} {after : TaskRecord ω}
    (found : (table.select current).table.find? task = some after)
    (admitted : after.state.isAdmitted = true) :
    ∃ record, table.find? task = some record ∧ record.state.isAdmitted = true := by
  obtain ⟨record, here, scanned⟩ := find?_of_select consistent current task after found
  refine ⟨record, here, ?_⟩
  cases scanned with
  | same => exact admitted
  | missed queued late => cases admitted
  | moved queued late => exact admitted

theorem finish_admitted {table : TaskTable ω} {task other : TaskHandle} {work : Option ω}
    {after : TaskRecord ω} (found : (table.finish task work).2.find? other = some after)
    (admitted : after.state.isAdmitted = true) :
    ∃ record, table.find? other = some record ∧ record.state.isAdmitted = true := by
  rw [find?_finish] at found
  by_cases same : other = task
  · rw [if_pos same] at found
    obtain ⟨record, here, rfl⟩ := Option.map_eq_some_iff.mp found
    refine ⟨record, here, ?_⟩
    by_cases running : record.state = .running
    · rw [running]
      rfl
    · simpa [running] using admitted
  · rw [if_neg same] at found
    exact ⟨after, found, admitted⟩

end TaskTable

theorem Worked.admitted {number : Nat} {clock : Ticks} {table after : TaskTable Work}
    {part : Section} {next : List Activity} (worked : Worked number clock table part after next)
    (consistent : table.Consistent) {task : TaskHandle} {record : TaskRecord Work}
    (found : after.find? task = some record) (admitted : record.state.isAdmitted = true) :
    (∃ earlier, table.find? task = some earlier ∧ earlier.state.isAdmitted = true) ∨
      (∃ startUs deadlineUs, part = .insert task startUs deadlineUs) ∨
      ∃ run startUs deadlineUs, part = .reinsert run startUs deadlineUs ∧ run.task = task := by
  cases worked with
  | call part admits brings after called change asked made =>
      have handled := change.handled consistent task
      rw [found] at handled
      rcases handled.admitted admitted with chosen | earlier
      · obtain ⟨startUs, deadlineUs, same⟩ := asked task (of_decide_eq_true chosen)
        exact .inr (.inl ⟨startUs, deadlineUs, same⟩)
      · exact .inl earlier
  | idle | due => exact .inl (TaskTable.select_admitted consistent clock found admitted)
  | abandoned | refused | looked => exact .inl ⟨record, found, admitted⟩
  -- The task that is claimed was queued, and is admitted while it runs.
  | claimed wakes current other work claimed taken =>
      obtain ⟨held, here, queued⟩ :=
        TaskTable.select_admitted (consistent.claim taken) current found admitted
      left
      rw [TaskTable.find?_claim taken] at here
      by_cases same : task = other
      · obtain ⟨earlier, there, waiting, _⟩ := TaskTable.claim_cases taken
        exact ⟨earlier, same ▸ there, by rw [waiting]; rfl⟩
      · rw [if_neg same] at here
        exact ⟨held, here, queued⟩
  | finished | asked => exact .inl (TaskTable.finish_admitted found admitted)
  | readmitted run startUs deadlineUs after change =>
      have handled := change.handled consistent task
      rw [found] at handled
      rcases handled.admitted admitted with chosen | earlier
      · have same : run.task = task := Option.some.inj (of_decide_eq_true chosen)
        exact .inr (.inr ⟨run, startUs, deadlineUs, rfl, same⟩)
      · exact .inl earlier

theorem Effect.wake_scheduler (scheduler : Scheduler) (outcome : PassOutcome)
    (task : TaskHandle) : (wake scheduler outcome task).scheduler = scheduler := by
  unfold wake
  split
  · rfl
  · split <;> rfl

theorem Effect.wake_next (scheduler : Scheduler) (outcome : PassOutcome) (task : TaskHandle) :
    (wake scheduler outcome task).next = [] := by
  unfold wake
  split
  · rfl
  · split <;> rfl

namespace Section

/-- What a section gives: its scheduler with another table and other counts, and
work left as `Worked` says. -/
structure Done (part : Section) (scheduler : Scheduler) (number : Nat) (clock : Ticks)
    (effect : Effect) : Prop where
  framed : ∃ table statistics issued,
    effect.scheduler = { scheduler with table, statistics, issued }
  worked : Worked number clock scheduler.table part effect.scheduler.table
    (effect.next.filter fun activity => activity.isDuty number)

variable (scheduler : Scheduler) (number : Nat) (clock : Ticks) (pipelines : Nat)

theorem refuse_scheduler (error : SchedulerError) :
    ∃ statistics, scheduler.refuse error = { scheduler with statistics } := by
  cases error <;> exact ⟨_, rfl⟩

theorem refusal_done (part : Section) (called : part.isCall = true) (error : SchedulerError) :
    Done part scheduler number clock (Effect.refusal scheduler error) := by
  obtain ⟨statistics, refused⟩ := refuse_scheduler scheduler error
  have same : (Effect.refusal scheduler error).scheduler = { scheduler with statistics } := refused
  constructor
  · exact ⟨scheduler.table, statistics, scheduler.issued, same⟩
  · rw [same]
    exact .call part none none scheduler.table called .nothing (by simp) (by simp)

theorem quiet_done (part : Section) (called : part.isCall = true) (effect : Effect)
    (kept : effect.scheduler = scheduler)
    (nothing : (effect.next.filter fun activity => activity.isDuty number) = []) :
    Done part scheduler number clock effect := by
  constructor
  · exact ⟨scheduler.table, scheduler.statistics, scheduler.issued, kept⟩
  · rw [kept, nothing]
    exact .call part none none scheduler.table called .nothing (by simp) (by simp)

theorem change_done (part : Section) (called : part.isCall = true)
    (result : Except SchedulerError (TaskTable Work))
    (change : ∀ after, result = .ok after → scheduler.table.Change none none after) :
    Done part scheduler number clock (Effect.change scheduler result) := by
  cases result with
  | error error => exact refusal_done scheduler number clock part called error
  | ok after =>
      constructor
      · exact ⟨after, scheduler.statistics, scheduler.issued, rfl⟩
      · exact .call part none none after called (change after rfl) (by simp) (by simp)

theorem create_done (part : Section) (called : part.isCall = true) (work : Work)
    (made : part.routine? = some work.routine) (settings : TaskSettings)
    (attaches : Option Pipeline) (notices : List Notice) :
    Done part scheduler number clock
      { Effect.create scheduler work settings with attaches, notices } := by
  unfold Effect.create Scheduler.create
  cases taken : scheduler.table.alloc (.fresh work settings) with
  | none =>
      have refused := refusal_done scheduler number clock part called
        (.tableFull scheduler.table.capacity)
      exact ⟨refused.framed, refused.worked⟩
  | some pair =>
      obtain ⟨task, after⟩ := pair
      constructor
      · exact ⟨after, scheduler.statistics, scheduler.issued ++ [task], rfl⟩
      · refine .call part none (some work) after called (.create work settings task after taken)
          (by simp) ?_
        intro other same
        cases same
        exact made

theorem retire_done (task : TaskHandle) :
    Done (.retire task) scheduler number clock (Effect.retire scheduler task) := by
  unfold Effect.retire
  cases result : scheduler.table.retire task with
  | error error => exact refusal_done scheduler number clock _ rfl error
  | ok after =>
      constructor
      · exact ⟨after, scheduler.statistics, scheduler.issued, rfl⟩
      · exact .call _ none none after rfl (TaskTable.retire_change result) (by simp) (by simp)

theorem insert_done (task : TaskHandle) (startUs deadlineUs : UInt64) :
    Done (.insert task startUs deadlineUs) scheduler number clock
      (Effect.insert scheduler clock task startUs deadlineUs) := by
  unfold Effect.insert
  cases result : scheduler.table.insert scheduler.config clock task startUs deadlineUs with
  | error error => exact refusal_done scheduler number clock _ rfl error
  | ok pair =>
      obtain ⟨window, after⟩ := pair
      constructor
      · exact ⟨after, scheduler.statistics, scheduler.issued, rfl⟩
      · refine .call _ (some task) none after rfl (TaskTable.insert_change result) ?_ (by simp)
        intro other same
        cases same
        exact ⟨startUs, deadlineUs, rfl⟩

theorem mine (activity : Activity) (duty : activity.scheduler? = some number) :
    [activity].filter (fun activity => activity.isDuty number) = [activity] := by
  simp [Activity.isDuty, duty]

theorem select_done (wakes : Bool) :
    Done (.select wakes) scheduler number clock (Effect.select scheduler number clock wakes) := by
  unfold Effect.select
  dsimp only
  split
  case h_1 =>
    constructor
    · exact ⟨_, _, _, rfl⟩
    · rw [mine number _ rfl]
      exact .idle wakes none
  case h_2 task start _ =>
    split
    case isTrue =>
      constructor
      · exact ⟨_, _, _, rfl⟩
      · rw [mine number _ rfl]
        exact .idle wakes (some task)
    case isFalse =>
      constructor
      · exact ⟨_, _, _, rfl⟩
      · rw [mine number _ rfl]
        exact .due wakes task

theorem dispatch_done (wakes : Bool) (current : Ticks) (task : TaskHandle) :
    Done (.dispatch wakes current task) scheduler number clock
      (Effect.dispatch scheduler number wakes current task) := by
  unfold Effect.dispatch
  cases taken : scheduler.table.claim current task with
  | none =>
      constructor
      · exact ⟨_, _, _, rfl⟩
      · rw [mine number _ rfl]
        exact .abandoned wakes current task taken
  | some pair =>
      obtain ⟨work, after⟩ := pair
      constructor
      · exact ⟨_, _, _, rfl⟩
      · rw [mine number _ rfl]
        exact .claimed wakes current task work after taken

theorem finish_done (run : Dispatch) (work : Option Work) (status : WorkStatus) :
    Done (.finish run work status) scheduler number clock
      (Effect.finish scheduler number run work status) := by
  unfold Effect.finish
  dsimp only
  split
  case isTrue running =>
    cases status with
    | done =>
        constructor
        · exact ⟨_, _, _, rfl⟩
        · rw [mine number _ rfl]
          exact .finished run work .done
    | reschedule startUs deadlineUs =>
        constructor
        · exact ⟨_, _, _, rfl⟩
        · rw [mine number _ rfl]
          exact .asked run work startUs deadlineUs running
  case isFalse =>
    constructor
    · exact ⟨_, _, _, rfl⟩
    · rw [mine number _ rfl]
      exact .finished run work status

theorem reinsert_done (run : Dispatch) (startUs deadlineUs : UInt64) :
    Done (.reinsert run startUs deadlineUs) scheduler number clock
      (Effect.reinsert scheduler number clock run startUs deadlineUs) := by
  unfold Effect.reinsert
  cases result : scheduler.table.insert scheduler.config clock run.task startUs deadlineUs with
  | error error =>
      obtain ⟨statistics, refused⟩ := refuse_scheduler scheduler error
      constructor
      · exact ⟨_, statistics, _, refused⟩
      · rw [mine number _ rfl]
        change Worked number clock scheduler.table _ (scheduler.refuse error).table _
        rw [refused]
        exact .refused run startUs deadlineUs
  | ok pair =>
      obtain ⟨window, after⟩ := pair
      constructor
      · exact ⟨_, _, _, rfl⟩
      · rw [mine number _ rfl]
        exact .readmitted run startUs deadlineUs after (TaskTable.insert_change result)

theorem wake_done (outcome : PassOutcome) (task : TaskHandle) :
    Done (.wake outcome task) scheduler number clock (Effect.wake scheduler outcome task) := by
  have same := Effect.wake_scheduler scheduler outcome task
  constructor
  · exact ⟨_, _, _, same⟩
  · rw [same, Effect.wake_next]
    exact .looked outcome task

theorem effect_done (part : Section) :
    Done part scheduler number clock (part.effect scheduler number clock pipelines) := by
  cases part with
  | create routine settings =>
      exact create_done scheduler number clock _ rfl _ rfl settings _ _
  | createPipeline desc routine =>
      simp only [effect, Effect.createPipeline]
      split
      · exact create_done scheduler number clock _ rfl _ rfl desc.settings _ _
      · exact create_done scheduler number clock _ rfl _ rfl desc.settings _ _
  | configure task settings =>
      exact change_done scheduler number clock _ rfl _ fun _ => TaskTable.configure_change
  | retire task => exact retire_done scheduler number clock task
  | insert task startUs deadlineUs =>
      exact insert_done scheduler number clock task startUs deadlineUs
  | cancel task => exact change_done scheduler number clock _ rfl _ fun _ => TaskTable.cancel_change
  | complete task =>
      exact change_done scheduler number clock _ rfl _ fun _ => TaskTable.complete_change
  | inspect | queued | queuedLength | describe =>
      exact quiet_done scheduler number clock _ rfl _ rfl rfl
  | check task =>
      simp only [effect, Effect.check]
      split
      · exact refusal_done scheduler number clock _ rfl _
      · exact quiet_done scheduler number clock _ rfl _ rfl rfl
  | checkDeadline pipeline task =>
      simp only [effect, Effect.checkDeadline]
      split
      · exact quiet_done scheduler number clock _ rfl _ rfl rfl
      · exact quiet_done scheduler number clock _ rfl _ rfl rfl
  | select wakes => exact select_done scheduler number clock wakes
  | dispatch wakes current task => exact dispatch_done scheduler number clock wakes current task
  | finish run work status => exact finish_done scheduler number clock run work status
  | reinsert run startUs deadlineUs =>
      exact reinsert_done scheduler number clock run startUs deadlineUs
  | wake outcome task => exact wake_done scheduler number clock outcome task

end Section

/-- Only a section changes the table of a scheduler once it is set up. -/
theorem Move.table_cases {number : Nat} {clock : Ticks} {pipelines : Nat} {done : Option Activity}
    {before after : Focus} (move : Move number clock pipelines done before after)
    (scheduler : Scheduler) (found : after.scheduler = some scheduler) :
    (before.scheduler = none ∧ ∃ config executor, scheduler = .fresh config executor) ∨
    ∃ earlier, before.scheduler = some earlier ∧ scheduler.config = earlier.config ∧
      (scheduler.table = earlier.table ∨
        ∃ part next, done = some (.enter number part) ∧
          Worked number clock earlier.table part scheduler.table next) := by
  cases move with
  | rest => exact .inr ⟨scheduler, found, rfl, .inl rfl⟩
  | setUp config executor duties valid =>
      cases found
      exact .inl ⟨rfl, config, executor, rfl⟩
  | enter earlier duties part free =>
      cases found
      obtain ⟨⟨table, statistics, issued, framed⟩, worked⟩ :=
        part.effect_done earlier number clock pipelines
      exact .inr ⟨earlier, rfl, by rw [framed], .inr ⟨part, _, rfl, worked⟩⟩
  | ask scheduler' duties part called => exact .inr ⟨scheduler, found, rfl, .inl rfl⟩
  | acquire scheduler' duties part => exact .inr ⟨scheduler, found, rfl, .inl rfl⟩
  | run | spare | back => exact .inr ⟨scheduler, found, rfl, .inl rfl⟩
  | drop earlier | coalesce earlier | begin earlier | leave earlier | hand earlier | skip earlier
  | conclude earlier | lookUp earlier =>
      cases found
      exact .inr ⟨earlier, rfl, rfl, .inl rfl⟩
  | vanish => cases found

namespace Machine

theorem focus_start (machine : Machine) (call : Call) (interposed : Nat → Option Script)
    (number : Nat) (rest : machine.agenda = []) :
    (machine.start call interposed).focus number = machine.focus number := by
  simp [focus, Machine.start, scheduler?, duties, rest, Activity.isDuty, Activity.scheduler?]

/-- A law of one scheduler and its duties that every move keeps holds in every
reachable state. -/
theorem Reachable.focus_induction {number : Nat} {law : Focus → Prop} (boot : law ⟨none, []⟩)
    (move : ∀ clock pipelines done before after,
      Move number clock pipelines done before after → law before → law after)
    {machine : Machine} (reachable : Reachable machine) : law (machine.focus number) := by
  induction reachable with
  | boot => exact boot
  | @start machine call interposed _ rest ih =>
      rw [focus_start machine call interposed number rest]
      exact ih
  | @step machine _ ih =>
      obtain ⟨done, _, moves⟩ := step_moves machine number
      exact move _ _ done _ _ moves ih

end Machine

end EdfKernel
