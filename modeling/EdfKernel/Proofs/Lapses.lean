import EdfKernel.Proofs.PassRequests
import EdfKernel.Proofs.Wakeups

/-!
A run of the scheduler lapses if it ends with a task in the queue that nothing
will wake for: its scan found no candidate, or the candidate was withdrawn before
the timer was armed. Up to the first lapse every queued task is attended to, and
a lapse always leaves one that is not.
-/

namespace EdfKernel

theorem Worked.queued {number : Nat} {clock : Ticks} {table after : TaskTable Work}
    {part : Section} {next : List Activity} (worked : Worked number clock table part after next)
    (consistent : table.Consistent) {task : TaskHandle} {record : TaskRecord Work}
    (found : after.find? task = some record) (queued : record.state = .queued) :
    (∃ earlier, table.find? task = some earlier ∧ earlier.state = .queued) ∨
      (∃ startUs deadlineUs, part = .insert task startUs deadlineUs) ∨
      ∃ run startUs deadlineUs, part = .reinsert run startUs deadlineUs ∧ run.task = task := by
  have admitted : record.state.isAdmitted = true := by
    rw [queued]
    rfl
  rcases worked.admitted consistent found admitted with ⟨earlier, here, before⟩ | inserted
  · left
    refine ⟨earlier, here, ?_⟩
    cases state : earlier.state with
    | queued => rfl
    -- A task that was running is still so or completed, never queued again by a section.
    | running =>
        obtain ⟨held, there, runs⟩ := worked.running consistent here state
        cases found.symm.trans there
        rw [queued] at runs
        rcases runs with runs | runs
        · cases runs
        · cases runs
    | init | completed | cancelled =>
        rw [state] at before
        cases before
  · exact .inr inserted

namespace Section

theorem queued_effect (part : Section) (scheduler : Scheduler) (number : Nat) (clock : Ticks)
    (pipelines : Nat) (consistent : scheduler.table.Consistent) {task : TaskHandle}
    {record : TaskRecord Work}
    (found : (part.effect scheduler number clock pipelines).scheduler.table.find? task =
      some record)
    (queued : record.state = .queued) :
    (∃ earlier, scheduler.table.find? task = some earlier ∧ earlier.state = .queued) ∨
      (part.effect scheduler number clock pipelines).requests = true := by
  obtain ⟨_, worked⟩ := part.effect_done scheduler number clock pipelines
  have refused (error : SchedulerError) : (scheduler.refuse error).table = scheduler.table := by
    obtain ⟨statistics, same⟩ := refuse_scheduler scheduler error
    rw [same]
  rcases worked.queued consistent found queued with
    before | ⟨startUs, deadlineUs, rfl⟩ | ⟨run, startUs, deadlineUs, rfl, _⟩
  · exact .inl before
  · simp only [effect, Effect.insert] at found ⊢
    split at found
    case h_1 error _ =>
      left
      change (scheduler.refuse error).table.find? task = some record at found
      rw [refused] at found
      exact ⟨record, found, queued⟩
    case h_2 => exact .inr rfl
  · simp only [effect, Effect.reinsert] at found ⊢
    split at found
    case h_1 error _ =>
      left
      change (scheduler.refuse error).table.find? task = some record at found
      rw [refused] at found
      exact ⟨record, found, queued⟩
    case h_2 => exact .inr rfl

end Section

theorem Effect.wake_of_gone (scheduler : Scheduler) (outcome : PassOutcome) (task : TaskHandle)
    (gone : ∀ record, scheduler.table.find? task = some record → record.state ≠ .queued) :
    wake scheduler outcome task = answer scheduler (.outcome outcome) := by
  unfold wake
  split
  case h_1 => rfl
  case h_2 record found => rw [if_neg (gone record found)]

theorem Effect.wake_arms (scheduler : Scheduler) (outcome : PassOutcome) (task : TaskHandle) :
    (wake scheduler outcome task).arms.isSome = true ↔
      ∃ record, scheduler.table.find? task = some record ∧ record.state = .queued := by
  unfold wake
  cases found : scheduler.table.find? task with
  | none => simp [answer, quiet]
  | some record => by_cases queued : record.state = .queued <;> simp [queued, answer, quiet]

namespace Machine

inductive EndsUnarmed (machine : Machine) (scheduler : Scheduler) (rest : List Activity) :
    Prop where
  | idle (outcome : PassOutcome) (agenda : machine.agenda = .conclude 0 true outcome :: rest)
      (none : outcome.next = none)
  | withdrawn (outcome : PassOutcome) (task : TaskHandle)
      (agenda : machine.agenda = .enter 0 (.wake outcome task) :: rest)
      (free : scheduler.locked = false) (ended : scheduler.inPass = false)
      (gone : ∀ record, scheduler.table.find? task = some record → record.state ≠ .queued)

/-- A run ends, a task is queued, and nothing will wake the scheduler for it. -/
def Lapse (machine : Machine) (config : SchedulerConfig) : Prop :=
  ∃ scheduler rest, machine.scheduler? 0 = some scheduler ∧
    machine.EndsUnarmed scheduler rest ∧ scheduler.table.HasQueued ∧
    ¬ machine.Signals config ∧ rest.any Activity.isWake = false

/-- The end of a run that is no lapse finds a signal, or another run about to look. -/
theorem EndsUnarmed.spared {machine : Machine} {config : SchedulerConfig} {scheduler : Scheduler}
    {rest : List Activity} (ends : machine.EndsUnarmed scheduler rest)
    (found : machine.scheduler? 0 = some scheduler) (queued : scheduler.table.HasQueued)
    (kept : ¬ machine.Lapse config) :
    machine.Signals config ∨ rest.any Activity.isWake = true := by
  by_contra lost
  obtain ⟨quiet, looks⟩ := not_or.mp lost
  exact kept ⟨scheduler, rest, found, ends, queued, quiet, Bool.not_eq_true _ ▸ looks⟩

theorem any_isWake_duties (machine : Machine) :
    (machine.duties 0).any Activity.isWake = machine.agenda.any Activity.isWake := by
  have duty (activity : Activity) (wakes : activity.isWake = true) :
      activity.isDuty 0 = true := by
    cases activity with
    | acquire number part | enter number part =>
        cases part with
        | wake outcome task =>
            simpa [Activity.isWake, Activity.isDuty, Activity.scheduler?] using wakes
        | _ => cases wakes
    | _ => cases wakes
  rw [duties, List.any_filter]
  congr 1
  funext activity
  cases wakes : activity.isWake with
  | false => rw [Bool.and_false]
  | true => rw [duty activity wakes, Bool.true_and]

theorem agenda_step_enter {machine : Machine} {number : Nat} {part : Section}
    {rest : List Activity} {scheduler : Scheduler}
    (agenda : machine.agenda = .enter number part :: rest)
    (found : machine.scheduler? number = some scheduler) (free : scheduler.locked = false) :
    machine.step.agenda = .leave number ::
      ((part.effect scheduler number machine.clock machine.pipelines.length).next ++ rest) := by
  rw [step_enter_eq agenda found free rfl]

end Machine

namespace Tended

variable {machine : Machine} {config : SchedulerConfig}

theorem signals_or_inPass (tended : Tended machine config) {later : Scheduler}
    (there : machine.step.scheduler? 0 = some later) (signals : machine.Signals config) :
    machine.step.Signals config ∨ later.inPass = true := by
  rcases tended.step_signals signals with still | ⟨_, held, same, busy⟩
  · exact .inl still
  · cases there.symm.trans same
    exact .inr busy

theorem attended_of_same (tended : Tended machine config) (attended : machine.Attended config)
    {earlier later : Scheduler} (found : machine.scheduler? 0 = some earlier)
    (there : machine.step.scheduler? 0 = some later) (queued : earlier.table.HasQueued)
    (inPass : later.inPass = earlier.inPass)
    (wakes : (machine.duties 0).any Activity.isWake = true →
      (machine.step.duties 0).any Activity.isWake = true) :
    machine.step.Signals config ∨ later.inPass = true ∨
      machine.step.agenda.any Activity.isWake = true := by
  rcases attended earlier found queued with signals | busy | looks
  · exact (tended.signals_or_inPass there signals).imp_right .inl
  · exact .inr (.inl (inPass.trans busy))
  · rw [← Machine.any_isWake_duties] at looks ⊢
    exact .inr (.inr (wakes looks))

theorem enter_signals_of_effect (tended : Tended machine config) {part : Section}
    {rest : List Activity} (agenda : machine.agenda = .enter 0 part :: rest)
    {scheduler : Scheduler} (found : machine.scheduler? 0 = some scheduler)
    (free : scheduler.locked = false)
    (asks : (part.effect scheduler 0 machine.clock machine.pipelines.length).requests = true ∨
      (part.effect scheduler 0 machine.clock machine.pipelines.length).arms.isSome = true) :
    machine.step.Signals config := by
  obtain ⟨held, same, tame⟩ := tended.scheduler?
  cases found.symm.trans same
  rw [Machine.step_enter_eq agenda found free rfl]
  rcases asks with requests | arms
  · left
    dsimp only
    rw [if_pos requests, tame.configured, Controller.isPending_request, if_pos rfl]
    exact decide_eq_true tended.inRange
  · obtain ⟨instant, armed⟩ := Option.isSome_iff_exists.mp arms
    right
    refine ⟨⟨instant, .scheduler 0⟩, ?_, rfl⟩
    dsimp only
    rw [armed]
    rfl

theorem enter_attended (tended : Tended machine config) (reachable : machine.Reachable)
    (attended : machine.Attended config) (kept : ¬ machine.Lapse config) {part : Section}
    {rest : List Activity} (agenda : machine.agenda = .enter 0 part :: rest)
    {scheduler : Scheduler} (found : machine.scheduler? 0 = some scheduler)
    (free : scheduler.locked = false) : machine.step.Attended config := by
  have consistent := (reachable.tableSound found).consistent
  have asks := tended.enter_signals_of_effect agenda found free
  obtain ⟨stepped, _⟩ := Machine.step_enter machine 0 part rest scheduler agenda found free
  obtain ⟨⟨table, statistics, issued, framed⟩, _⟩ :=
    part.effect_done scheduler 0 machine.clock machine.pipelines.length
  intro later there ⟨task, record, here, queued⟩
  cases stepped.symm.trans there
  rcases part.queued_effect scheduler 0 machine.clock machine.pipelines.length consistent here
    queued with ⟨earlier, before, waiting⟩ | requests
  · have inPass :
        (part.effect scheduler 0 machine.clock machine.pipelines.length).scheduler.inPass =
          scheduler.inPass := by
      rw [framed]
    have ahead (looks : rest.any Activity.isWake = true) :
        machine.step.agenda.any Activity.isWake = true := by
      rw [Machine.agenda_step_enter agenda found free, List.any_cons, List.any_append, looks,
        Bool.or_true, Bool.or_true]
    -- The section that looks what to wake for is the only one that ends a look.
    by_cases wakes : ∃ outcome next, part = .wake outcome next
    · obtain ⟨outcome, next, rfl⟩ := wakes
      by_cases arms : (Effect.wake scheduler outcome next).arms.isSome = true
      · exact .inl (asks (.inr arms))
      · have gone (held : TaskRecord Work) (there : scheduler.table.find? next = some held) :
            held.state ≠ .queued := by
          intro still
          exact arms ((Effect.wake_arms scheduler outcome next).mpr ⟨held, there, still⟩)
        -- With its task gone it arms nothing, which is a lapse unless others see to the queue.
        cases ended : scheduler.inPass with
        | true => exact .inr (.inl (inPass.trans ended))
        | false =>
            have ends : machine.EndsUnarmed scheduler rest :=
              .withdrawn outcome next agenda free ended gone
            rcases ends.spared found ⟨task, earlier, before, waiting⟩ kept with signals | looks
            · exact (tended.signals_or_inPass stepped signals).imp_right .inl
            · exact .inr (.inr (ahead looks))
    · have other : (Activity.enter 0 part).isWake = false := by
        cases part with
        | wake outcome next => exact absurd ⟨outcome, next, rfl⟩ wakes
        | _ => rfl
      apply tended.attended_of_same attended found stepped ⟨task, earlier, before, waiting⟩ inPass
      rw [Machine.any_isWake_duties, Machine.any_isWake_duties, agenda, List.any_cons, other,
        Bool.false_or]
      exact ahead
  · exact .inl (asks (.inl requests))

theorem conclude_attended (tended : Tended machine config) (kept : ¬ machine.Lapse config)
    {outcome : PassOutcome} {rest : List Activity}
    (agenda : machine.agenda = .conclude 0 true outcome :: rest) (none : outcome.next = none) :
    machine.step.Attended config := by
  obtain ⟨scheduler, found, _⟩ := tended.scheduler?
  have stepped := Machine.step_conclude agenda found
  have ended := Machine.scheduler?_step_conclude agenda found
  rw [none] at stepped
  intro later there queued
  cases ended.symm.trans there
  have ends : machine.EndsUnarmed scheduler rest := .idle outcome agenda none
  rcases ends.spared found queued kept with signals | looks
  · exact (tended.signals_or_inPass ended signals).imp_right .inl
  · right
    right
    rw [stepped]
    exact looks

theorem step_attended (tended : Tended machine config) (reachable : machine.Reachable)
    (attended : machine.Attended config) (kept : ¬ machine.Lapse config) :
    machine.step.Attended config := by
  obtain ⟨first, alone, _⟩ := tended.scheduler?
  obtain ⟨done, comes, move⟩ := machine.step_moves 0
  generalize before : machine.focus 0 = earlier at move
  generalize after : machine.step.focus 0 = changed at move
  have found : earlier.scheduler = some first := by
    rw [← before]
    exact alone
  have here : machine.duties 0 = earlier.duties := congrArg Focus.duties before
  have follows : machine.step.duties 0 = changed.duties := congrArg Focus.duties after
  -- Whatever leaves the table alone, and with it the pass and the wake-ups to come.
  have same {later : Scheduler} (there : changed.scheduler = some later)
      (table : later.table = first.table) (inPass : later.inPass = first.inPass)
      (wakes : earlier.duties.any Activity.isWake = true →
        changed.duties.any Activity.isWake = true) :
      machine.step.Attended config := by
    have stepped : machine.step.scheduler? 0 = some later :=
      (congrArg Focus.scheduler after).trans there
    intro held holds queued
    cases stepped.symm.trans holds
    rw [← here, ← follows] at wakes
    exact tended.attended_of_same attended alone stepped (table ▸ queued) inPass wakes
  have busy {later : Scheduler} (there : changed.scheduler = some later)
      (inPass : later.inPass = true) : machine.step.Attended config := by
    intro held holds _
    cases ((congrArg Focus.scheduler after).trans there).symm.trans holds
    exact .inr (.inl inPass)
  cases move with
  | rest => exact same found rfl rfl id
  | setUp | vanish => cases found
  | drop | leave =>
      cases found
      exact same rfl rfl rfl id
  | coalesce scheduler duties inPass => exact busy rfl inPass
  -- A pass that begins lowers the line, but it is itself the signal until it ends.
  | begin scheduler duties wakes idle => exact busy rfl rfl
  | ask scheduler duties part called =>
      apply same found rfl rfl
      intro looks
      rw [List.any_cons, looks, Bool.or_true]
  | acquire scheduler duties part =>
      apply same found rfl rfl
      intro looks
      cases part <;> exact looks
  | enter scheduler duties part free =>
      cases found
      obtain ⟨rest, agenda⟩ := comes _ rfl
      exact tended.enter_attended reachable attended kept agenda alone free
  | hand | skip =>
      cases found
      exact same rfl rfl rfl id
  | run | spare | back => exact same found rfl rfl id
  | conclude scheduler duties wakes outcome ended =>
      obtain ⟨rest, agenda⟩ := comes _ rfl
      have calm := tended.calm
      rw [agenda] at calm
      have runs : wakes = true := calm.1
      subst runs
      exact tended.conclude_attended kept agenda (ended rfl)
  | lookUp scheduler duties outcome task next =>
      intro held holds _
      right
      right
      rw [← Machine.any_isWake_duties, follows]
      rfl

end Tended

theorem Machine.Lapse.not_attended {machine : Machine} {config : SchedulerConfig}
    (lapse : machine.Lapse config) : ¬ machine.step.Attended config := by
  obtain ⟨scheduler, rest, found, ends, queued, quiet, looks⟩ := lapse
  intro attended
  cases ends with
  | idle outcome agenda none =>
      have stepped := Machine.step_conclude agenda found
      have ended := Machine.scheduler?_step_conclude agenda found
      rw [none] at stepped
      rw [stepped] at attended ended
      rcases attended scheduler.endPass ended queued with signals | inPass | wakes
      · exact quiet signals
      · cases inPass
      · exact Bool.false_ne_true (looks.symm.trans wakes)
  | withdrawn outcome task agenda free ended gone =>
      have looked := Effect.wake_of_gone scheduler outcome task gone
      obtain ⟨stepped, _⟩ := Machine.step_enter machine 0 _ rest scheduler agenda found free
      have ahead := Machine.agenda_step_enter agenda found free
      have irq : machine.step.irq = machine.irq.mask := by
        rw [Machine.step_enter_eq agenda found free looked]
        rfl
      have timer : machine.step.timer = machine.timer := by
        rw [Machine.step_enter_eq agenda found free looked]
        rfl
      simp only [Section.effect, looked, Effect.answer, Effect.quiet] at stepped ahead
      rcases attended _ stepped queued with signals | inPass | wakes
      · rw [Machine.Signals, irq, timer] at signals
        exact quiet signals
      · exact Bool.false_ne_true (ended.symm.trans inPass)
      · rw [ahead] at wakes
        exact Bool.false_ne_true (looks.symm.trans wakes)

namespace Machine

variable {machine : Machine} {config : SchedulerConfig}

theorem alone_scheduler? (start : Ticks) (executor : Executor Call) {scheduler : Scheduler}
    (found : (alone start config executor).scheduler? 0 = some scheduler) :
    ∃ config executor, scheduler = .fresh config executor := by
  let started := (boot start).start (.init config executor) fun _ => none
  obtain ⟨done, _, move⟩ := started.step_moves 0
  rcases move.table_cases scheduler found with ⟨_, fresh⟩ | ⟨earlier, held, _⟩
  · exact fresh
  · cases held

/-- Up to the first lapse, every queued task is attended to. -/
theorem Driven.attended (driven : Driven (fun machine => ¬ machine.Lapse config) config machine) :
    machine.Attended config := by
  induction driven with
  | setUp start executor valid gentle =>
      intro scheduler found queued
      obtain ⟨config, executor, rfl⟩ := alone_scheduler? start executor found
      obtain ⟨task, record, here, _⟩ := queued
      simp [Scheduler.fresh, TaskTable.empty, TaskTable.find?] at here
  | start call interposed gentle interposes _ rest ih =>
      intro scheduler found queued
      rcases ih scheduler found queued with signals | busy | looks
      · exact .inl signals
      · exact .inr (.inl busy)
      · rw [rest] at looks
        cases looks
  | step before kept ih => exact before.tended.step_attended before.reachable ih kept

def mayLapse (machine : Machine) : Bool :=
  match machine.agenda with
  | .conclude 0 true outcome :: _ => outcome.next.isNone
  | .enter 0 (.wake _ _) :: _ => true
  | _ => false

theorem Lapse.mayLapse (lapse : machine.Lapse config) : machine.mayLapse = true := by
  obtain ⟨scheduler, rest, _, ends, _⟩ := lapse
  cases ends with
  | idle outcome agenda none => simp [Machine.mayLapse, agenda, none]
  | withdrawn outcome task agenda free ended gone => simp [Machine.mayLapse, agenda]

theorem Driven.exec_calm
    (driven : Driven (fun machine => ¬ machine.Lapse config) config machine) {call : Call}
    (gentle : call.Gentle false) (rest : machine.agenda = []) (fuel : Nat)
    (calm : ∀ steps < fuel, ((machine.start call fun _ => none).run steps).mayLapse = false) :
    Driven (fun machine => ¬ machine.Lapse config) config
      (machine.exec fuel call fun _ => none) := by
  have started := driven.start call (fun _ => none) gentle (by simp) rest
  apply started.run fuel
  intro steps less lapse
  have may := lapse.mayLapse
  rw [calm steps less] at may
  cases may

end Machine

end EdfKernel
