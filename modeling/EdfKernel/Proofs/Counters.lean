import EdfKernel.Proofs.PassCalls

/-!
What the counters of a scheduler count. Each event is read off the state in which it is about
to happen: a call for a pass, a task handed to the executor, a task that the selector gives up
or moves, a refusal because a task is running. A step adds to each counter the number of
events of its kind.
-/

namespace EdfKernel

namespace Machine

variable {machine : Machine} {number : Nat} {scheduler : Scheduler}

/-! The events of the next step. -/

/-- Somebody calls for a pass of the scheduler. -/
def callsPass (machine : Machine) (number : Nat) : Bool :=
  match machine.agenda with
  | activity :: rest => activity.passes? { machine with agenda := rest } = some number
  | [] => false

/-- A pass hands a task and its work to the executor of the scheduler. -/
def callsExecutor (machine : Machine) (number : Nat) : Bool :=
  match machine.agenda with
  | .execute other _ (some _) :: _ => other = number && (machine.scheduler? number).isSome
  | _ => false

def enters? (machine : Machine) (number : Nat) : Option (Section × Scheduler) :=
  match machine.agenda with
  | .enter other part :: _ =>
      if other = number then (machine.scheduler? number).map fun scheduler => (part, scheduler)
      else none
  | _ => none

def tableOf (machine : Machine) (number : Nat) : TaskTable Work :=
  ((machine.scheduler? number).map fun scheduler => scheduler.table).getD (.empty 0)

/-- The queued tasks that the selector cancels. -/
def missedNext (machine : Machine) (number : Nat) : List TaskHandle :=
  (machine.tableOf number).missedIn (machine.step.tableOf number)

/-- The tasks that a selection realigns. -/
def movedNext (machine : Machine) (number : Nat) : List TaskHandle :=
  match machine.enters? number with
  | some (part, scheduler) => part.moved scheduler machine.clock (machine.step.tableOf number)
  | none => []

/-- Those of them that a selection restarts out of phase. -/
def restartedNext (machine : Machine) (number : Nat) : List TaskHandle :=
  match machine.enters? number with
  | some (part, scheduler) => part.restarted scheduler machine.clock (machine.step.tableOf number)
  | none => []

/-- A section of the scheduler is refused because its task is running. -/
def refusesBusy (machine : Machine) (number : Nat) : Bool :=
  match machine.enters? number with
  | some (part, _) => part.isBusy (some machine.step.reply) machine.step.notices.back?.toList
  | none => false

def statisticsOf (machine : Machine) (number : Nat) : Statistics :=
  ((machine.scheduler? number).map fun scheduler => scheduler.statistics).getD .zero

/-- What a step adds to the counters. -/
structure Counts (machine : Machine) (number : Nat) (before after : Statistics) : Prop where
  passes : after.passes = before.passes +
    if machine.callsPass number && !machine.isInPass number then 1 else 0
  coalesced : after.coalesced = before.coalesced +
    if machine.callsPass number && machine.isInPass number then 1 else 0
  dispatched : after.dispatched = before.dispatched +
    if machine.callsExecutor number then 1 else 0
  deadlineMisses : after.deadlineMisses = before.deadlineMisses +
    UInt64.ofNat (machine.missedNext number).length
  repairs : after.repairs = before.repairs + UInt64.ofNat (machine.movedNext number).length
  exhaustedRepairs : after.exhaustedRepairs = before.exhaustedRepairs +
    UInt64.ofNat (machine.restartedNext number).length
  busyRejections : after.busyRejections = before.busyRejections +
    if machine.refusesBusy number then 1 else 0

theorem tableOf_of_scheduler? (found : machine.scheduler? number = some scheduler) :
    machine.tableOf number = scheduler.table := by
  rw [tableOf, found]
  rfl

theorem statisticsOf_of_scheduler? (found : machine.scheduler? number = some scheduler) :
    machine.statisticsOf number = scheduler.statistics := by
  rw [statisticsOf, found]
  rfl

theorem Reachable.tableOf_consistent (reachable : Reachable machine) :
    (machine.tableOf number).Consistent := by
  cases found : machine.scheduler? number with
  | none =>
      rw [tableOf, found]
      exact TaskTable.empty_consistent 0
  | some scheduler =>
      rw [tableOf_of_scheduler? found]
      exact (reachable.tableSound found).consistent

theorem Counts.of_nothing {before after : Statistics} (passes : machine.callsPass number = false)
    (executes : machine.callsExecutor number = false) (enters : machine.enters? number = none)
    (missed : machine.missedNext number = []) (same : after = before) :
    machine.Counts number before after := by
  subst same
  constructor
  case passes | coalesced => simp [passes]
  case dispatched => simp [executes]
  case deadlineMisses => simp [missed]
  case repairs => simp [movedNext, enters]
  case exhaustedRepairs => simp [restartedNext, enters]
  case busyRejections => simp [refusesBusy, enters]

theorem Counts.of_absent (absent : machine.scheduler? number = none) :
    machine.Counts number (machine.statisticsOf number) (machine.step.statisticsOf number) := by
  apply Counts.of_nothing
  case passes =>
    unfold callsPass
    split
    case h_2 => rfl
    case h_1 activity rest agenda =>
      apply decide_eq_false
      intro calls
      have there := (Passing.of_passes? calls).isSome_scheduler?
      rw [show ({ machine with agenda := rest } : Machine).scheduler? number = none from absent]
        at there
      cases there
  case executes =>
    unfold callsExecutor
    split
    · simp only [Bool.and_eq_false_imp, decide_eq_true_eq]
      rintro rfl
      rw [absent, Option.isSome_none]
    · rfl
  case enters =>
    unfold enters?
    split
    · split
      case isTrue => rw [absent, Option.map_none]
      case isFalse => rfl
    · rfl
  case missed =>
    rw [missedNext, tableOf, absent]
    rfl
  case same =>
    rw [statisticsOf, statisticsOf, absent]
    cases found : machine.step.scheduler? number with
    | none => rfl
    | some scheduler =>
        obtain ⟨done, _, move⟩ := step_moves machine number
        rcases move.table_cases scheduler found with
          ⟨_, config, executor, rfl⟩ | ⟨earlier, there, _⟩
        · rfl
        · cases absent.symm.trans there

def Idles (scheduler : Scheduler) (after : Option Scheduler) : Prop :=
  ∃ later, after = some later ∧ later.table = scheduler.table ∧
    later.statistics = scheduler.statistics

theorem Idles.of_spared {after : Option Scheduler} (spared : Spared scheduler after) :
    Idles scheduler after := by
  obtain ⟨owned, same⟩ := spared
  exact ⟨_, same, rfl, rfl⟩

theorem Idles.counts (reachable : Reachable machine)
    (found : machine.scheduler? number = some scheduler)
    (idles : Idles scheduler (machine.step.scheduler? number))
    (passes : machine.callsPass number = false) (executes : machine.callsExecutor number = false)
    (enters : machine.enters? number = none) :
    machine.Counts number (machine.statisticsOf number) (machine.step.statisticsOf number) := by
  obtain ⟨later, there, table, statistics⟩ := idles
  apply Counts.of_nothing passes executes enters
  · rw [missedNext, tableOf_of_scheduler? found, tableOf_of_scheduler? there, table]
    exact (reachable.tableSound found).consistent.missedIn_self
  · rw [statisticsOf_of_scheduler? found, statisticsOf_of_scheduler? there, statistics]

theorem Deed.idles {activity : Activity} {after : Machine} (deed : machine.Deed activity after)
    (found : machine.scheduler? number = some scheduler) (own : activity.scheduler? = some number)
    (outside : ∀ part, activity ≠ .enter number part)
    (unhanded : ∀ run work, activity ≠ .execute number run work) :
    Idles scheduler (after.scheduler? number) := by
  have kept {held : Scheduler} (there : machine.scheduler? number = some held)
      (later : Scheduler) (table : later.table = held.table)
      (statistics : later.statistics = held.statistics) :
      Idles scheduler (machine.schedulers.set number (some later))[number]?.join := by
    cases found.symm.trans there
    exact ⟨later, scheduler?_set_self found later, table, statistics⟩
  cases deed with
  | left other held there =>
      cases own
      exact kept there { held with locked := false } rfl rfl
  | concluded other wakes outcome held there | lookedUp other outcome held there =>
      cases own
      exact kept there held.endPass rfl rfl
  | entered other part =>
      cases own
      exact absurd rfl (outside part)
  | skipped other run | handed other run =>
      cases own
      exact absurd rfl (unhanded run _)
  | putOff _ _ _ _ passes | begun _ _ _ _ passes => cases passes <;> cases own
  | initFailed | setUp | dropped => cases own
  | _ => exact ⟨scheduler, found, rfl, rfl⟩

theorem nothing_of_foreign {activity : Activity} {rest : List Activity}
    (agenda : machine.agenda = activity :: rest) (foreign : activity.scheduler? ≠ some number) :
    machine.callsExecutor number = false ∧ machine.enters? number = none := by
  unfold callsExecutor enters?
  rw [agenda]
  constructor
  · split
    case h_1 other run work below same =>
      cases same
      have apart : other ≠ number := fun same => foreign (congrArg some same)
      simp [apart]
    case h_2 => rfl
  · split
    case h_1 other part below same =>
      cases same
      exact if_neg fun same => foreign (congrArg some same)
    case h_2 => rfl

theorem callsPass_of_own {activity : Activity} {rest : List Activity}
    (agenda : machine.agenda = activity :: rest) (own : activity.scheduler? = some number) :
    machine.callsPass number = false := by
  simp only [callsPass, agenda]
  apply decide_eq_false
  intro calls
  cases activity with
  | call | sweep => cases own
  | _ => cases calls

theorem Counts.of_passes (reachable : Reachable machine)
    (found : machine.scheduler? number = some scheduler) {activity : Activity}
    {rest : List Activity} (agenda : machine.agenda = activity :: rest)
    (foreign : activity.scheduler? ≠ some number)
    (calls : activity.passes? { machine with agenda := rest } = some number) :
    machine.Counts number (machine.statisticsOf number) (machine.step.statisticsOf number) := by
  obtain ⟨executes, enters⟩ := nothing_of_foreign agenda foreign
  have called : machine.callsPass number = true := by simp [callsPass, agenda, calls]
  have busy : machine.isInPass number = scheduler.inPass := by simp [isInPass, found]
  have here : (({ machine with agenda := rest } : Machine).push activity.resumes).scheduler?
      number = some scheduler := found
  have there := scheduler?_beginPass
    (({ machine with agenda := rest } : Machine).push activity.resumes) number activity.wakes
  rw [here, Option.map_some, ← carryOut_of_passes calls, ← step_cons agenda] at there
  have missed : machine.missedNext number = [] := by
    rw [missedNext, tableOf_of_scheduler? found, tableOf_of_scheduler? there]
    have kept : (if scheduler.inPass then scheduler.coalesce else scheduler.beginPass).table =
        scheduler.table := by
      split <;> rfl
    rw [kept]
    exact (reachable.tableSound found).consistent.missedIn_self
  rw [statisticsOf_of_scheduler? found, statisticsOf_of_scheduler? there]
  constructor
  case passes | coalesced =>
    cases inPass : scheduler.inPass <;>
      simp [called, busy, inPass, Scheduler.coalesce, Scheduler.beginPass]
  case dispatched =>
    cases inPass : scheduler.inPass <;>
      simp [executes, Scheduler.coalesce, Scheduler.beginPass]
  case deadlineMisses =>
    cases inPass : scheduler.inPass <;>
      simp [missed, Scheduler.coalesce, Scheduler.beginPass]
  case repairs =>
    cases inPass : scheduler.inPass <;>
      simp [movedNext, enters, Scheduler.coalesce, Scheduler.beginPass]
  case exhaustedRepairs =>
    cases inPass : scheduler.inPass <;>
      simp [restartedNext, enters, Scheduler.coalesce, Scheduler.beginPass]
  case busyRejections =>
    cases inPass : scheduler.inPass <;>
      simp [refusesBusy, enters, Scheduler.coalesce, Scheduler.beginPass]

theorem Counts.of_execute (reachable : Reachable machine)
    (found : machine.scheduler? number = some scheduler) {run : Dispatch} {work : Option Work}
    {rest : List Activity} (agenda : machine.agenda = .execute number run work :: rest) :
    machine.Counts number (machine.statisticsOf number) (machine.step.statisticsOf number) := by
  have passes := callsPass_of_own agenda rfl
  have enters : machine.enters? number = none := by rw [enters?, agenda]
  -- The pass has the work of the task that it took.
  obtain ⟨work, rfl⟩ : ∃ own, work = some own := by
    have excluded := reachable.excluded number
    rw [focus, duties_cons agenda rfl] at excluded
    obtain ⟨_, _, _, _, carried, _⟩ := excluded.of_link rfl
    cases work with
    | none => exact absurd rfl (carried run.task)
    | some own => exact ⟨own, rfl⟩
  have executes : machine.callsExecutor number = true := by
    simp [callsExecutor, agenda, found]
  have there : machine.step.scheduler? number = some scheduler.countDispatch := by
    have here : ({ machine with agenda := rest } : Machine).scheduler? number =
        some scheduler := found
    have counted := scheduler?_setScheduler_self machine number scheduler
      scheduler.countDispatch found
    rw [step_cons agenda]
    simp only [carryOut, execute, here]
    split <;> exact counted
  have missed : machine.missedNext number = [] := by
    rw [missedNext, tableOf_of_scheduler? found, tableOf_of_scheduler? there]
    exact (reachable.tableSound found).consistent.missedIn_self
  rw [statisticsOf_of_scheduler? found, statisticsOf_of_scheduler? there]
  constructor
  case passes | coalesced => simp [passes, Scheduler.countDispatch]
  case dispatched => simp [executes, Scheduler.countDispatch]
  case deadlineMisses => simp [missed, Scheduler.countDispatch]
  case repairs => simp [movedNext, enters, Scheduler.countDispatch]
  case exhaustedRepairs => simp [restartedNext, enters, Scheduler.countDispatch]
  case busyRejections => simp [refusesBusy, enters, Scheduler.countDispatch]

theorem refusesBusy_enter (reachable : Reachable machine)
    (found : machine.scheduler? number = some scheduler) {part : Section} {rest : List Activity}
    (agenda : machine.agenda = .enter number part :: rest) :
    machine.refusesBusy number =
      part.isBusy (part.effect scheduler number machine.clock machine.pipelines.length).reply
        (part.effect scheduler number machine.clock machine.pipelines.length).notices := by
  have free := reachable.free_of_agenda found agenda nofun
  have enters : machine.enters? number = some (part, scheduler) := by
    simp [enters?, agenda, found]
  have stepped := step_enter_eq agenda found free rfl
  have replied : machine.step.reply =
      (part.effect scheduler number machine.clock machine.pipelines.length).reply.getD
        machine.reply := by rw [stepped]
  have logged : machine.step.notices = machine.notices ++
      (part.effect scheduler number machine.clock machine.pipelines.length).notices.toArray := by
    rw [stepped]
  simp only [refusesBusy, enters]
  by_cases guards : part.guards?.isSome = true
  · obtain ⟨task, guarded⟩ := Option.isSome_iff_exists.mp guards
    have settles : part.Settles scheduler machine.pipelines.length
        (part.effect scheduler number machine.clock machine.pipelines.length) :=
      Section.settles (reachable.tableSound found) number machine.clock
        (.inl (Option.isSome_iff_exists.mpr ⟨task, Section.changes?_of_guards? guarded⟩))
    have answered := settles.isSome_reply
    obtain ⟨reply, replies⟩ := Option.isSome_iff_exists.mp answered
    rw [replied, replies]
    cases part with
    | reinsert => cases guarded
    | _ => rfl
  · cases part with
    | reinsert run startUs deadlineUs =>
        rw [logged]
        simp only [Section.effect, Effect.reinsert, Section.isBusy]
        split <;> simp
    | configure | retire | insert | cancel => exact absurd rfl guards
    | _ => rfl

theorem Counts.of_enter (reachable : Reachable machine)
    (found : machine.scheduler? number = some scheduler) {part : Section} {rest : List Activity}
    (agenda : machine.agenda = .enter number part :: rest) :
    machine.Counts number (machine.statisticsOf number) (machine.step.statisticsOf number) := by
  have passes := callsPass_of_own agenda rfl
  have executes : machine.callsExecutor number = false := by rw [callsExecutor, agenda]
  have enters : machine.enters? number = some (part, scheduler) := by
    simp [enters?, agenda, found]
  have free := reachable.free_of_agenda found agenda nofun
  obtain ⟨there, _⟩ := step_enter machine number part rest scheduler agenda found free
  have table := tableOf_of_scheduler? there
  have accounts := (part.effect_accounts scheduler number machine.clock machine.pipelines.length
    (reachable.tableSound found).consistent).statistics
  rw [statisticsOf_of_scheduler? found, statisticsOf_of_scheduler? there]
  constructor
  case passes | coalesced => simp [passes, accounts]
  case dispatched => simp [executes, accounts]
  case deadlineMisses =>
    rw [missedNext, tableOf_of_scheduler? found, table]
    exact congrArg Statistics.deadlineMisses accounts
  case repairs =>
    simp only [movedNext, enters, table]
    exact congrArg Statistics.repairs accounts
  case exhaustedRepairs =>
    simp only [restartedNext, enters, table]
    exact congrArg Statistics.exhaustedRepairs accounts
  case busyRejections =>
    rw [refusesBusy_enter reachable found agenda]
    exact congrArg Statistics.busyRejections accounts

theorem Reachable.counts (reachable : Reachable machine) (number : Nat) :
    machine.Counts number (machine.statisticsOf number) (machine.step.statisticsOf number) := by
  cases found : machine.scheduler? number with
  | none => exact .of_absent found
  | some scheduler =>
      cases agenda : machine.agenda with
      | nil =>
          have same : Idles scheduler (machine.step.scheduler? number) := by
            rw [step_of_isIdle machine (by simp [isIdle, agenda])]
            exact ⟨scheduler, found, rfl, rfl⟩
          refine same.counts reachable found ?_ ?_ ?_
          · rw [callsPass, agenda]
          · rw [callsExecutor, agenda]
          · rw [enters?, agenda]
      | cons activity rest =>
          have here : ({ machine with agenda := rest } : Machine).scheduler? number =
              some scheduler := found
          -- Counters change in a section, when a task is handed over and when a pass is called for.
          by_cases own : activity.scheduler? = some number
          · by_cases inside : ∃ part, activity = .enter number part
            · obtain ⟨part, rfl⟩ := inside
              exact .of_enter reachable found agenda
            · by_cases handed : ∃ run work, activity = .execute number run work
              · obtain ⟨run, work, rfl⟩ := handed
                exact .of_execute reachable found agenda
              · have outside (part : Section) : activity ≠ .enter number part :=
                  fun same => inside ⟨part, same⟩
                have unhanded (run : Dispatch) (work : Option Work) :
                    activity ≠ .execute number run work := fun same => handed ⟨run, work, same⟩
                have idles := (step_deed agenda).idles here own outside unhanded
                refine idles.counts reachable found (callsPass_of_own agenda own) ?_ ?_
                · rw [callsExecutor, agenda]
                  split
                  case h_1 other run work below same =>
                    cases same
                    cases own
                    exact absurd rfl (unhanded run _)
                  case h_2 => rfl
                · rw [enters?, agenda]
                  split
                  case h_1 other part below same =>
                    cases same
                    cases own
                    exact absurd rfl (outside part)
                  case h_2 => rfl
          · by_cases calls : activity.passes? { machine with agenda := rest } = some number
            · exact .of_passes reachable found agenda own calls
            · obtain ⟨executes, enters⟩ := nothing_of_foreign agenda own
              have spared := (step_deed agenda).spares here own calls
              refine (Idles.of_spared spared).counts reachable found ?_ executes enters
              simp only [callsPass, agenda]
              exact decide_eq_false calls

theorem enters?_eq_some {part : Section}
    (enters : machine.enters? number = some (part, scheduler)) :
    (∃ rest, machine.agenda = .enter number part :: rest) ∧
      machine.scheduler? number = some scheduler := by
  unfold enters? at enters
  split at enters
  case h_1 other entered rest agenda =>
    split at enters
    case isTrue same =>
      obtain ⟨held, found, pair⟩ := Option.map_eq_some_iff.mp enters
      cases pair
      exact ⟨⟨rest, same ▸ agenda⟩, found⟩
    case isFalse => cases enters
  case h_2 => cases enters

end Machine

end EdfKernel
