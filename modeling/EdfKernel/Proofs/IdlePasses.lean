import EdfKernel.Proofs.Candidates
import EdfKernel.Proofs.LockedSections

/-!
What a pass reports. Once it has handed a task out, the outcome that it will report is fixed,
and each link of the pass carries it on, whatever the works and callbacks do meanwhile. So a pass
that nobody interposes in reports the idle outcome just if its scan chose nothing, and that is so
just if no task could start in time, but for one case: at instant 0, a task that can start
until the last instant there is has all the time there is, which is as long as none.
-/

namespace EdfKernel

def Section.outcome? : Section → Option PassOutcome
  | .finish run _ _ | .reinsert run _ _ => some run.outcome
  | .wake outcome _ => some outcome
  | _ => none

/-- The outcome that a pass will report, and the scheduler whose pass it is. -/
def Activity.outcome? : Activity → Option (Nat × PassOutcome)
  | .acquire number part | .enter number part => part.outcome?.map fun outcome => (number, outcome)
  | .execute number run _ | .engage number run _ _ | .returned number run _ _ _ =>
      some (number, run.outcome)
  | .conclude number _ outcome => some (number, outcome)
  | _ => none

/-- A section of a pass hands the outcome to the next link, or it replies. -/
theorem Section.effect_outcome {part : Section} {outcome : PassOutcome}
    (carries : part.outcome? = some outcome) (scheduler : Scheduler) (number : Nat)
    (clock : Ticks) (pipelines : Nat) :
    (∃ link, (part.effect scheduler number clock pipelines).next = [link] ∧
      link.outcome? = some (number, outcome)) ∨
    ((part.effect scheduler number clock pipelines).next = [] ∧
      (part.effect scheduler number clock pipelines).reply = some (.ok (.outcome outcome))) := by
  cases part with
  | finish run work status =>
      cases carries
      left
      simp only [effect, Effect.finish]
      split
      · cases status <;> exact ⟨_, rfl, rfl⟩
      · exact ⟨_, rfl, rfl⟩
  | reinsert run startUs deadlineUs =>
      cases carries
      left
      simp only [effect, Effect.reinsert]
      split <;> exact ⟨_, rfl, rfl⟩
  | wake outcome task =>
      cases carries
      right
      simp only [effect, Effect.wake]
      split
      · exact ⟨rfl, rfl⟩
      · split <;> exact ⟨rfl, rfl⟩
  | _ => cases carries

namespace Effect

variable (scheduler : Scheduler) (number : Nat) (clock : Ticks) (wakes : Bool)

theorem select_next :
    (∃ link outcome, (select scheduler number clock wakes).next = [link] ∧
      link.outcome? = some (number, outcome) ∧
      (outcome.isIdle = true ↔ (scheduler.table.select clock).selection.next = none)) ∨
    ∃ task record, (select scheduler number clock wakes).next =
        [.acquire number (.dispatch wakes clock task)] ∧
      (scheduler.table.select clock).selection.next = some task ∧
      (scheduler.table.select clock).table.find? task = some record ∧
      record.state = .queued ∧ record.timing.start ≤ clock := by
  cases next : (scheduler.table.select clock).selection.next with
  | none =>
      simp only [select, next, Option.bind_none]
      exact .inl ⟨.conclude number wakes .idle, .idle, rfl, rfl, iff_of_true rfl trivial⟩
  | some task =>
      obtain ⟨record, found, queued, _⟩ := scheduler.table.select_choosesInTime clock task next
      simp only [select, next, Option.bind_some, found, Option.map_some]
      by_cases early : clock < record.timing.start
      · simp only [early, if_true]
        exact .inl ⟨.conclude number wakes ⟨none, some task⟩, _, rfl, rfl,
          iff_of_false Bool.false_ne_true (Option.some_ne_none task)⟩
      · simp only [early, if_false]
        exact .inr ⟨task, record, rfl, rfl, found, queued, UInt64.not_lt.mp early⟩

theorem dispatch_next {current : Ticks} {task : TaskHandle} {record : TaskRecord Work}
    (found : scheduler.table.find? task = some record) (queued : record.state = .queued)
    (due : record.timing.start ≤ current) :
    ∃ link next, (dispatch scheduler number wakes current task).next = [link] ∧
      link.outcome? = some (number, ⟨some task, next⟩) := by
  simp only [dispatch, TaskTable.claim, found, queued, due, and_self, if_true]
  exact ⟨_, _, rfl, rfl⟩

end Effect

namespace Machine

variable {machine : Machine} {number : Nat} {scheduler : Scheduler} {outcome : PassOutcome}
  {below : List Activity} {steps : Nat}

/-- One step of a pass: the outcome is with the next link, or it has been replied. -/
inductive Hands (after : Machine) (number : Nat) (outcome : PassOutcome)
    (below : List Activity) : Prop where
  | on (above : List Activity) (link : Activity) (agenda : after.agenda = above ++ link :: below)
      (carries : link.outcome? = some (number, outcome))
  | done (agenda : after.agenda = below) (reply : after.reply = .ok (.outcome outcome))
  | leaving (agenda : after.agenda = .leave number :: below)
      (reply : after.reply = .ok (.outcome outcome))

theorem Reachable.step_hands (reachable : Reachable machine)
    (found : machine.scheduler? number = some scheduler) {link : Activity}
    (agenda : machine.agenda = link :: below)
    (carries : link.outcome? = some (number, outcome)) :
    machine.step.Hands number outcome below := by
  have here : ({ machine with agenda := below } : Machine).scheduler? number =
      some scheduler := found
  cases link with
  | acquire other part =>
      obtain ⟨result, inside, same⟩ := Option.map_eq_some_iff.mp carries
      cases same
      obtain ⟨above, stepped⟩ := step_acquire agenda
      exact .on above (.enter number part) stepped carries
  | enter other part =>
      obtain ⟨result, inside, same⟩ := Option.map_eq_some_iff.mp carries
      cases same
      have free := reachable.free_of_agenda found agenda (fun leaves => by cases leaves)
      rw [step_enter_eq agenda found free rfl]
      rcases part.effect_outcome inside scheduler number machine.clock
        machine.pipelines.length with ⟨next, only, carried⟩ | ⟨last, replied⟩
      · exact .on [.leave number] next (by simp [only]) carried
      · exact .leaving (by simp [last]) (by simp [replied])
  | execute other run work =>
      cases carries
      rw [step_cons agenda]
      cases work with
      | none =>
          refine .on [] (.acquire number (.finish run none .done)) ?_ rfl
          simp only [carryOut, execute, here]
          rfl
      | some work =>
          refine .on [.script (some run.task) scheduler.executor.turn.before]
            (.engage number run work scheduler.executor.turn) ?_ rfl
          simp only [carryOut, execute, here]
          split <;> rfl
  | engage other run work turn =>
      cases carries
      rw [step_cons agenda]
      cases runs : turn.runs with
      | false =>
          refine .on [.script (some run.task) turn.after]
            (.acquire number (.finish run (some work) (turn.status.getD .done))) ?_ rfl
          simp only [carryOut, engage, runs, Bool.false_eq_true, if_false]
          rfl
      | true =>
          simp only [carryOut, engage, runs, if_true, runWork]
          cases work with
          | task routine => exact .on [.script _ _] _ rfl rfl
          | copy pipeline routine => exact .on [.script _ _] _ rfl rfl
  | returned other run work verdict after =>
      cases carries
      rw [step_cons agenda]
      exact .on [.script _ _] _ rfl rfl
  | conclude other wakes result =>
      cases carries
      rw [step_cons agenda]
      simp only [carryOut, conclude, here]
      split
      · split
        · exact .on [] (.acquire number (.wake outcome _)) rfl rfl
        · exact .done rfl rfl
      · exact .done rfl rfl
  | _ => cases carries

theorem Reachable.reply_of_returns (reachable : Reachable machine)
    (found : machine.scheduler? number = some scheduler) {link : Activity}
    (agenda : machine.agenda = link :: below) (carries : link.outcome? = some (number, outcome))
    (returns : machine.Returns below steps) :
    (machine.run steps).reply = .ok (.outcome outcome) := by
  -- By induction on the steps left; a link of the pass may have others come before the next one.
  induction steps using Nat.strongRecOn generalizing machine scheduler link with
  | ind steps ih =>
      obtain ⟨fewer, rfl, later⟩ := returns.step (by simp [agenda])
      obtain ⟨kept, holds, _⟩ := step_config found
      rw [run_succ]
      cases reachable.step_hands found agenda carries with
      | on above next stepped carried =>
          obtain ⟨k, left, total, reached, remains⟩ := later.reaches stepped
          obtain ⟨last, there, _⟩ := run_config holds k
          rw [total, run_add]
          exact ih left (by omega) (reachable.step.run k) there reached carried remains
      | done stepped replied =>
          cases later.done stepped
          exact replied
      | leaving stepped replied =>
          obtain ⟨none, rfl, ended⟩ := later.step (by simp [stepped])
          rw [step_leave stepped holds] at ended
          cases ended.done rfl
          rw [run_succ, step_leave stepped holds]
          exact replied

theorem Reachable.section_alone (reachable : Reachable machine)
    (found : machine.scheduler? number = some scheduler) {part : Section}
    (agenda : machine.agenda = .acquire number part :: below)
    (alone : machine.interposed (machine.acquisitions + 1) = none)
    (returns : machine.Returns below steps) :
    ∃ fewer, steps = 3 + fewer ∧ (machine.run 3).Returns below fewer ∧
      machine.run 3 =
        { machine.enact number scheduler.config.line
            (part.effect scheduler number machine.clock machine.pipelines.length) below with
          acquisitions := machine.acquisitions + 1 } := by
  have free := reachable.free_of_agenda found agenda (fun leaves => by cases leaves)
  have acquired := step_acquire_alone agenda alone
  have holds : machine.step.scheduler? number = some scheduler := by
    rw [acquired]
    exact found
  have enters : machine.step.agenda = .enter number part :: below := by rw [acquired]
  have entered := step_enter_eq enters holds free rfl
  obtain ⟨_, rfl, entering⟩ := returns.step (by simp [agenda])
  obtain ⟨_, rfl, leaving⟩ := entering.step (by simp [enters])
  have longer : below.length < machine.step.step.agenda.length := by
    rw [entered]
    simp only [List.length_cons, List.length_append]
    omega
  obtain ⟨fewer, rfl, left⟩ := leaving.step longer
  refine ⟨fewer, by omega, ?_, run_section_alone agenda found free alone⟩
  rw [run_succ, run_succ, run_succ]
  exact left

/-- A pass in whose scans nobody interposes reports the idle outcome just if the first of them
chose nothing. -/
theorem Reachable.pass_reports (reachable : Reachable machine)
    (found : machine.scheduler? number = some scheduler) {wakes : Bool}
    (agenda : machine.agenda = .acquire number (.select wakes) :: below)
    (first : machine.interposed (machine.acquisitions + 1) = none)
    (second : machine.interposed (machine.acquisitions + 2) = none)
    (returns : machine.Returns below steps) :
    ∃ outcome, (machine.run steps).reply = .ok (.outcome outcome) ∧
      (outcome.isIdle = true ↔
        (scheduler.table.select machine.clock).selection.next = none) := by
  obtain ⟨fewer, rfl, selected, made⟩ := reachable.section_alone found agenda first returns
  have holds : (machine.run 3).scheduler? number =
      some { (Effect.select scheduler number machine.clock wakes).scheduler with
        locked := false } := by
    rw [made]
    exact scheduler?_setScheduler_self machine number scheduler _ found
  have table : (Effect.select scheduler number machine.clock wakes).scheduler.table =
      (scheduler.table.select machine.clock).table := by
    simp only [Effect.select]
    split
    · rfl
    · split <;> rfl
  have goes : (machine.run 3).agenda =
      (Effect.select scheduler number machine.clock wakes).next ++ below := by
    rw [made]
    rfl
  rw [run_add]
  rcases Effect.select_next scheduler number machine.clock wakes with
    ⟨link, outcome, only, carries, idle⟩ | ⟨task, record, only, next, held, queued, due⟩
  · rw [only] at goes
    exact ⟨outcome, (reachable.run 3).reply_of_returns holds goes carries selected, idle⟩
  · rw [only] at goes
    have alone : (machine.run 3).interposed ((machine.run 3).acquisitions + 1) = none := by
      rw [made]
      exact second
    obtain ⟨left, rfl, dispatched, done⟩ :=
      (reachable.run 3).section_alone holds goes alone selected
    rw [← table] at held
    obtain ⟨link, later, single, carries⟩ := Effect.dispatch_next
      { (Effect.select scheduler number machine.clock wakes).scheduler with locked := false }
      number wakes held queued due
    have links : ((machine.run 3).run 3).agenda = link :: below := by
      rw [done]
      exact congrArg (· ++ below) single
    obtain ⟨kept, there, _⟩ := run_config holds 3
    have replied := ((reachable.run 3).run 3).reply_of_returns there links carries dispatched
    rw [run_add]
    refine ⟨_, replied, iff_of_false Bool.false_ne_true ?_⟩
    rw [next]
    exact Option.some_ne_none task

/-- A scan at whatever instant chooses a task unless all that can start in time have all the
time there is, and a pass that nobody interposes in reports the idle outcome just in that case. -/
theorem idle_iff_allUnbounded (reachable : Reachable machine)
    (found : machine.scheduler? number = some scheduler) :
    (∀ current, (scheduler.table.select current).selection.next = none ↔
      scheduler.table.AllUnbounded current) ∧
    ∀ wakes below steps, machine.agenda = .acquire number (.select wakes) :: below →
      machine.interposed (machine.acquisitions + 1) = none →
      machine.interposed (machine.acquisitions + 2) = none →
      machine.Returns below steps →
      ∃ outcome, (machine.run steps).reply = .ok (.outcome outcome) ∧
        (outcome.isIdle = true ↔ scheduler.table.AllUnbounded machine.clock) := by
  have chooses (current : Ticks) := TaskTable.select_idle_iff
    (reachable.tableSound found).consistent.queueAgrees current
  refine ⟨chooses, fun wakes below steps agenda first second returns => ?_⟩
  obtain ⟨outcome, replied, idle⟩ := reachable.pass_reports found agenda first second returns
  exact ⟨outcome, replied, idle.trans (chooses machine.clock)⟩

/-- A scheduler with one task, which may take until the last instant there is. -/
def boundless : Machine :=
  let quiet : Nat → Option Script := fun _ => none
  let made := ((boot 0).exec 1 (.init ⟨1000000, 0, 7, 32⟩ .inline) quiet).exec 4
    (.scheduler 0 (.create [] .default)) quiet
  made.exec 4 (.scheduler 0 (.insert (some ⟨0, 0⟩) 0 18446744073709551615)) quiet

theorem boundless_reachable : Reachable boundless := by
  unfold boundless
  exact ((Reachable.boot 0).exec rfl 1 _ _ |>.exec rfl 4 _ _).exec rfl 4 _ _

def disregarding : Machine := (boundless.start (.scheduler 0 .runPass) fun _ => none).run 1

theorem disregarding_is_idle :
    disregarding.Returns [] 4 ∧
      ∃ scheduler outcome, disregarding.scheduler? 0 = some scheduler ∧
        (disregarding.run 4).reply = .ok (.outcome outcome) ∧
        (outcome.isIdle = true ↔ scheduler.table.AllUnbounded 0) := by
  have reachable : Reachable disregarding := .run (.start _ _ boundless_reachable rfl) 1
  have found : disregarding.scheduler? 0 = some _ := rfl
  have returns : disregarding.Returns [] 4 := ⟨rfl, by decide⟩
  obtain ⟨outcome, replied, idle⟩ :=
    (idle_iff_allUnbounded reachable found).2 false [] 4 rfl rfl rfl returns
  exact ⟨returns, _, outcome, found, replied, idle⟩

/-- Its task is queued and in time, and is not chosen. -/
theorem boundless_passed_over :
    ¬ ∀ (machine : Machine) (number : Nat) (scheduler : Scheduler) (current : Ticks)
      (task : TaskHandle) (record : TaskRecord Work),
      Reachable machine → machine.scheduler? number = some scheduler →
      task ∈ scheduler.table.queue → scheduler.table.find? task = some record →
      record.state = .queued → current < record.timing.effectiveDeadline →
      (scheduler.table.select current).selection.next ≠ none := by
  intro law
  exact law boundless 0 _ 0 ⟨0, 0⟩ _ boundless_reachable rfl List.mem_cons_self rfl rfl
    (by decide) rfl

end Machine

end EdfKernel
