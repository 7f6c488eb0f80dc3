import EdfKernel.Proofs.LockedSections
import EdfKernel.Proofs.PipelineTasks

/-!
A call that needs a table, from the moment it asks for the lock. Whoever comes first has its
way, and then the section is entered; nobody comes between a section and its end, so a section
that leaves nothing to do ends the call two steps later.
-/

namespace EdfKernel

namespace Machine

variable {machine : Machine} {number p : Nat} {scheduler : Scheduler} {part : Section}
  {below : List Activity} {steps : Nat} {pipeline : Pipeline}

theorem run_one (machine : Machine) : machine.run 1 = machine.step := run_succ machine 0

theorem length_below {activity : Activity} (agenda : machine.agenda = activity :: below) :
    below.length < machine.agenda.length := by
  rw [agenda]
  exact Nat.lt_succ_self _

theorem Returns.succ (returns : machine.step.Returns below steps)
    (more : below.length < machine.agenda.length) : machine.Returns below (steps + 1) := by
  constructor
  · rw [run_succ]
    exact returns.back
  · intro k less
    cases k with
    | zero => exact more
    | succ k =>
        rw [run_succ]
        exact returns.above k (Nat.lt_of_succ_lt_succ less)

theorem Returns.of_back (back : machine.agenda = below) : machine.Returns below 0 :=
  ⟨back, fun k less => absurd less (Nat.not_lt_zero k)⟩

theorem Returns.rest {k left : Nat} (returns : machine.Returns below (k + left)) :
    (machine.run k).Returns below left := by
  constructor
  · rw [← run_add]
    exact returns.back
  · intro j less
    rw [← run_add]
    exact returns.above (k + j) (Nat.add_lt_add_left less k)

theorem Returns.ends (returns : machine.Returns below steps) {k : Nat} (before : k < steps)
    (back : (machine.run (k + 1)).agenda = below) : steps = k + 1 := by
  by_contra apart
  have above := returns.above (k + 1) (by omega)
  rw [back] at above
  exact Nat.lt_irrefl _ above

theorem Returns.of_acquire (returns : machine.Returns below steps)
    (agenda : machine.agenda = .acquire number part :: below) :
    ∃ k fewer, steps = k + fewer ∧ (machine.run k).agenda = .enter number part :: below ∧
      (machine.run k).Returns below fewer := by
  obtain ⟨later, rfl, after⟩ := returns.step (length_below agenda)
  obtain ⟨above, acquired⟩ := step_acquire agenda
  obtain ⟨k, fewer, total, entering, back⟩ := after.reaches acquired
  exact ⟨k + 1, fewer, by omega, by rw [run_succ]; exact entering, by rw [run_succ]; exact back⟩

section Entered

variable (reachable : Reachable machine) (agenda : machine.agenda = .enter number part :: below)
  (found : machine.scheduler? number = some scheduler)

include reachable agenda found

theorem Reachable.step_enter_agenda :
    machine.step.agenda = .leave number ::
      ((part.effect scheduler number machine.clock machine.pipelines.length).next ++ below) := by
  have free := reachable.free_of_agenda found agenda fun leaves => by cases leaves
  rw [step_enter_eq agenda found free rfl]

theorem Reachable.run_enter :
    machine.run 2 =
      machine.enact number scheduler.config.line
        (part.effect scheduler number machine.clock machine.pipelines.length) below :=
  run_section agenda found (reachable.free_of_agenda found agenda fun leaves => by cases leaves)

theorem Reachable.returns_enter
    (ended : (part.effect scheduler number machine.clock machine.pipelines.length).next = []) :
    machine.Returns below 2 := by
  have left := congrArg Machine.agenda (reachable.run_enter agenda found)
  rw [run_succ, run_succ, Machine.run] at left
  refine .succ (.succ (.of_back ?_) ?_) (length_below agenda)
  · rw [left, enact, ended]
    rfl
  · rw [reachable.step_enter_agenda agenda found, ended]
    exact Nat.lt_succ_self _

end Entered

theorem Reachable.scheduler_of_pipeline (reachable : Reachable machine)
    (found : machine.pipelines[p]? = some pipeline) :
    ∃ scheduler, machine.scheduler? pipeline.scheduler = some scheduler := by
  have issued := (reachable.handedOut pipeline.scheduler).home p pipeline.task
    ⟨pipeline, found, rfl, rfl⟩
  cases held : machine.scheduler? pipeline.scheduler with
  | none =>
      rw [Focus.issued, focus, held] at issued
      cases issued
  | some scheduler => exact ⟨scheduler, rfl⟩

end Machine

end EdfKernel
