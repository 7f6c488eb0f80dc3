import EdfKernel.Proofs.Stack

/-!
The lock of a scheduler is held from `enter` to `leave` and at no other moment between two
steps: whoever is about to do anything else finds it free. So a section that a caller asks
for comes to its end, and the call is over with what the section did and nothing else.
-/

namespace EdfKernel

theorem Move.locked_cases {number : Nat} {clock : Ticks} {pipelines : Nat}
    {done : Option Activity} {before after : Focus}
    (move : Move number clock pipelines done before after) {scheduler : Scheduler}
    (found : after.scheduler = some scheduler) (locked : scheduler.locked = true) :
    (∃ earlier, before.scheduler = some earlier ∧ earlier.locked = true) ∨
      ∃ earlier part, before.scheduler = some earlier ∧ earlier.locked = false ∧
        done = some (.enter number part) := by
  cases move with
  | rest | ask | acquire | run | spare | back => exact .inl ⟨scheduler, found, locked⟩
  | drop earlier | coalesce earlier | begin earlier | hand earlier | skip earlier
  | conclude earlier | lookUp earlier =>
      cases found
      exact .inl ⟨earlier, rfl, locked⟩
  | enter earlier duties part free => exact .inr ⟨earlier, part, rfl, free, rfl⟩
  | setUp | leave =>
      cases found
      cases locked
  | vanish => cases found

namespace Machine

variable {machine : Machine} {number : Nat} {scheduler : Scheduler} {part : Section}
  {rest : List Activity} {steps : Nat}

/-- While the lock of a scheduler is held, to leave its section is what comes next. -/
theorem Reachable.leave_of_locked (reachable : Reachable machine)
    (found : machine.scheduler? number = some scheduler) (locked : scheduler.locked = true) :
    ∃ rest, machine.agenda = .leave number :: rest := by
  induction reachable generalizing scheduler with
  | boot start => cases found
  | start call interposed _ rest ih =>
      obtain ⟨below, agenda⟩ := ih found locked
      rw [rest] at agenda
      cases agenda
  | @step machine _ ih =>
      obtain ⟨done, comes, move⟩ := step_moves machine number
      rcases move.locked_cases found locked with
        ⟨earlier, held, before⟩ | ⟨earlier, part, held, free, enters⟩
      · obtain ⟨rest, agenda⟩ := ih held before
        have freed := scheduler?_setScheduler_self machine number earlier
          { earlier with locked := false } held
        rw [step_leave agenda held] at found
        cases freed.symm.trans found
        cases locked
      · obtain ⟨rest, agenda⟩ := comes _ enters
        rw [step_enter_eq agenda held free rfl]
        exact ⟨_, rfl⟩

theorem Reachable.free_of_agenda (reachable : Reachable machine)
    (found : machine.scheduler? number = some scheduler) {activity : Activity}
    (agenda : machine.agenda = activity :: rest) (stays : activity ≠ .leave number) :
    scheduler.locked = false := by
  rw [← Bool.not_eq_true]
  intro locked
  obtain ⟨below, leaves⟩ := reachable.leave_of_locked found locked
  rw [agenda] at leaves
  exact stays (List.head_eq_of_cons_eq leaves)

theorem step_acquire_alone (agenda : machine.agenda = .acquire number part :: rest)
    (alone : machine.interposed (machine.acquisitions + 1) = none) :
    machine.step =
      { machine with
        acquisitions := machine.acquisitions + 1
        agenda := .enter number part :: rest } := by
  rw [step_cons agenda]
  simp only [carryOut, acquire, push, alone, List.cons_append, List.nil_append]

theorem step_call_part {current : Option TaskHandle} {call : SchedulerCall Call}
    (agenda : machine.agenda = .call current (.scheduler number call) :: rest)
    (found : machine.scheduler? number = some scheduler) (owned : scheduler.owned = true)
    (asks : call.part? current = some part) :
    machine.step = { machine with agenda := .acquire number part :: rest } := by
  have here : ({ machine with agenda := rest } : Machine).scheduler? number =
      some scheduler := found
  rw [step_cons agenda]
  simp only [carryOut, perform, here, owned, if_true]
  cases call <;> cases asks <;> rfl

/-- The machine after a section that had this effect, once the lock is free again. -/
def enact (machine : Machine) (number : Nat) (line : Nat) (effect : Effect)
    (rest : List Activity) : Machine :=
  { machine with
    irq := if effect.requests then machine.irq.request line else machine.irq
    timer :=
      (effect.arms.map fun instant => machine.timer.armAt instant (.scheduler number)).getD
        machine.timer
    schedulers := machine.schedulers.set number (some { effect.scheduler with locked := false })
    pipelines := machine.pipelines ++ effect.attaches.toList
    notices := machine.notices ++ effect.notices.toArray
    reply := effect.reply.getD machine.reply
    agenda := effect.next ++ rest }

theorem set_unlocked (found : machine.scheduler? number = some scheduler)
    (free : scheduler.locked = false) :
    machine.schedulers.set number (some { scheduler with locked := false }) =
      machine.schedulers := by
  obtain ⟨inside, same⟩ := List.getElem?_eq_some_iff.mp (Option.join_eq_some_iff.mp found)
  rw [← free, ← same]
  exact List.set_getElem_self inside

theorem run_section (agenda : machine.agenda = .enter number part :: rest)
    (found : machine.scheduler? number = some scheduler) (free : scheduler.locked = false) :
    machine.run 2 =
      machine.enact number scheduler.config.line
        (part.effect scheduler number machine.clock machine.pipelines.length) rest := by
  generalize made : part.effect scheduler number machine.clock machine.pipelines.length = effect
  have entered := step_enter_eq agenda found free made
  have inside := length_of_scheduler? machine number scheduler found
  have held : machine.step.scheduler? number = some { effect.scheduler with locked := true } := by
    rw [entered]
    exact scheduler?_setScheduler_self machine number scheduler _ found
  have leaves : machine.step.agenda = .leave number :: (effect.next ++ rest) := by rw [entered]
  have left := step_leave leaves held
  have lowered : (if effect.requests then machine.irq.mask.request scheduler.config.line
      else machine.irq.mask).unmask =
        if effect.requests then machine.irq.request scheduler.config.line else machine.irq := by
    split
    · rw [Controller.request, Controller.modify_mask, Controller.unmask_mask]
      rfl
    · exact machine.irq.unmask_mask
  rw [run_succ, run_succ, run, left, entered]
  simp only [enact, List.set_set, lowered]

theorem run_section_alone (agenda : machine.agenda = .acquire number part :: rest)
    (found : machine.scheduler? number = some scheduler) (free : scheduler.locked = false)
    (alone : machine.interposed (machine.acquisitions + 1) = none) :
    machine.run 3 =
      { machine.enact number scheduler.config.line
          (part.effect scheduler number machine.clock machine.pipelines.length) rest with
        acquisitions := machine.acquisitions + 1 } := by
  rw [run_succ, step_acquire_alone agenda alone]
  exact run_section rfl found free

/-- A caller's section is next, or the call that asks for it and before which nobody else
comes; so many steps later it is over. -/
inductive Poised (machine : Machine) (number : Nat) (scheduler : Scheduler) (part : Section)
    (rest : List Activity) : Nat → Prop where
  | waiting (found : machine.scheduler? number = some scheduler)
      (agenda : machine.agenda = .enter number part :: rest) :
      Poised machine number scheduler part rest 2
  | asking (current : Option TaskHandle) (call : SchedulerCall Call)
      (found : machine.scheduler? number = some scheduler) (owned : scheduler.owned = true)
      (agenda : machine.agenda = .call current (.scheduler number call) :: rest)
      (asks : call.part? current = some part)
      (alone : machine.interposed (machine.acquisitions + 1) = none) :
      Poised machine number scheduler part rest 4

namespace Poised

theorem found (poised : machine.Poised number scheduler part rest steps) :
    machine.scheduler? number = some scheduler := by
  cases poised with
  | waiting found | asking _ _ found => exact found

theorem free (poised : machine.Poised number scheduler part rest steps)
    (reachable : Reachable machine) : scheduler.locked = false := by
  cases poised with
  | waiting found agenda | asking _ _ found _ agenda =>
      apply reachable.free_of_agenda found agenda
      intro leaves
      cases leaves

theorem run (poised : machine.Poised number scheduler part rest steps)
    (reachable : Reachable machine) :
    ∃ acquisitions, machine.run steps =
      { machine.enact number scheduler.config.line
          (part.effect scheduler number machine.clock machine.pipelines.length) rest with
        acquisitions } := by
  have free := poised.free reachable
  cases poised with
  | waiting found agenda => exact ⟨machine.acquisitions, run_section agenda found free⟩
  | asking current call found owned agenda asks alone =>
      refine ⟨machine.acquisitions + 1, ?_⟩
      rw [run_succ, step_call_part agenda found owned asks]
      exact run_section_alone rfl found free alone

end Poised

end Machine

end EdfKernel
