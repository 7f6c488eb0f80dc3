import EdfKernel.Proofs.CallerSections
import EdfKernel.Proofs.DispatchSteps

/-!
When the handlers of interrupts start. A dispatch looks once, at its beginning, whether interrupts
are masked; from there it sweeps the lines, each time from where the last handler came back. So
between two handlers nobody asks again, and what a handler leaves masked is masked when the next
one starts.
-/

namespace EdfKernel

namespace Machine

variable {machine : Machine} {tally : Tally} {rest below above : List Activity}
  {line delivered : Nat} {levels : List UInt32}

/-- A dispatch that found interrupts open has come to this line. Of each handler it has started,
the latest in front, it is told how deeply interrupts were masked when the handler came back. -/
inductive Sweeps (tally : Tally) (rest : List Activity) : Machine → Nat → List UInt32 → Prop where
  | entry {machine : Machine} (reachable : Reachable machine)
      (dispatches : machine.Dispatches tally rest) (unmasked : machine.irq.isMasked = false) :
      Sweeps tally rest machine.step 0 []
  | passed {machine : Machine} {line : Nat} {levels : List UInt32}
      (sweeps : Sweeps tally rest machine line levels) (inside : line < lineCount)
      (passes : machine.irq.startsHandler line = false) :
      Sweeps tally rest machine.step (line + 1) levels
  | served {machine : Machine} {line steps : Nat} {levels : List UInt32}
      (sweeps : Sweeps tally rest machine line levels)
      (starts : machine.irq.startsHandler line = true)
      (returns : machine.step.Returns
        (.sweep (line + 1) (levels.length + 1) tally :: rest) steps) :
      Sweeps tally rest (machine.step.run steps) (line + 1)
        ((machine.step.run steps).irq.maskDepth :: levels)

namespace Sweeps

theorem agenda (sweeps : Sweeps tally rest machine line levels) :
    machine.agenda = .sweep line levels.length tally :: rest := by
  induction sweeps with
  | entry _ dispatches unmasked => rw [dispatches.step_open unmasked]; rfl
  | passed _ inside passes ih => rw [step_over ih inside passes]
  | served _ _ returns => exact returns.back

theorem maskDepth (sweeps : Sweeps tally rest machine line levels) :
    machine.irq.maskDepth = levels.headD 0 := by
  induction sweeps with
  | @entry machine _ dispatches unmasked =>
      have zero : machine.irq.maskDepth = 0 := by
        simpa [Controller.isMasked] using unmasked
      rw [dispatches.step_open unmasked]
      exact zero
  | passed sweeps inside passes ih =>
      rw [step_over sweeps.agenda inside passes]
      exact (Controller.maskDepth_passOver ..).trans ih
  | served => rfl

end Sweeps

inductive Serving (machine : Machine) (line delivered : Nat) (tally : Tally)
    (rest : List Activity) : Prop where
  | intro {earlier : Machine} {last steps : Nat} {levels : List UInt32}
      (sweeps : Sweeps tally rest earlier last levels)
      (starts : earlier.irq.startsHandler last = true) (next : line = last + 1)
      (counted : delivered = levels.length + 1) (now : machine = earlier.step.run steps)
      (above : ∀ k ≤ steps, rest.length + 1 < (earlier.step.run k).agenda.length)

inductive SweepStacked (machine : Machine) (line delivered : Nat) (tally : Tally)
    (rest : List Activity) : List Activity → Prop where
  | front {levels : List UInt32} (sweeps : Sweeps tally rest machine line levels)
      (counted : delivered = levels.length) : SweepStacked machine line delivered tally rest []
  | waiting (above : List Activity) (more : above ≠ [])
      (serving : machine.Serving line delivered tally rest) :
      SweepStacked machine line delivered tally rest above

theorem SweepStacked.of_started {steps : Nat} (sweeps : Sweeps tally rest machine line levels)
    (starts : machine.irq.startsHandler line = true)
    (before : ∀ k < steps, rest.length + 1 < (machine.step.run k).agenda.length)
    (agenda : (machine.step.run steps).agenda =
      above ++ .sweep (line + 1) (levels.length + 1) tally :: rest) :
    (machine.step.run steps).SweepStacked (line + 1) (levels.length + 1) tally rest above := by
  by_cases nothing : above = []
  · subst nothing
    exact .front (.served sweeps starts ⟨agenda, before⟩) rfl
  · refine .waiting above nothing (.intro sweeps starts rfl rfl rfl fun k less => ?_)
    rcases Nat.lt_or_eq_of_le less with fewer | rfl
    · exact before k fewer
    · rw [agenda, List.length_append, List.length_cons]
      have longer := List.length_pos_of_ne_nil nothing
      omega

theorem Serving.step (serving : machine.Serving line delivered tally rest)
    (agenda : machine.step.agenda = above ++ .sweep line delivered tally :: rest) :
    machine.step.SweepStacked line delivered tally rest above := by
  obtain @⟨earlier, last, steps, levels, sweeps, starts, rfl, rfl, rfl, before⟩ := serving
  have later : (earlier.step.run steps).step = earlier.step.run (steps + 1) := by
    rw [run_add, run_one]
  rw [later] at agenda ⊢
  exact .of_started sweeps starts (fun k less => before k (Nat.le_of_lt_succ less)) agenda

theorem mem_of_new {front : List Activity} {duty : Activity}
    (same : front ++ below = above ++ duty :: rest) (new : below.length ≤ rest.length) :
    duty ∈ front := by
  rcases List.append_eq_append_iff.mp same with ⟨more, _, deeper⟩ | ⟨more, same, here⟩
  · have lengths := congrArg List.length deeper
    simp at lengths
    omega
  · cases more with
    | nil =>
        have lengths := congrArg List.length here
        simp at lengths
        omega
    | cons first more =>
        obtain ⟨rfl, _⟩ := List.cons.inj here
        rw [same]
        exact List.mem_append_right _ List.mem_cons_self

theorem below_of_old {front : List Activity} {duty : Activity}
    (same : front ++ below = above ++ duty :: rest) (old : rest.length < below.length) :
    ∃ more, above = front ++ more ∧ below = more ++ duty :: rest := by
  rcases List.append_eq_append_iff.mp same with ⟨more, longer, here⟩ | ⟨more, longer, here⟩
  · exact ⟨more, longer, here⟩
  · have lengths := congrArg List.length here
    simp at lengths
    have nothing : more = [] := List.eq_nil_of_length_eq_zero (by omega)
    subst nothing
    exact ⟨[], by rw [longer]; simp, here.symm⟩

theorem sweep_of_unswept {front : List Activity} {last : Activity}
    (same : front ++ last :: below = above ++ .sweep line delivered tally :: rest)
    (unswept : ∀ duty ∈ front, duty.isSweep = false) (new : below.length ≤ rest.length) :
    above = front ∧ last = .sweep line delivered tally ∧ rest = below := by
  induction front generalizing above with
  | nil =>
      cases above with
      | nil =>
          cases same
          exact ⟨rfl, rfl, rfl⟩
      | cons first above =>
          have lengths := congrArg List.length same
          simp at lengths
          omega
  | cons first front ih =>
      cases above with
      | nil =>
          obtain ⟨rfl, _⟩ := List.cons.inj same
          cases unswept _ List.mem_cons_self
      | cons other above =>
          obtain ⟨rfl, behind⟩ := List.cons.inj same
          obtain ⟨rfl, rest⟩ := ih behind fun duty member =>
            unswept duty (List.mem_cons_of_mem _ member)
          exact ⟨rfl, rest⟩

section NewSweep

variable (agenda : machine.step.agenda = above ++ .sweep line delivered tally :: rest)
  (new : below.length ≤ rest.length)

include agenda new

theorem not_tally_of_new {count : Nat} {hand : Tally} :
    machine.step ≠ ({ machine with agenda := below } : Machine).tally count hand := by
  intro stepped
  obtain ⟨_, here, unswept⟩ :=
    ({ machine with agenda := below } : Machine).tally_unswept count hand
  rw [← stepped] at here
  cases unswept _ (mem_of_new (here.symm.trans agenda) new)

theorem sweep_of_alone {last : Activity} (alone : machine.step.agenda = last :: below) :
    above = [] ∧ last = .sweep line delivered tally ∧ rest = below := by
  have same : [] ++ last :: below = above ++ .sweep line delivered tally :: rest :=
    alone.symm.trans agenda
  exact sweep_of_unswept same (by simp) new

theorem SweepStacked.of_dispatch {hand : Tally} (reachable : Reachable machine)
    (dispatches : machine.Dispatches hand below) :
    machine.step.SweepStacked line delivered tally rest above := by
  cases masked : machine.irq.isMasked with
  | true => exact absurd (dispatches.step_masked masked) (not_tally_of_new agenda new)
  | false =>
      obtain ⟨rfl, last, rfl⟩ :=
        sweep_of_alone agenda new (congrArg Machine.agenda (dispatches.step_open masked))
      cases last
      exact .front (.entry reachable dispatches masked) rfl

theorem SweepStacked.of_sweep {at' : Nat} {hand : Tally}
    (earlier : Sweeps hand below machine at' levels) :
    machine.step.SweepStacked line delivered tally rest above := by
  have front := earlier.agenda
  by_cases inside : at' < lineCount
  case neg =>
    exact absurd (step_swept front (Nat.le_of_not_lt inside)) (not_tally_of_new agenda new)
  case pos =>
    cases starts : machine.irq.startsHandler at' with
    | false =>
        obtain ⟨rfl, last, rfl⟩ :=
          sweep_of_alone agenda new (congrArg Machine.agenda (step_over front inside starts))
        cases last
        exact .front (.passed earlier inside starts) rfl
    | true =>
        obtain ⟨_, here, unswept⟩ := step_serve front starts
        obtain ⟨rfl, last, rfl⟩ := sweep_of_unswept (here.symm.trans agenda) unswept new
        cases last
        exact .of_started earlier starts (fun k less => absurd less (Nat.not_lt_zero k)) agenda

theorem SweepStacked.of_new {activity : Activity} (reachable : Reachable machine)
    (front : machine.agenda = activity :: below)
    (before : ∀ at' count hand, activity = .sweep at' count hand →
      machine.SweepStacked at' count hand below []) :
    machine.step.SweepStacked line delivered tally rest above := by
  obtain ⟨added, stacked, swept⟩ := step_swept_by front
  have sweeps := swept _ (mem_of_new (stacked.symm.trans agenda) new) rfl
  cases activity with
  | call current call =>
      cases call with
      | platform call =>
          cases call with
          | dispatch => exact .of_dispatch agenda new reachable (.call current rfl front)
          | _ => cases sweeps
      | _ => cases sweeps
  | dispatch hand => exact .of_dispatch agenda new reachable (.round front)
  | sweep at' count hand =>
      cases before at' count hand rfl with
      | waiting _ more => exact absurd rfl more
      | front earlier _ => exact .of_sweep agenda new earlier
  | _ => cases sweeps

end NewSweep

/-- Every sweep on the stack is that of a dispatch that found interrupts open. -/
theorem Reachable.sweep_stacked (reachable : Reachable machine)
    (agenda : machine.agenda = above ++ .sweep line delivered tally :: rest) :
    machine.SweepStacked line delivered tally rest above := by
  induction reachable generalizing above line delivered tally rest with
  | boot start =>
      have nothing : [] = above ++ .sweep line delivered tally :: rest := agenda
      cases List.append_eq_nil_iff.mp nothing.symm |>.2
  | start call interposed _ _ _ =>
      have called : [.call none call] ++ [] = above ++ .sweep line delivered tally :: rest := agenda
      cases List.mem_singleton.mp (mem_of_new called (Nat.zero_le _))
  | @step machine reachable ih =>
      cases front : machine.agenda with
      | nil =>
          rw [step_of_isIdle machine (by simp [isIdle, front])] at agenda ⊢
          exact ih agenda
      | cons activity below =>
          by_cases new : below.length ≤ rest.length
          · refine .of_new agenda new reachable front fun at' count hand same => ?_
            subst same
            exact ih front
          · obtain ⟨added, stacked, _⟩ := step_swept_by front
            obtain ⟨more, rfl, deeper⟩ :=
              below_of_old (stacked.symm.trans agenda) (Nat.lt_of_not_le new)
            rw [deeper] at front
            have waits : machine.SweepStacked line delivered tally rest (activity :: more) :=
              ih front
            cases waits with
            | waiting _ _ serving => exact serving.step agenda

theorem Reachable.sweeps (reachable : Reachable machine)
    (agenda : machine.agenda = .sweep line delivered tally :: rest) :
    ∃ levels, Sweeps tally rest machine line levels ∧ levels.length = delivered := by
  have stacked : machine.SweepStacked line delivered tally rest [] := reachable.sweep_stacked agenda
  cases stacked with
  | front sweeps counted => exact ⟨_, sweeps, counted.symm⟩
  | waiting _ more => exact absurd rfl more

/-- How interrupts are masked when handlers start. A dispatch that finds them masked starts none and
is over at once. A handler that is about to start belongs to a dispatch that found them open, and
starts masked if and only if the last handler that this dispatch has started came back with
interrupts masked; so the first one never does, and none if all before it came back with
interrupts open. -/
theorem handler_starts_masked_iff (reachable : Reachable machine) :
    (∀ tally rest, machine.Dispatches tally rest → machine.irq.isMasked = true →
      machine.step = ({ machine with agenda := rest } : Machine).tally 0 tally) ∧
    ∀ line delivered tally rest, machine.agenda = .sweep line delivered tally :: rest →
      machine.irq.startsHandler line = true →
      ∃ levels, Sweeps tally rest machine line levels ∧ levels.length = delivered ∧
        machine.irq.maskDepth = levels.headD 0 ∧
        (machine.irq.isMasked = true ↔ ∃ depth earlier, levels = depth :: earlier ∧ 0 < depth) := by
  refine ⟨fun tally rest dispatches masked => dispatches.step_masked masked, ?_⟩
  intro line delivered tally rest agenda _
  obtain ⟨levels, sweeps, counted⟩ := reachable.sweeps agenda
  refine ⟨levels, sweeps, counted, sweeps.maskDepth, ?_⟩
  rw [Controller.isMasked, sweeps.maskDepth]
  cases levels with
  | nil => simp
  | cons depth earlier => simp

/-- Two lines are raised, and the handler of the first one masks interrupts. -/
def withholding : Machine :=
  let alone : Nat → Option Script := fun _ => none
  let setUp : List Call :=
    [.platform (.register 1 [[.platform (.clear 1), .platform .mask]]),
      .platform (.register 2 [[.platform (.clear 2)]]),
      .platform (.enable 1), .platform (.enable 2),
      .platform (.request 1), .platform (.request 2)]
  (setUp.foldl (fun machine call => machine.exec 1 call alone) (boot 0)).start
    (.platform .dispatch) alone

theorem withholding_reachable : Reachable withholding := by
  unfold withholding
  refine .start _ _ (.exec (.exec (.exec (.exec (.exec (.exec (.boot 0) ?_ _ _ _) ?_ _ _ _)
    ?_ _ _ _) ?_ _ _ _) ?_ _ _ _) ?_ _ _ _) ?_ <;> rfl

/-- The second handler starts masked, since the first one came back so. -/
theorem withholding_masked :
    ∃ levels, Sweeps .caller [] (withholding.run 10) 2 levels ∧ levels.length = 1 ∧
      ∃ depth earlier, levels = depth :: earlier ∧ 0 < depth := by
  have reachable := withholding_reachable.run 10
  obtain ⟨levels, sweeps, counted, _, masked⟩ :=
    (handler_starts_masked_iff reachable).2 2 1 .caller [] rfl rfl
  exact ⟨levels, sweeps, counted, masked.mp rfl⟩

/-- A dispatch starts a handler while interrupts are masked, though its line was raised when the
mask was taken: it does not stay so for a later dispatch. -/
theorem handler_starts_under_mask :
    Reachable withholding ∧ withholding.Dispatches .caller [] ∧
      withholding.irq.isMasked = false ∧
      (withholding.run 10).agenda = [.sweep 2 1 .caller] ∧
      (withholding.run 10).irq.startsHandler 2 = true ∧
      (withholding.run 10).irq.isMasked = true ∧
      (withholding.run 10).irq.isPending 2 = true ∧
      (withholding.run 60).agenda = [] ∧ (withholding.run 60).reply = .ok (.count 2) ∧
      (withholding.run 60).irq.isMasked = true ∧ (withholding.run 60).irq.isPending 2 = false :=
  ⟨withholding_reachable, .call none rfl rfl, rfl, rfl, rfl, rfl, rfl, rfl, rfl, rfl, rfl⟩

end Machine

end EdfKernel
