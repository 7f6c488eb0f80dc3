import EdfKernel.Proofs.LabelledSteps

/-!
Labels decide nothing. Two runs make the same calls, with the same scripts in them and the same
scripts interposed, but with other labels; they go through states that nothing but labels tells
apart. A step does the same with the labels taken off, so the two runs are one run once they are
off, and whatever shows no label is read off that run.
-/

namespace EdfKernel

/-- Two records of a task, in two runs, that tell the scheduler the same. -/
structure TaskRecord.SameButLabels (left right : TaskRecord Work) : Prop where
  state : left.state = right.state
  timing : left.timing = right.timing
  missedDeadlines : left.missedDeadlines = right.missedDeadlines
  work : left.work.map Work.bare = right.work.map Work.bare

/-- Two schedulers, in two runs, with the same tasks in the same states. -/
structure Scheduler.SameButLabels (left right : Scheduler) : Prop where
  config : left.config = right.config
  inPass : left.inPass = right.inPass
  locked : left.locked = right.locked
  owned : left.owned = right.owned
  statistics : left.statistics = right.statistics
  issued : left.issued = right.issued
  queue : left.table.queue = right.table.queue
  tasks (task : TaskHandle) :
    Option.Rel TaskRecord.SameButLabels (left.table.find? task) (right.table.find? task)

namespace Machine

/-- Two machines that nothing but labels tells apart. Replies and events differ in the labels
of snapshots and of pipeline descriptions at most, the log in those of new tasks. -/
structure SameButLabels (left right : Machine) : Prop where
  clock : left.clock = right.clock
  rest : left.agenda = [] ↔ right.agenda = []
  reply : left.reply.bare = right.reply.bare
  events : left.events.map Event.bare = right.events.map Event.bare
  notices : left.notices.map Notice.bare = right.notices.map Notice.bare
  pending (line : Nat) : left.irq.isPending line = right.irq.isPending line
  enabled (line : Nat) : left.irq.isEnabled line = right.irq.isEnabled line
  maskDepth : left.irq.maskDepth = right.irq.maskDepth
  armedAt : left.timer.armedAt = right.timer.armedAt
  fired : left.timer.fired = right.timer.fired
  armings : left.timer.armings = right.timer.armings
  schedulers (number : Nat) :
    Option.Rel Scheduler.SameButLabels (left.scheduler? number) (right.scheduler? number)
  pipelines : left.pipelines.map Pipeline.bare = right.pipelines.map Pipeline.bare

/-- Two runs side by side that differ in the labels of their calls alone. -/
inductive Relabelled : Machine → Machine → Prop where
  | boot (start : Ticks) : Relabelled (boot start) (boot start)
  | start {left right : Machine} {call other : Call}
      {interposed otherwise : Nat → Option Script} :
      Relabelled left right → left.agenda = [] → call.bare = other.bare →
      (∀ moment, (interposed moment).map Script.bare = (otherwise moment).map Script.bare) →
      Relabelled (left.start call interposed) (right.start other otherwise)
  | step {left right : Machine} : Relabelled left right → Relabelled left.step right.step

end Machine

theorem TaskRecord.sameButLabels_of_bare {left right : TaskRecord Work}
    (same : left.bare = right.bare) : left.SameButLabels right where
  state := congrArg (·.state) same
  timing := congrArg (·.timing) same
  missedDeadlines := congrArg (·.missedDeadlines) same
  work := congrArg (·.work) same

theorem rel_of_map_eq {α β : Type} {bare : α → β} {R : α → α → Prop}
    (related : ∀ {a b}, bare a = bare b → R a b) {left right : Option α}
    (same : left.map bare = right.map bare) : Option.Rel R left right := by
  cases left with
  | none =>
      cases right with
      | none => exact .none
      | some _ => cases same
  | some a =>
      cases right with
      | none => cases same
      | some b => exact .some (related (Option.some.inj same))

theorem Scheduler.sameButLabels_of_bare {left right : Scheduler} (same : left.bare = right.bare) :
    left.SameButLabels right where
  config := congrArg (·.config) same
  inPass := congrArg (·.inPass) same
  locked := congrArg (·.locked) same
  owned := congrArg (·.owned) same
  statistics := congrArg (·.statistics) same
  issued := congrArg (·.issued) same
  queue := congrArg (·.table.queue) same
  tasks task := by
    have found := congrArg (fun scheduler : Scheduler => scheduler.table.find? task) same
    simp only [Scheduler.bare_table, TaskTable.find?_bare] at found
    exact rel_of_map_eq TaskRecord.sameButLabels_of_bare found

namespace Machine

theorem bare_start (machine : Machine) (call : Call) (interposed : Nat → Option Script) :
    (machine.start call interposed).bare =
      machine.bare.start call.bare fun moment => (interposed moment).map Script.bare := rfl

variable {left right : Machine}

theorem agenda_eq_nil_iff_of_bare (same : left.bare = right.bare) :
    left.agenda = [] ↔ right.agenda = [] := by
  have lengths : left.bare.agenda.length = right.bare.agenda.length :=
    congrArg (·.agenda.length) same
  simp only [bare, List.length_map] at lengths
  rw [← List.length_eq_zero_iff, lengths, List.length_eq_zero_iff]

theorem sameButLabels_of_bare (same : left.bare = right.bare) : left.SameButLabels right where
  clock := congrArg (·.clock) same
  rest := agenda_eq_nil_iff_of_bare same
  reply := congrArg (·.reply) same
  events := congrArg (·.events) same
  notices := congrArg (·.notices) same
  pending line := by
    have lines := congrArg (fun machine : Machine => machine.irq.isPending line) same
    simpa only [bare_irq, Controller.bare_isPending] using lines
  enabled line := by
    have lines := congrArg (fun machine : Machine => machine.irq.isEnabled line) same
    simpa only [bare_irq, Controller.bare_isEnabled] using lines
  maskDepth := congrArg (·.irq.maskDepth) same
  armedAt := by
    have slots := congrArg (fun machine : Machine => machine.timer.armedAt) same
    simpa only [bare_timer, Timer.bare_armedAt] using slots
  fired := congrArg (·.timer.fired) same
  armings := congrArg (·.timer.armings) same
  schedulers number := by
    have found := congrArg (fun machine : Machine => machine.scheduler? number) same
    simp only [scheduler?_bare] at found
    exact rel_of_map_eq Scheduler.sameButLabels_of_bare found
  pipelines := congrArg (·.pipelines) same

namespace Relabelled

theorem bare_eq (runs : Relabelled left right) : left.bare = right.bare := by
  -- By induction on the two runs; a step is taken without the labels.
  induction runs with
  | boot start => rfl
  | start _ _ calls interposals same =>
      rw [bare_start, bare_start, same, calls, funext interposals]
  | step _ same => rw [← bare_step, ← bare_step, same]

theorem reachable (runs : Relabelled left right) : Reachable left ∧ Reachable right := by
  induction runs with
  | boot start => exact ⟨.boot start, .boot start⟩
  | start runs rest _ _ both =>
      exact ⟨.start _ _ both.1 rest,
        .start _ _ both.2 ((agenda_eq_nil_iff_of_bare runs.bare_eq).mp rest)⟩
  | step _ both => exact ⟨.step both.1, .step both.2⟩

theorem run (runs : Relabelled left right) (fuel : Nat) :
    Relabelled (left.run fuel) (right.run fuel) := by
  induction fuel generalizing left right with
  | zero => exact runs
  | succ fuel ih =>
      rw [run_succ, run_succ]
      exact ih runs.step

theorem exec (runs : Relabelled left right) (rest : left.agenda = []) (fuel : Nat)
    {call other : Call} (calls : call.bare = other.bare) (interposed : Nat → Option Script) :
    Relabelled (left.exec fuel call interposed) (right.exec fuel other interposed) :=
  .run (.start runs rest calls fun _ => rfl) fuel

end Relabelled

/-- Whatever labels the calls of a run and the scripts in them bear, the run goes through the
same states, but for the labels. -/
theorem labels_have_no_influence (runs : Relabelled left right) :
    Reachable left ∧ Reachable right ∧ left.SameButLabels right :=
  ⟨runs.reachable.1, runs.reachable.2, sameButLabels_of_bare runs.bare_eq⟩

/-- A task has run whose work created another one, both with these labels, and is looked at. -/
def inspected (priority : UInt16) (core : UInt8) : Machine :=
  let quiet : Nat → Option Script := fun _ => none
  let settings : TaskSettings := ⟨100, priority, core⟩
  let made := ((boot 0).exec 1 (.init .default .inline) quiet).exec 4
    (.scheduler 0 (.create [⟨[.scheduler 0 (.create [] settings)], .done⟩] settings)) quiet
  let admitted := made.exec 4 (.scheduler 0 (.insert (some ⟨0, 0⟩) 0 1000)) quiet
  (admitted.exec 23 (.scheduler 0 .runPass) quiet).exec 4
    (.scheduler 0 (.inspect (some ⟨0, 0⟩))) quiet

theorem inspected_same_but_labels :
    Relabelled (inspected 3 1) (inspected 250 7) ∧
      (inspected 3 1).reply ≠ (inspected 250 7).reply ∧
      Reachable (inspected 3 1) ∧ Reachable (inspected 250 7) ∧
      (inspected 3 1).SameButLabels (inspected 250 7) := by
  have runs : Relabelled (inspected 3 1) (inspected 250 7) := by
    unfold inspected
    exact .exec (.exec (.exec (.exec (.exec (.boot 0) rfl 1 (by rfl) _) (by rfl) 4 (by rfl) _)
      (by rfl) 4 (by rfl) _) (by rfl) 23 (by rfl) _) (by rfl) 4 (by rfl) _
  have first : (inspected 3 1).reply =
    .ok (.snapshot (some ⟨⟨0, 0⟩, .completed, ⟨0, 19200, 100⟩, 3, 1, 0⟩)) := rfl
  have second : (inspected 250 7).reply =
    .ok (.snapshot (some ⟨⟨0, 0⟩, .completed, ⟨0, 19200, 100⟩, 250, 7, 0⟩)) := rfl
  exact ⟨runs, by rw [first, second]; decide, labels_have_no_influence runs⟩

end Machine

end EdfKernel
