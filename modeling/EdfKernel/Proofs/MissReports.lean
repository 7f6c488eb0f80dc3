import EdfKernel.Proofs.LockedSections
import EdfKernel.Proofs.TaskEvents

/-!
What `check` tells of a task. It reports a miss just if the last event of the task was that a
scan gave it up, with the deadline of the window that it missed, and the state of the task in
all other cases. What is told of a task follows from its history, so it does not change while
nothing happens to the task.
-/

namespace EdfKernel

namespace Marks

theorem replay_of_head? {events : List TaskEvent} {event : TaskEvent}
    (last : events.head? = some event) :
    replay events = ⟨event.state.stage, event.state.cancelReason⟩ := by
  obtain ⟨earlier, rfl⟩ := List.head?_eq_some_iff.mp last
  exact after_eq _ event

theorem replay_reason (events : List TaskEvent) :
    (replay events).reason.isSome = true ↔ (replay events).stage = .cancelled := by
  cases events with
  | nil => simp [replay, fresh]
  | cons event earlier =>
      rw [replay, after_eq]
      cases event <;> simp [TaskEvent.state, TaskState.stage, TaskState.cancelReason]

end Marks

/-- What `check` tells of a task whose last event this was. -/
def TaskEvent.told (task : TaskHandle) : TaskEvent → Except SchedulerError TaskState
  | .missed deadline => .error (.deadlineMissed task deadline)
  | event => .ok event.state

theorem TaskEvent.told_eq_error_iff {task : TaskHandle} {event : TaskEvent} {deadline : Ticks} :
    event.told task = .error (.deadlineMissed task deadline) ↔ event = .missed deadline := by
  cases event <;> simp [told]

theorem TaskEvent.told_of_ne {task : TaskHandle} {event : TaskEvent}
    (apart : ∀ deadline, event ≠ .missed deadline) : event.told task = .ok event.state := by
  cases event with
  | missed deadline => exact absurd rfl (apart deadline)
  | _ => rfl

def checkReply : Except SchedulerError TaskState → Reply
  | .error error => .failed (.scheduler error)
  | .ok state => .ok (.state state)

namespace Machine

variable {machine : Machine} {number : Nat} {scheduler : Scheduler} {task : TaskHandle}
  {record : TaskRecord Work} {past : List Machine}

theorem Poised.check_reply {rest : List Activity} {steps : Nat}
    (poised : machine.Poised number scheduler (.check task) rest steps)
    (reachable : Reachable machine) :
    (machine.run steps).reply = checkReply (scheduler.table.check task) := by
  obtain ⟨_, ended⟩ := poised.run reachable
  rw [ended]
  simp only [enact, Section.effect, Effect.check]
  cases scheduler.table.check task <;> rfl

theorem Trail.check_eq (trail : Trail past machine)
    (found : machine.scheduler? number = some scheduler)
    (live : scheduler.table.find? task = some record) :
    ∃ event, (history number task past).head? = some event ∧ record.state = event.state ∧
      scheduler.table.check task = event.told task := by
  obtain ⟨event, last, state, deadline⟩ := trail.last_event found live
  refine ⟨event, last, state, ?_⟩
  unfold TaskTable.check
  rw [live]
  cases event with
  | missed instant =>
      have missed : record.state = .cancelled .deadlineMissed := state
      dsimp only
      rw [if_pos missed, deadline instant rfl]
      rfl
  | _ =>
      dsimp only
      rw [state, if_neg (by simp [TaskEvent.state])]
      rfl

/-- What is told of a task agrees with its history. -/
structure ReportsFaithfully (past : List Machine) (machine : Machine) (number : Nat)
    (scheduler : Scheduler) (task : TaskHandle) (record : TaskRecord Work) : Prop where
  state : ∃ event, (history number task past).head? = some event ∧ record.state = event.state
  /-- State and reason are what the events have written, each by itself. -/
  marks : Marks.replay (history number task past) =
    ⟨record.state.stage, record.state.cancelReason⟩
  reason : record.state.cancelReason.isSome = true ↔ record.state.stage = .cancelled
  missed : ∀ deadline, scheduler.table.check task = .error (.deadlineMissed task deadline) ↔
    (history number task past).head? = some (.missed deadline)
  unmissed : (∀ deadline, (history number task past).head? ≠ some (.missed deadline)) →
    scheduler.table.check task = .ok record.state
  replied : ∀ rest steps, machine.Poised number scheduler (.check task) rest steps →
    (machine.run steps).reply = checkReply (scheduler.table.check task)
  stays : ∀ newer later holder held, Trail (newer ++ past) later →
    history number task newer = [] → later.scheduler? number = some holder →
    holder.table.find? task = some held →
    holder.table.check task = scheduler.table.check task

/-- In every state of every run `check` reports a miss just if the last event of the task was
one, with its deadline, and goes on to report it until the next event of the task. -/
theorem misses_reported_faithfully (trail : Trail past machine)
    (found : machine.scheduler? number = some scheduler)
    (live : scheduler.table.find? task = some record) :
    machine.ReportsFaithfully past number scheduler task record := by
  obtain ⟨event, last, state, told⟩ := trail.check_eq found live
  have marks := Marks.replay_of_head? last
  rw [← state] at marks
  constructor
  case state => exact ⟨event, last, state⟩
  case marks => exact marks
  case reason =>
    have agree := Marks.replay_reason (history number task past)
    rwa [marks] at agree
  case missed =>
    intro deadline
    rw [told, last, Option.some.injEq, TaskEvent.told_eq_error_iff]
  case unmissed =>
    intro apart
    rw [told, state]
    refine TaskEvent.told_of_ne fun deadline same => apart deadline ?_
    rw [last, same]
  case replied => exact fun rest steps poised => poised.check_reply trail.reachable
  case stays =>
    intro newer later holder held after quiet holds lives
    obtain ⟨other, latest, _, tells⟩ := after.check_eq holds lives
    rw [history, List.filterMap_append] at latest
    change (history number task newer ++ history number task past).head? = some other at latest
    rw [quiet, List.nil_append, last] at latest
    cases latest
    rw [tells, told]

/-- A task is given up, and then given another budget; another one is made and admitted. -/
def forgone : List (Nat × Call) :=
  [(4, .scheduler 0 (.insert (some ⟨1, 0⟩) 0 1000)),
    (4, .scheduler 0 (.create [] .default)),
    (4, .scheduler 0 (.configure (some ⟨0, 0⟩) ⟨5, 0, 0⟩)), (5, .scheduler 0 .runPass),
    (1, .platform (.setClock 25)), (4, .scheduler 0 (.insert (some ⟨0, 0⟩) 0 10)),
    (4, .scheduler 0 (.create [] .default)), (1, .init ⟨1000000, 0, 7, 3⟩ .inline)]

/-- It is still reported to have missed the deadline that it had. -/
theorem forgone_reported :
    history 0 ⟨0, 0⟩ (session forgone).1 = [.missed 10, .admitted, .registered] ∧
      ∃ scheduler, (session forgone).2.scheduler? 0 = some scheduler ∧
        scheduler.table.check ⟨0, 0⟩ = .error (.deadlineMissed ⟨0, 0⟩ 10) := by
  have trail : Trail (session forgone).1 (session forgone).2 := session_trail forgone (by decide)
  have past : history 0 ⟨0, 0⟩ (session forgone).1 = [.missed 10, .admitted, .registered] := by
    decide
  have found : (session forgone).2.scheduler? 0 = some _ := rfl
  have faithful := @misses_reported_faithfully _ 0 _ ⟨0, 0⟩ _ _ trail found rfl
  exact ⟨past, _, found, (faithful.missed 10).mpr (by rw [past]; rfl)⟩

end Machine

end EdfKernel
