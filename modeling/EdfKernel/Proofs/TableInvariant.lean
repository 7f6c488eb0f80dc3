import EdfKernel.Proofs.SectionWork

/-!
In every reachable state, between any two activities, the slots, the free stack
and the queue of each scheduler agree, and no table outgrows its configuration.
So a caller who wants a new task is refused exactly when as many tasks live as
the scheduler may hold.
-/

namespace EdfKernel

namespace Section

/-- The work and the settings of the task that a section would make. -/
def newcomer? (pipelines : Nat) : Section → Option (Work × TaskSettings)
  | create routine settings => some (.task routine, settings)
  | createPipeline desc routine => some (.copy pipelines routine, desc.settings)
  | _ => none

end Section

namespace Scheduler

structure TableSound (scheduler : Scheduler) : Prop where
  consistent : scheduler.table.Consistent
  sized : scheduler.table.capacity = scheduler.config.maxTasks

theorem fresh_tableSound (config : SchedulerConfig) (executor : Executor Call) :
    (fresh config executor).TableSound :=
  ⟨TaskTable.empty_consistent config.maxTasks, rfl⟩

end Scheduler

theorem Move.tableSound {number : Nat} {clock : Ticks} {pipelines : Nat} {done : Option Activity}
    {before after : Focus} (move : Move number clock pipelines done before after)
    (sound : ∀ scheduler, before.scheduler = some scheduler → scheduler.TableSound)
    (scheduler : Scheduler) (found : after.scheduler = some scheduler) :
    scheduler.TableSound := by
  rcases move.table_cases scheduler found with
    ⟨_, config, executor, rfl⟩ | ⟨earlier, there, configured, same | ⟨part, next, _, worked⟩⟩
  · exact Scheduler.fresh_tableSound config executor
  · have before := sound earlier there
    constructor
    · exact same ▸ before.consistent
    · rw [same, configured]
      exact before.sized
  · have before := sound earlier there
    constructor
    · exact worked.consistent before.consistent
    · rw [worked.capacity, configured]
      exact before.sized

/-- What a section that makes a task does: it is refused if the table is full,
else the newcomer lives under a handle that named nothing. -/
theorem Section.newcomer_effect (part : Section) (scheduler : Scheduler) (number : Nat)
    (clock : Ticks) (pipelines : Nat) (work : Work) (settings : TaskSettings)
    (newcomer : part.newcomer? pipelines = some (work, settings)) :
    (part.effect scheduler number clock pipelines).reply =
        (Effect.create scheduler work settings).reply ∧
      (part.effect scheduler number clock pipelines).scheduler =
        (Effect.create scheduler work settings).scheduler := by
  cases part with
  | create routine settings =>
      cases newcomer
      exact ⟨rfl, rfl⟩
  | createPipeline desc routine =>
      cases newcomer
      simp only [effect, Effect.createPipeline]
      split <;> exact ⟨rfl, rfl⟩
  | _ => cases newcomer

namespace Machine

theorem Reachable.tableSound {machine : Machine} (reachable : Reachable machine) {number : Nat}
    {scheduler : Scheduler} (found : machine.scheduler? number = some scheduler) :
    scheduler.TableSound := by
  let law (focus : Focus) : Prop := ∀ held, focus.scheduler = some held → held.TableSound
  have boot : law ⟨none, []⟩ := by
    intro held absent
    cases absent
  have every : law (machine.focus number) := by
    apply reachable.focus_induction boot
    intro clock pipelines done before after move sound
    exact move.tableSound sound
  exact every scheduler found

theorem step_enter_eq {machine : Machine} {number : Nat} {part : Section} {rest : List Activity}
    {scheduler : Scheduler} (agenda : machine.agenda = .enter number part :: rest)
    (found : machine.scheduler? number = some scheduler) (free : scheduler.locked = false)
    {effect : Effect}
    (made : part.effect scheduler number machine.clock machine.pipelines.length = effect) :
    machine.step =
      { machine with
        irq :=
          if effect.requests then machine.irq.mask.request scheduler.config.line
          else machine.irq.mask
        timer :=
          (effect.arms.map fun instant => machine.timer.armAt instant (.scheduler number)).getD
            machine.timer
        schedulers := machine.schedulers.set number (some { effect.scheduler with locked := true })
        pipelines := machine.pipelines ++ effect.attaches.toList
        notices := machine.notices ++ effect.notices.toArray
        reply := effect.reply.getD machine.reply
        agenda := .leave number :: (effect.next ++ rest) } := by
  have here : ({ machine with agenda := rest } : Machine).scheduler? number =
      some scheduler := found
  simp only [step, agenda, carryOut, enter, here, free, made, Bool.false_eq_true, if_false]
  cases effect.arms <;> rfl

theorem step_enter (machine : Machine) (number : Nat) (part : Section) (rest : List Activity)
    (scheduler : Scheduler) (agenda : machine.agenda = .enter number part :: rest)
    (found : machine.scheduler? number = some scheduler) (free : scheduler.locked = false) :
    machine.step.scheduler? number =
        some { (part.effect scheduler number machine.clock machine.pipelines.length).scheduler with
          locked := true } ∧
      machine.step.reply =
        (part.effect scheduler number machine.clock machine.pipelines.length).reply.getD
          machine.reply := by
  rw [step_enter_eq agenda found free rfl]
  constructor
  · exact scheduler?_setScheduler_self machine number scheduler _ found
  · rfl

variable {machine : Machine} {number : Nat} {scheduler : Scheduler}

theorem Reachable.step_newcomer (reachable : Reachable machine)
    (found : machine.scheduler? number = some scheduler) (free : scheduler.locked = false)
    (part : Section) (rest : List Activity) (agenda : machine.agenda = .enter number part :: rest)
    (work : Work) (settings : TaskSettings)
    (newcomer : part.newcomer? machine.pipelines.length = some (work, settings)) :
    (scheduler.table.liveTasks.length = scheduler.config.maxTasks ∧
      machine.step.reply = .failed (.scheduler (.tableFull scheduler.config.maxTasks)) ∧
      ∃ after, machine.step.scheduler? number = some after ∧ after.table = scheduler.table) ∨
    (scheduler.table.liveTasks.length ≠ scheduler.config.maxTasks ∧
      ∃ task after, machine.step.reply = .ok (.handle task) ∧
        machine.step.scheduler? number = some after ∧ scheduler.table.find? task = none ∧
        ∀ other, after.table.find? other =
          if other = task then some (.fresh work settings) else scheduler.table.find? other) := by
  have sound := reachable.tableSound found
  obtain ⟨stepped, replied⟩ := step_enter machine number part rest scheduler agenda found free
  obtain ⟨sameReply, sameScheduler⟩ := part.newcomer_effect scheduler number machine.clock
    machine.pipelines.length work settings newcomer
  have full := sound.consistent.alloc_eq_none_iff (.fresh work settings)
  rw [sound.sized] at full
  rw [sameReply] at replied
  rw [sameScheduler] at stepped
  cases taken : scheduler.table.alloc (.fresh work settings) with
  | none =>
      left
      simp only [Effect.create, Scheduler.create, taken, Option.map_none, sound.sized] at stepped
      simp only [Effect.create, Scheduler.create, taken, Option.map_none, sound.sized] at replied
      exact ⟨full.mp taken, replied, _, stepped, rfl⟩
  | some pair =>
      right
      obtain ⟨task, after⟩ := pair
      simp only [Effect.create, Scheduler.create, taken, Option.map_some] at stepped replied
      refine ⟨fun living => ?_, task, _, replied, stepped, ?_, ?_⟩
      · rw [full.mpr living] at taken
        cases taken
      · exact TaskTable.find?_of_alloc sound.consistent taken
      · exact TaskTable.find?_alloc sound.consistent taken

/-- The representation of the table in every reachable state, and what it means
for a caller who wants a new task. -/
theorem reachable_table_agrees (reachable : Reachable machine)
    (found : machine.scheduler? number = some scheduler) :
    scheduler.table.Consistent ∧
      scheduler.table.slots.length ≤ scheduler.config.maxTasks ∧
      scheduler.table.liveTasks.length + scheduler.table.free.length =
        scheduler.table.slots.length ∧
      scheduler.table.queue.length ≤ scheduler.table.liveTasks.length ∧
      scheduler.table.liveTasks.length ≤ scheduler.config.maxTasks ∧
      ∀ part rest work settings, scheduler.locked = false →
        machine.agenda = .enter number part :: rest →
        part.newcomer? machine.pipelines.length = some (work, settings) →
        (machine.step.reply = .failed (.scheduler (.tableFull scheduler.config.maxTasks)) ↔
          scheduler.table.liveTasks.length = scheduler.config.maxTasks) ∧
        (scheduler.table.liveTasks.length ≠ scheduler.config.maxTasks →
          ∃ task after, machine.step.reply = .ok (.handle task) ∧
            machine.step.scheduler? number = some after ∧ scheduler.table.find? task = none ∧
            ∀ other, after.table.find? other =
              if other = task then some (.fresh work settings)
              else scheduler.table.find? other) := by
  have sound := reachable.tableSound found
  refine ⟨sound.consistent, ?_, sound.consistent.live_add_free, sound.consistent.queue_le_live,
    ?_, ?_⟩
  · rw [← sound.sized]
    exact sound.consistent.within
  · rw [← sound.sized]
    exact sound.consistent.live_le_capacity
  · intro part rest work settings free agenda newcomer
    rcases reachable.step_newcomer found free part rest agenda work settings newcomer with
      ⟨full, refused, _⟩ | ⟨room, task, after, replied, made⟩
    · exact ⟨⟨fun _ => full, fun _ => refused⟩, fun room => absurd full room⟩
    · constructor
      · constructor
        · intro refused
          rw [refused] at replied
          cases replied
        · exact fun full => absurd full room
      · exact fun _ => ⟨task, after, replied, made⟩

/-- A machine whose only scheduler holds two tasks and is asked for a third. -/
def crowded : Machine :=
  let alone : Nat → Option Script := fun _ => none
  let create : Call := .scheduler 0 (.create [] .default)
  let one := ((boot 0).exec 1 (.init ⟨1000000, 0, 7, 2⟩ .inline) alone).exec 4 create alone
  ((one.exec 4 create alone).start create alone).run 2

theorem crowded_reachable : Reachable crowded := by
  unfold crowded exec
  refine .run (.start _ _ (.run (.start _ _ ?_ rfl) 4) rfl) 2
  exact .run (.start _ _ (.run (.start _ _ (.boot 0) rfl) 1) rfl) 4

/-- The third task is refused, and rightly: two live. -/
theorem crowded_table_agrees :
    ∃ scheduler, crowded.scheduler? 0 = some scheduler ∧
      scheduler.table.liveTasks.length = scheduler.config.maxTasks ∧
      crowded.step.reply = .failed (.scheduler (.tableFull scheduler.config.maxTasks)) := by
  refine ⟨_, rfl, rfl, ?_⟩
  have found : crowded.scheduler? 0 = some _ := rfl
  obtain ⟨_, _, _, _, _, makes⟩ := reachable_table_agrees crowded_reachable found
  exact (makes (.create ⟨[], 0⟩ .default) [] _ _ rfl rfl rfl).1.mpr rfl

end Machine

end EdfKernel
