import EdfKernel.Proofs.Refusals

/-!
A handle that was handed out names its task until the task is freed, and nothing for a long
time after. A slot moves on by one generation each time it is freed and at no other time, so
how far it has come since a handle was issued is how often it was freed; and a handle is
issued again only when that is once around the generations.
-/

namespace EdfKernel

namespace TaskTable

variable {ω : Type}

theorem generation_of_alloc {table after : TaskTable ω} {record : TaskRecord ω}
    {task : TaskHandle} {generation : UInt32} {live : Bool}
    (taken : table.alloc record = some (task, after))
    (held : table.occupancy task.index = some (generation, live)) :
    task.generation = generation := by
  rcases alloc_cases table after record task taken with
    ⟨index, free, slot, _, found, rfl, _⟩ | ⟨_, _, rfl, _⟩
  · simp only [occupancy, found, Option.map_some, Option.some.injEq, Prod.mk.injEq] at held
    exact held.1
  · simp [occupancy] at held

end TaskTable

namespace Section

def names? : Section → Option TaskHandle
  | inspect task | check task => some task
  | part => part.changes?

/-- What is answered about a handle that names nothing. -/
def disowns (task : TaskHandle) : Section → Reply
  | inspect _ => .ok (.snapshot none)
  | _ => .failed (.scheduler (.unknownTask task))

theorem effect_of_absent {part : Section} {scheduler : Scheduler} {task : TaskHandle}
    (sound : scheduler.TableSound) (names : part.names? = some task)
    (absent : scheduler.table.find? task = none) (number : Nat) (clock : Ticks)
    (pipelines : Nat) :
    part.effect scheduler number clock pipelines =
      { Effect.quiet scheduler with reply := some (part.disowns task) } := by
  have unknown (changes : part.changes? = some task) :
      part.effect scheduler number clock pipelines =
        { Effect.quiet scheduler with
          reply := some (.failed (.scheduler (.unknownTask task))) } := by
    have alters : part.changes?.isSome ∨ (part.newcomer? pipelines).isSome :=
      .inl (by rw [changes]; rfl)
    have settles := part.settles sound number clock alters
    exact settles.eq_of_absent changes absent
  cases part with
  | configure | retire | insert | cancel | complete => exact unknown names
  | inspect other =>
      cases names
      simp only [effect, Effect.inspect, absent]
      rfl
  | check other =>
      cases names
      simp only [effect, Effect.check, TaskTable.check, absent]
      rfl
  | _ => cases names

end Section

namespace Machine

variable {machine first later : Machine} {number index count : Nat} {task : TaskHandle}

/-- Slot `index` of scheduler `number`: its generation, and whether a task lives in it. -/
def occupancy? (machine : Machine) (number index : Nat) : Option (UInt32 × Bool) :=
  (machine.scheduler? number).bind fun scheduler => scheduler.table.occupancy index

def freesNext (machine : Machine) (number index : Nat) : Bool :=
  (machine.occupancy? number index).any (fun held => held.2) &&
    (machine.step.occupancy? number index).any fun held => !held.2

/-- Some run leads from `first` to the second machine, whatever is called and whoever
interposes, and the slot is freed so many times on the way. -/
inductive Frees (number index : Nat) (first : Machine) : Machine → Nat → Prop where
  | refl : Frees number index first first 0
  | start {machine : Machine} {count : Nat} (call : Call) (interposed : Nat → Option Script) :
      Frees number index first machine count → machine.agenda = [] →
      Frees number index first (machine.start call interposed) count
  | step {machine : Machine} {count : Nat} : Frees number index first machine count →
      Frees number index first machine.step
        (count + if machine.freesNext number index then 1 else 0)

def timesFreed (number index : Nat) : (steps : Nat) → Machine → Nat
  | 0, _ => 0
  | steps + 1, machine =>
      (if machine.freesNext number index then 1 else 0) +
        timesFreed number index steps machine.step

theorem Frees.run (frees : Frees number index first machine count) (steps : Nat) :
    Frees number index first (machine.run steps)
      (count + timesFreed number index steps machine) := by
  induction steps generalizing machine count with
  | zero => exact frees
  | succ steps ih =>
      rw [run_succ, timesFreed, ← Nat.add_assoc]
      exact ih frees.step

theorem Frees.reachable (frees : Frees number index first later count)
    (reachable : Reachable first) : Reachable later := by
  induction frees with
  | refl => exact reachable
  | start call interposed _ rest ih => exact .start call interposed ih rest
  | step _ ih => exact .step ih

theorem Reachable.step_occupancy (reachable : Reachable machine) {generation : UInt32}
    {live : Bool} (held : machine.occupancy? number index = some (generation, live)) :
    ∃ still, machine.step.occupancy? number index =
        some (generation + UInt32.ofNat (if machine.freesNext number index then 1 else 0),
          still) ∧
      (machine.freesNext number index = false → live = true → still = true) := by
  obtain ⟨scheduler, there, lodged⟩ := Option.bind_eq_some_iff.mp held
  obtain ⟨done, _, move⟩ := step_moves machine number
  have sound (scheduler : Scheduler) (found : (machine.focus number).scheduler = some scheduler) :
      scheduler.TableSound := reachable.tableSound found
  obtain ⟨later, holds, lodges⟩ :=
    (move.transfer sound (reachable.excluded number)).lodged scheduler there
  have after (generation : UInt32) (live : Bool)
      (lodged : later.table.occupancy index = some (generation, live)) :
      machine.step.occupancy? number index = some (generation, live) :=
    Option.bind_eq_some_iff.mpr ⟨later, holds, lodged⟩
  rcases lodges index generation live lodged with ⟨still, stays, lives⟩ | ⟨rfl, released⟩
  · have kept : machine.freesNext number index = false := by
      rw [freesNext, held, after generation still stays]
      cases live with
      | false => rfl
      | true => simp [lives rfl]
    refine ⟨still, ?_, fun _ => lives⟩
    simpa [kept] using after generation still stays
  · have freed : machine.freesNext number index = true := by
      rw [freesNext, held, after _ false released]
      rfl
    refine ⟨false, ?_, ?_⟩
    · simpa [freed] using after _ false released
    · intro kept
      rw [freed] at kept
      cases kept

/-- Over a run a slot moves on by as many generations as the times it is freed. -/
theorem Frees.occupancy (frees : Frees number index first later count)
    (reachable : Reachable first) {generation : UInt32}
    (held : first.occupancy? number index = some (generation, true)) :
    ∃ live, later.occupancy? number index = some (generation + UInt32.ofNat count, live) ∧
      (count = 0 → live = true) := by
  induction frees with
  | refl => exact ⟨true, by simpa using held, fun _ => rfl⟩
  | start call interposed _ rest ih => exact ih
  | @step machine count before ih =>
      obtain ⟨live, here, lives⟩ := ih
      obtain ⟨still, there, stays⟩ := (before.reachable reachable).step_occupancy here
      refine ⟨still, ?_, ?_⟩
      · rw [there, UInt32.ofNat_add, UInt32.add_assoc]
      · intro none
        have kept : machine.freesNext number index = false := by
          by_contra freed
          rw [Bool.not_eq_false] at freed
          simp [freed] at none
        exact stays kept (lives (by omega))

structure Issues (machine : Machine) (number : Nat) (task : TaskHandle) : Prop where
  present : ∃ scheduler, machine.scheduler? number = some scheduler
  asked : ∃ part rest newcomer, machine.agenda = .enter number part :: rest ∧
    part.newcomer? machine.pipelines.length = some newcomer
  replied : machine.step.reply = .ok (.handle task)

theorem Issues.spec (issues : machine.Issues number task) (reachable : Reachable machine) :
    (machine.focus number).record? task = none ∧
      (∀ generation live, machine.occupancy? number task.index = some (generation, live) →
        task.generation = generation) ∧
      machine.step.occupancy? number task.index = some (task.generation, true) := by
  obtain ⟨scheduler, found⟩ := issues.present
  obtain ⟨part, rest, ⟨work, settings⟩, agenda, newcomer⟩ := issues.asked
  have free := (Poised.waiting found agenda).free reachable
  have consistent := (reachable.tableSound found).consistent
  obtain ⟨stepped, replied⟩ := step_enter machine number part rest scheduler agenda found free
  obtain ⟨sameReply, sameScheduler⟩ := part.newcomer_effect scheduler number machine.clock
    machine.pipelines.length work settings newcomer
  rw [sameReply, issues.replied] at replied
  rw [sameScheduler] at stepped
  cases taken : scheduler.table.alloc (.fresh work settings) with
  | none =>
      simp only [Effect.create, Scheduler.create, taken, Option.map_none] at replied
      cases replied
  | some pair =>
      obtain ⟨handed, after⟩ := pair
      simp only [Effect.create, Scheduler.create, taken, Option.map_some] at stepped replied
      cases replied
      refine ⟨?_, ?_, ?_⟩
      · rw [Focus.record?, focus, found]
        exact TaskTable.find?_of_alloc consistent taken
      · intro generation live held
        rw [occupancy?, found] at held
        exact TaskTable.generation_of_alloc taken held
      · have lives := TaskTable.find?_alloc consistent taken task
        rw [if_pos rfl] at lives
        rw [occupancy?, stepped]
        exact TaskTable.occupancy_of_find? lives

theorem Reachable.freesNext_of_retire (reachable : Reachable machine) {scheduler : Scheduler}
    {rest : List Activity} (agenda : machine.agenda = .enter number (.retire task) :: rest)
    (found : machine.scheduler? number = some scheduler)
    (accepted : machine.step.reply = .ok .done) :
    machine.freesNext number task.index = true := by
  have free := (Poised.waiting found agenda).free reachable
  obtain ⟨stepped, replied⟩ := step_enter machine number _ rest scheduler agenda found free
  rw [accepted] at replied
  rcases scheduler.table.idle?_cases task with
    ⟨absent, unknown⟩ | ⟨record, here, ⟨running, busy⟩ | ⟨idle, live⟩⟩
  · simp only [Section.effect, Effect.retire, TaskTable.retire, unknown, Except.map] at replied
    cases replied
  · simp only [Section.effect, Effect.retire, TaskTable.retire, busy, Except.map] at replied
    cases replied
  · simp only [Section.effect, Effect.retire, TaskTable.retire, live, Except.map] at stepped
    have before : machine.occupancy? number task.index = some (task.generation, true) := by
      rw [occupancy?, found]
      exact TaskTable.occupancy_of_find? here
    have after : machine.step.occupancy? number task.index =
        some (task.generation + 1, false) := by
      rw [occupancy?, stepped]
      exact TaskTable.occupancy_release here
    rw [freesNext, before, after]
    rfl

theorem Poised.run_of_absent {scheduler : Scheduler} {part : Section} {rest : List Activity}
    {steps : Nat} (poised : machine.Poised number scheduler part rest steps)
    (reachable : Reachable machine) (names : part.names? = some task)
    (absent : scheduler.table.find? task = none) :
    ∃ acquisitions, machine.run steps =
      { machine with
        acquisitions
        reply := part.disowns task
        agenda := rest } := by
  obtain ⟨acquisitions, ran⟩ := poised.run reachable
  have found := poised.found
  have kept := set_unlocked found (poised.free reachable)
  refine ⟨acquisitions, ?_⟩
  rw [ran, part.effect_of_absent (reachable.tableSound found) names absent]
  simp [enact, Effect.quiet, kept]

/-- A handle names its task until the slot is freed, and then nothing until it was freed
2^32 times; in between every call about it is turned away and changes nothing. The handle is
issued again only when nothing lives under it and the slot was freed a multiple of that often
since, so no two live tasks ever share one. -/
theorem handle_not_reused_early (reachable : Reachable machine)
    (issues : machine.Issues number task)
    (frees : Frees number task.index machine.step later count) :
    (count = 0 → ∃ record, (later.focus number).record? task = some record) ∧
    (∀ rest, later.agenda = .enter number (.retire task) :: rest →
      later.step.reply = .ok .done → later.freesNext number task.index = true) ∧
    (0 < count → count < UInt32.size →
      (later.focus number).record? task = none ∧
        ∀ scheduler part rest steps, later.Poised number scheduler part rest steps →
          part.names? = some task →
          ∃ acquisitions, later.run steps =
            { later with
              acquisitions
              reply := part.disowns task
              agenda := rest }) ∧
    (later.Issues number task →
      (later.focus number).record? task = none ∧ 0 < count ∧ UInt32.size ∣ count) ∧
    ∀ scheduler, later.scheduler? number = some scheduler → scheduler.table.liveTasks.Nodup := by
  have reached := frees.reachable reachable.step
  obtain ⟨_, _, issued⟩ := issues.spec reachable
  obtain ⟨live, held, lives⟩ := frees.occupancy reachable.step issued
  obtain ⟨scheduler, found, lodged⟩ := Option.bind_eq_some_iff.mp held
  have record (task : TaskHandle) :
      (later.focus number).record? task = scheduler.table.find? task := by
    rw [Focus.record?, focus, found]
    rfl
  refine ⟨?_, ?_, ?_, ?_, ?_⟩
  · rintro rfl
    rw [record]
    rw [lives rfl] at lodged
    exact TaskTable.find?_of_occupancy (by simpa using lodged)
  · intro rest agenda accepted
    exact reached.freesNext_of_retire agenda found accepted
  -- Fewer frees than there are generations lead to another generation.
  · intro some' few
    have absent : scheduler.table.find? task = none := by
      cases here : scheduler.table.find? task with
      | none => rfl
      | some record =>
          rw [TaskTable.occupancy_of_find? here] at lodged
          have same := (Prod.mk.inj (Option.some.inj lodged)).1
          exact absurd same.symm (generation_apart task.generation count some' few)
    refine ⟨(record task).trans absent, ?_⟩
    intro held part rest steps poised names
    cases found.symm.trans poised.found
    exact poised.run_of_absent reached names absent
  -- To be issued again the generation must have come all the way round.
  · intro again
    obtain ⟨absent, generation, _⟩ := again.spec reached
    have same := generation _ _ held
    have around : UInt32.ofNat count = 0 := by simpa using same.symm
    have whole := congrArg UInt32.toNat around
    rw [UInt32.toNat_ofNat', UInt32.toNat_zero] at whole
    refine ⟨absent, Nat.pos_of_ne_zero ?_, Nat.dvd_of_mod_eq_zero whole⟩
    intro none
    rw [lives none, ← same] at lodged
    obtain ⟨record', here⟩ := TaskTable.find?_of_occupancy lodged
    rw [record, here] at absent
    cases absent
  · intro scheduler _
    exact scheduler.table.liveTasks_nodup

/-- A machine that is about to hand out its first handle. -/
def minting : Machine :=
  let alone : Nat → Option Script := fun _ => none
  let set := (boot 0).exec 1 (.init ⟨1000000, 0, 7, 2⟩ .inline) alone
  (set.start (.scheduler 0 (.create [] .default)) alone).run 2

theorem minting_reachable : Reachable minting := by
  unfold minting
  exact .run (.start _ _ (.exec (.boot 0) rfl _ _ _) rfl) 2

/-- The same machine when the task was freed and is to be queued for all that. -/
def outdated : Machine :=
  let alone : Nat → Option Script := fun _ => none
  let freed := (minting.step.run 1).exec 4 (.scheduler 0 (.retire (some ⟨0, 0⟩))) alone
  freed.start (.scheduler 0 (.insert (some ⟨0, 0⟩) 0 10)) alone

/-- The call is turned away, and the scheduler is as it was. -/
theorem outdated_disowned :
    (outdated.run 4).reply = .failed (.scheduler (.unknownTask ⟨0, 0⟩)) ∧
      (outdated.run 4).schedulers = outdated.schedulers := by
  have issues : minting.Issues 0 ⟨0, 0⟩ := ⟨⟨_, rfl⟩, ⟨_, _, _, rfl, rfl⟩, rfl⟩
  have frees : Frees 0 0 minting.step outdated 1 :=
    ((Frees.refl.run 1).start _ _ rfl |>.run 4).start _ _ rfl
  have poised : outdated.Poised 0 _ (.insert ⟨0, 0⟩ 0 10) [] 4 :=
    .asking none _ rfl rfl rfl rfl rfl
  obtain ⟨_, _, disowned, _⟩ := handle_not_reused_early minting_reachable issues frees
  obtain ⟨_, left⟩ := (disowned (by decide) (by decide)).2 _ _ _ 4 poised rfl
  rw [left]
  exact ⟨rfl, rfl⟩

end Machine

end EdfKernel
