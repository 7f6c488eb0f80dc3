import EdfKernel.Proofs.Stack

/-!
The copy of a pipeline is the work of the pipeline's own task, and of no other: wherever
it is, in the table or with a pass that carries it, it is at home. So a pass starts a copy
only when it has taken the task of its pipeline.
-/

namespace EdfKernel

namespace Activity

def beginsCopy (p : Nat) : Activity → Bool
  | engage _ _ (.copy other _) turn => other = p && turn.runs
  | _ => false

theorem beginsCopy_cases {p : Nat} {activity : Activity} (begins : activity.beginsCopy p = true) :
    ∃ number run routine turn, activity = .engage number run (.copy p routine) turn := by
  unfold beginsCopy at begins
  split at begins
  case h_1 number run other routine turn =>
    cases of_decide_eq_true (Bool.and_eq_true_iff.mp begins).1
    exact ⟨number, run, routine, turn, rfl⟩
  case h_2 => cases begins

end Activity

namespace Effect

theorem create_newcomer {scheduler : Scheduler} (consistent : scheduler.table.Consistent)
    {work : Work} {settings : TaskSettings} {task : TaskHandle} {record : TaskRecord Work}
    (absent : scheduler.table.find? task = none)
    (found : (create scheduler work settings).scheduler.table.find? task = some record) :
    record = .fresh work settings ∧
      (create scheduler work settings).reply = some (.ok (.handle task)) := by
  unfold create Scheduler.create at found ⊢
  cases taken : scheduler.table.alloc (.fresh work settings) with
  | none =>
      rw [taken] at found
      obtain ⟨statistics, same⟩ :=
        Section.refuse_scheduler scheduler (.tableFull scheduler.table.capacity)
      change (scheduler.refuse (.tableFull scheduler.table.capacity)).table.find? task =
        some record at found
      rw [same, absent] at found
      cases found
  | some pair =>
      obtain ⟨made, after⟩ := pair
      rw [taken] at found
      change after.find? task = some record at found
      rw [TaskTable.find?_alloc consistent taken] at found
      split at found
      case isTrue same =>
        cases found
        exact ⟨rfl, by rw [same]; rfl⟩
      case isFalse =>
        rw [absent] at found
        cases found

theorem createPipeline_attaches {scheduler : Scheduler} {scheduling number : Nat}
    {desc : PipelineDesc} {routine : Routine} {task : TaskHandle}
    (made : (create scheduler (.copy number routine) desc.settings).reply =
      some (.ok (.handle task))) :
    (createPipeline scheduler scheduling number desc routine).attaches =
      some ⟨scheduling, task, desc, false, false⟩ := by
  simp only [createPipeline, made]

end Effect

theorem Move.unlocked {number : Nat} {clock : Ticks} {pipelines : Nat} {part : Section}
    {before after : Focus}
    (move : Move number clock pipelines (some (.enter number part)) before after)
    {scheduler : Scheduler} (held : before.scheduler = some scheduler) :
    scheduler.locked = false := by
  cases move with
  | enter _ _ _ free =>
      cases held
      exact free
  | vanish => cases held

namespace Machine

variable {machine : Machine} {p number : Nat} {task : TaskHandle}

/-- The activity that comes next runs the copy of pipeline `p`. -/
def startsCopy (machine : Machine) (p : Nat) : Bool :=
  machine.agenda.head?.any fun activity => activity.beginsCopy p

def IsHome (machine : Machine) (p number : Nat) (task : TaskHandle) : Prop :=
  ∃ pipeline, machine.pipelines[p]? = some pipeline ∧ pipeline.scheduler = number ∧
    pipeline.task = task

theorem IsHome.step (home : machine.IsHome p number task) : machine.step.IsHome p number task := by
  obtain ⟨pipeline, found, scheduler, own⟩ := home
  obtain ⟨later, there, kept⟩ := step_piped found
  exact ⟨later, there, kept.scheduler.trans scheduler, kept.task.trans own⟩

theorem IsHome.run (home : machine.IsHome p number task) (steps : Nat) :
    (machine.run steps).IsHome p number task := by
  induction steps generalizing machine with
  | zero => exact home
  | succ steps ih =>
      rw [run_succ]
      exact ih home.step

/-- The copies in the table and with the pass are at home. -/
structure CopiesAtHome (machine : Machine) (number : Nat) : Prop where
  attached : ∀ task record p routine, (machine.focus number).record? task = some record →
    record.work = some (.copy p routine) → machine.IsHome p number task
  carried : ∀ link ∈ machine.duties number, ∀ task p routine,
    link.carries? = some (task, some (.copy p routine)) → machine.IsHome p number task

theorem Reachable.newcomer_home (reachable : Reachable machine)
    (absent : (machine.focus number).record? task = none) {record : TaskRecord Work}
    (found : (machine.step.focus number).record? task = some record) {routine : Routine}
    (has : record.work = some (.copy p routine)) : machine.step.IsHome p number task := by
  obtain ⟨done, comes, move⟩ := step_moves machine number
  obtain ⟨later, holds, here⟩ := Option.bind_eq_some_iff.mp found
  have gone (earlier : Scheduler) (held : machine.scheduler? number = some earlier) :
      earlier.table.find? task = none := by
    rw [Focus.record?, focus, held] at absent
    exact absent
  rcases move.table_cases later holds with
    ⟨_, config, executor, rfl⟩ | ⟨earlier, held, _, same | ⟨part, next, enters, worked⟩⟩
  · simp [Scheduler.fresh, TaskTable.empty, TaskTable.find?] at here
  · rw [same, gone earlier held] at here
    cases here
  · subst enters
    obtain ⟨rest, agenda⟩ := comes _ rfl
    have free := move.unlocked held
    have consistent := (reachable.tableSound held).consistent
    -- Of the sections that bring a task, only that for a pipeline brings a copy.
    rcases worked.attached consistent here has with ⟨_, brought⟩ | ⟨record', before, _⟩
    · have stepped := step_enter_eq agenda held free rfl
      obtain ⟨after, _⟩ := step_enter machine number part rest earlier agenda held free
      cases after.symm.trans holds
      cases part with
      | create work settings =>
          obtain ⟨rfl, _⟩ := Effect.create_newcomer consistent (gone earlier held) here
          cases has
      | createPipeline desc work =>
          obtain ⟨_, same⟩ := (Section.createPipeline desc work).newcomer_effect earlier number
            machine.clock machine.pipelines.length _ _ rfl
          have there : ((Section.createPipeline desc work).effect earlier number machine.clock
              machine.pipelines.length).scheduler.table.find? task = some record := here
          rw [same] at there
          obtain ⟨rfl, made⟩ := Effect.create_newcomer consistent (gone earlier held) there
          cases has
          have attaches : ((Section.createPipeline desc routine).effect earlier number machine.clock
              machine.pipelines.length).attaches = some ⟨number, task, desc, false, false⟩ :=
            Effect.createPipeline_attaches made
          refine ⟨⟨number, task, desc, false, false⟩, ?_, rfl, rfl⟩
          rw [stepped]
          dsimp only
          rw [attaches]
          exact List.getElem?_concat_length
      | _ => cases brought
    · rw [gone earlier held] at before
      cases before

theorem copy_of_advance {work : Work} {routine : Routine}
    (same : Work.copy p routine = work ∨ Work.copy p routine = work.advance) :
    ∃ earlier, work = .copy p earlier := by
  rcases same with rfl | advanced
  · exact ⟨routine, rfl⟩
  · cases work with
    | task other => cases advanced
    | copy pipeline other =>
        cases advanced
        exact ⟨other, rfl⟩

theorem Reachable.copiesAtHome (reachable : Reachable machine) (number : Nat) :
    machine.CopiesAtHome number := by
  induction reachable with
  | boot start =>
      constructor
      · intro task record p routine found
        cases found
      · intro link member
        cases member
  | @start machine call interposed _ rest ih =>
      have same := focus_start machine call interposed number rest
      constructor
      · intro task record p routine found
        rw [same] at found
        exact ih.attached task record p routine found
      · intro link member
        rw [show (machine.start call interposed).duties number = machine.duties number from
          congrArg Focus.duties same] at member
        exact ih.carried link member
  | @step machine reachable ih =>
      obtain ⟨done, _, move⟩ := step_moves machine number
      have transfer := move.transfer (fun held there => reachable.tableSound there)
        (reachable.excluded number)
      constructor
      · intro task record p routine found has
        rcases transfer.attached task record _ found has with
          absent | ⟨earlier, here, own | ⟨link, member, carries⟩⟩
        · exact reachable.newcomer_home absent found has
        · exact (ih.attached task earlier p routine here own).step
        · exact (ih.carried link member task p routine carries).step
      · intro link member task p routine carries
        obtain ⟨_, ⟨other, there, given, carried, same⟩ | ⟨record, found, has⟩⟩ :=
          transfer.carried link member task _ carries
        · obtain ⟨earlier, rfl⟩ := copy_of_advance same
          exact (ih.carried other there task p earlier carried).step
        · exact (ih.attached task record p routine found has).step

end Machine

end EdfKernel
