import EdfKernel.Proofs.CopyHomes
import EdfKernel.Proofs.PipelineChanges

/-!
The task of a pipeline does nothing but its copy. A handle that was handed out once names one
task for good, and the task that a pipeline is made with is given its copy; wherever the work
of that task is, in the table or with a pass, it is the copy.
-/

namespace EdfKernel

namespace Effect

variable {scheduler : Scheduler} {work : Work} {settings : TaskSettings}

theorem create_issued (scheduler : Scheduler) (work : Work) (settings : TaskSettings) :
    scheduler.issued <+: (create scheduler work settings).scheduler.issued := by
  unfold create Scheduler.create
  cases scheduler.table.alloc (.fresh work settings) with
  | none => exact List.prefix_rfl
  | some pair => exact List.prefix_append _ _

theorem issued_of_reply {task : TaskHandle}
    (replies : (create scheduler work settings).reply = some (.ok (.handle task))) :
    (create scheduler work settings).scheduler.issued = scheduler.issued ++ [task] := by
  unfold create Scheduler.create at replies ⊢
  cases taken : scheduler.table.alloc (.fresh work settings) with
  | none =>
      rw [taken] at replies
      cases replies
  | some pair =>
      rw [taken] at replies
      cases replies
      rfl

theorem reply_of_attaches {scheduling number : Nat} {desc : PipelineDesc} {routine : Routine}
    {pipeline : Pipeline}
    (attaches : (createPipeline scheduler scheduling number desc routine).attaches =
      some pipeline) :
    ∃ task, (create scheduler (.copy number routine) desc.settings).reply =
        some (.ok (.handle task)) ∧ pipeline = ⟨scheduling, task, desc, false, false⟩ := by
  have plain : (create scheduler (.copy number routine) desc.settings).attaches = none := by
    unfold create
    split <;> rfl
  unfold createPipeline at attaches
  dsimp only at attaches
  split at attaches
  case h_1 task replies =>
    cases attaches
    exact ⟨task, replies, rfl⟩
  case h_2 =>
    rw [plain] at attaches
    cases attaches

end Effect

namespace Section

variable {scheduler : Scheduler} {number : Nat} {clock : Ticks} {pipelines : Nat}

theorem refuse_issued (error : SchedulerError) :
    (scheduler.refuse error).issued = scheduler.issued := by
  cases error <;> rfl

theorem effect_issued (part : Section) (scheduler : Scheduler) (number : Nat) (clock : Ticks)
    (pipelines : Nat) :
    scheduler.issued <+: (part.effect scheduler number clock pipelines).scheduler.issued := by
  have refused (error : SchedulerError) : scheduler.issued <+: (scheduler.refuse error).issued := by
    simp only [refuse_issued, List.prefix_rfl]
  have changed (result : Except SchedulerError (TaskTable Work)) :
      scheduler.issued <+: (Effect.change scheduler result).scheduler.issued := by
    cases result with
    | error error => exact refused error
    | ok table => exact List.prefix_rfl
  cases part with
  | create routine settings => exact Effect.create_issued scheduler _ settings
  | createPipeline desc routine =>
      rw [((createPipeline desc routine).newcomer_effect scheduler number clock pipelines _ _
        rfl).2]
      exact Effect.create_issued scheduler _ _
  | configure | cancel | complete => exact changed _
  | retire task =>
      simp only [effect, Effect.retire]
      split
      · exact refused _
      · exact List.prefix_rfl
  | insert task startUs deadlineUs =>
      simp only [effect, Effect.insert]
      split
      · exact refused _
      · exact List.prefix_rfl
  | inspect | queued | queuedLength | describe => exact List.prefix_rfl
  | check task =>
      simp only [effect, Effect.check]
      split
      · exact refused _
      · exact List.prefix_rfl
  | checkDeadline pipeline task =>
      simp only [effect, Effect.checkDeadline]
      split <;> exact List.prefix_rfl
  | select wakes =>
      simp only [effect, Effect.select]
      split
      · exact List.prefix_rfl
      · split <;> exact List.prefix_rfl
  | dispatch wakes current task =>
      simp only [effect, Effect.dispatch]
      split <;> exact List.prefix_rfl
  | finish run work status =>
      simp only [effect, Effect.finish]
      split
      · split <;> exact List.prefix_rfl
      · exact List.prefix_rfl
  | reinsert run startUs deadlineUs =>
      simp only [effect, Effect.reinsert]
      split
      · exact refused _
      · exact List.prefix_rfl
  | wake outcome task =>
      simp only [effect, Effect.wake]
      split
      · exact List.prefix_rfl
      · split <;> exact List.prefix_rfl

theorem attaches_cases {part : Section} {pipeline : Pipeline}
    (attaches : (part.effect scheduler number clock pipelines).attaches = some pipeline) :
    ∃ desc routine, part = .createPipeline desc routine := by
  cases part with
  | createPipeline desc routine => exact ⟨desc, routine, rfl⟩
  | create =>
      simp only [effect, Effect.create] at attaches
      split at attaches <;> cases attaches
  | configure | cancel | complete =>
      simp only [effect, Effect.change] at attaches
      split at attaches <;> cases attaches
  | retire | insert | check | checkDeadline | dispatch | reinsert =>
      simp only [effect, Effect.retire, Effect.insert, Effect.check, Effect.checkDeadline,
        Effect.dispatch, Effect.reinsert] at attaches
      split at attaches <;> cases attaches
  | select | wake =>
      simp only [effect, Effect.select, Effect.wake] at attaches
      split at attaches
      · cases attaches
      · split at attaches <;> cases attaches
  | finish =>
      simp only [effect, Effect.finish] at attaches
      split at attaches
      · split at attaches <;> cases attaches
      · cases attaches
  | inspect | queued | queuedLength | describe => cases attaches

end Section

def Focus.issued (focus : Focus) : List TaskHandle :=
  (focus.scheduler.map fun scheduler => scheduler.issued).getD []

theorem Move.issued {number : Nat} {clock : Ticks} {pipelines : Nat} {done : Option Activity}
    {before after : Focus} (move : Move number clock pipelines done before after) :
    before.issued <+: after.issued := by
  cases move with
  | setUp => exact List.nil_prefix
  | enter scheduler duties part free => exact part.effect_issued scheduler number clock pipelines
  | _ => exact List.prefix_rfl

namespace Machine

variable {machine : Machine} {p number : Nat} {task : TaskHandle}

/-- The works of a task in the table and with the pass are the copy of pipeline `p`. -/
structure CopiesOnly (machine : Machine) (p number : Nat) (task : TaskHandle) : Prop where
  attached : ∀ record work, (machine.focus number).record? task = some record →
    record.work = some work → ∃ routine, work = .copy p routine
  carried : ∀ link ∈ machine.duties number, ∀ work, link.carries? = some (task, some work) →
    ∃ routine, work = .copy p routine

structure HandedOut (machine : Machine) (number : Nat) : Prop where
  attached : ∀ task record work, (machine.focus number).record? task = some record →
    record.work = some work → task ∈ (machine.focus number).issued
  carried : ∀ link ∈ machine.duties number, ∀ task work,
    link.carries? = some (task, some work) → task ∈ (machine.focus number).issued
  home : ∀ p task, machine.IsHome p number task → task ∈ (machine.focus number).issued

theorem step_issued (machine : Machine) (number : Nat) :
    (machine.focus number).issued <+: (machine.step.focus number).issued := by
  obtain ⟨_, _, move⟩ := step_moves machine number
  exact move.issued

theorem Reachable.newcomer_issued (reachable : Reachable machine)
    (absent : (machine.focus number).record? task = none) {record : TaskRecord Work}
    (found : (machine.step.focus number).record? task = some record) {work : Work}
    (has : record.work = some work) :
    (machine.step.focus number).issued = (machine.focus number).issued ++ [task] ∧
      ∃ part rest settings, machine.agenda = .enter number part :: rest ∧
        part.newcomer? machine.pipelines.length = some (work, settings) := by
  obtain ⟨done, comes, move⟩ := step_moves machine number
  obtain ⟨later, holds, here⟩ := Option.bind_eq_some_iff.mp found
  have gone (earlier : Scheduler) (held : machine.scheduler? number = some earlier) :
      earlier.table.find? task = none := by
    rw [Focus.record?, focus, held] at absent
    exact absent
  rcases move.table_cases later holds with
    ⟨_, config, executor, rfl⟩ | ⟨earlier, held, _, same | ⟨part, next, enters, worked⟩⟩
  · cases here
  · rw [same, gone earlier held] at here
    cases here
  · subst enters
    obtain ⟨rest, agenda⟩ := comes _ rfl
    have present : machine.scheduler? number = some earlier := held
    have free := move.unlocked held
    have consistent := (reachable.tableSound held).consistent
    rcases worked.attached consistent here has with ⟨_, brought⟩ | ⟨record', before, _⟩
    · obtain ⟨after, _⟩ := step_enter machine number part rest earlier agenda held free
      cases after.symm.trans holds
      -- Both sections that make a task hand its handle out.
      have made (fresh : Work) (settings : TaskSettings)
          (newcomer : part.newcomer? machine.pipelines.length = some (fresh, settings)) :
          (machine.step.focus number).issued = (machine.focus number).issued ++ [task] ∧
            fresh = work := by
        obtain ⟨_, same⟩ := part.newcomer_effect earlier number machine.clock
          machine.pipelines.length fresh settings newcomer
        change (part.effect earlier number machine.clock
          machine.pipelines.length).scheduler.table.find? task = some record at here
        rw [same] at here
        obtain ⟨rfl, replies⟩ := Effect.create_newcomer consistent (gone earlier held) here
        cases has
        refine ⟨?_, rfl⟩
        have issued := Effect.issued_of_reply replies
        rw [← same] at issued
        simp only [Focus.issued, focus, after, present, Option.map_some, Option.getD_some]
        exact issued
      cases part with
      | create routine settings =>
          obtain ⟨issued, same⟩ := made _ _ rfl
          exact ⟨issued, _, rest, settings, agenda, by rw [← same]; rfl⟩
      | createPipeline desc routine =>
          obtain ⟨issued, same⟩ := made _ _ rfl
          exact ⟨issued, _, rest, desc.settings, agenda, by rw [← same]; rfl⟩
      | _ => cases brought
    · rw [gone earlier held] at before
      cases before

theorem newcomer_of_home (strange : ¬ machine.IsHome p number task)
    (home : machine.step.IsHome p number task) :
    (machine.step.focus number).issued = (machine.focus number).issued ++ [task] ∧
      ∃ desc routine rest,
        machine.agenda = .enter number (.createPipeline desc routine) :: rest ∧
          p = machine.pipelines.length := by
  obtain ⟨pipeline, found, own, named⟩ := home
  have absent : machine.pipelines[p]? = none := by
    cases before : machine.pipelines[p]? with
    | none => rfl
    | some earlier =>
        obtain ⟨later, there, kept⟩ := step_piped before
        cases there.symm.trans found
        exact absurd ⟨earlier, before, kept.scheduler.symm.trans own, kept.task.symm.trans named⟩
          strange
  obtain ⟨last, other, part, rest, scheduler, agenda, held, free, attaches⟩ :=
    step_attaches absent found
  obtain ⟨desc, routine, rfl⟩ := Section.attaches_cases attaches
  obtain ⟨_, replies, rfl⟩ := Effect.reply_of_attaches attaches
  subst named
  change other = number at own
  subst own
  refine ⟨?_, desc, routine, rest, agenda, last⟩
  obtain ⟨after, _⟩ := step_enter machine other _ rest scheduler agenda held free
  obtain ⟨_, same⟩ := (Section.createPipeline desc routine).newcomer_effect scheduler other
    machine.clock machine.pipelines.length _ _ rfl
  have issued := Effect.issued_of_reply replies
  rw [← same] at issued
  simp only [Focus.issued, focus, after, held, Option.map_some, Option.getD_some]
  exact issued

theorem HandedOut.step (handed : machine.HandedOut number) (reachable : Reachable machine) :
    machine.step.HandedOut number := by
  obtain ⟨done, _, move⟩ := step_moves machine number
  have transfer := move.transfer (fun held there => reachable.tableSound there)
    (reachable.excluded number)
  have stays {task : TaskHandle} (before : task ∈ (machine.focus number).issued) :
      task ∈ (machine.step.focus number).issued :=
    (step_issued machine number).subset before
  constructor
  · intro task record work found has
    rcases transfer.attached task record work found has with
      absent | ⟨earlier, here, own | ⟨link, member, carries⟩⟩
    · rw [(reachable.newcomer_issued absent found has).1]
      exact List.mem_append_right _ (List.mem_singleton.mpr rfl)
    · exact stays (handed.attached task earlier work here own)
    · exact stays (handed.carried link member task work carries)
  · intro link member task work carries
    obtain ⟨_, ⟨other, there, given, carried, _⟩ | ⟨record, found, has⟩⟩ :=
      transfer.carried link member task work carries
    · exact stays (handed.carried other there task given carried)
    · exact stays (handed.attached task record work found has)
  · intro p task home
    by_cases before : machine.IsHome p number task
    · exact stays (handed.home p task before)
    · rw [(newcomer_of_home before home).1]
      exact List.mem_append_right _ (List.mem_singleton.mpr rfl)

theorem Reachable.handedOut (reachable : Reachable machine) (number : Nat) :
    machine.HandedOut number := by
  induction reachable with
  | boot start =>
      constructor
      · intro task record work found
        cases found
      · intro link member
        cases member
      · rintro p task ⟨pipeline, found, _⟩
        cases found
  | @start machine call interposed _ rest ih =>
      have same := focus_start machine call interposed number rest
      constructor
      · intro task record work found has
        rw [same] at found ⊢
        exact ih.attached task record work found has
      · intro link member task work carries
        rw [show (machine.start call interposed).duties number = machine.duties number from
          congrArg Focus.duties same] at member
        rw [same]
        exact ih.carried link member task work carries
      · intro p task home
        rw [same]
        exact ih.home p task home
  | step reachable ih => exact ih.step reachable

theorem CopiesOnly.step (copies : machine.CopiesOnly p number task) (reachable : Reachable machine)
    (unissued : (machine.step.focus number).issued ≠ (machine.focus number).issued ++ [task]) :
    machine.step.CopiesOnly p number task := by
  obtain ⟨done, _, move⟩ := step_moves machine number
  have transfer := move.transfer (fun held there => reachable.tableSound there)
    (reachable.excluded number)
  constructor
  · intro record work found has
    rcases transfer.attached task record work found has with
      absent | ⟨earlier, here, own | ⟨link, there, carries⟩⟩
    · exact absurd (reachable.newcomer_issued absent found has).1 unissued
    · exact copies.attached earlier work here own
    · exact copies.carried link there work carries
  · intro link there work carries
    obtain ⟨_, ⟨other, earlier, given, carried, same⟩ | ⟨record, found, has⟩⟩ :=
      transfer.carried link there task work carries
    · obtain ⟨routine, rfl⟩ := copies.carried other earlier given carried
      rcases same with rfl | rfl
      · exact ⟨routine, rfl⟩
      · exact ⟨routine.advance, rfl⟩
    · exact copies.attached record work found has

theorem Reachable.copiesOnly_of_newcomer (reachable : Reachable machine)
    (strange : task ∉ (machine.focus number).issued) {desc : PipelineDesc} {routine : Routine}
    {rest : List Activity}
    (agenda : machine.agenda = .enter number (.createPipeline desc routine) :: rest) :
    machine.step.CopiesOnly machine.pipelines.length number task := by
  obtain ⟨done, _, move⟩ := step_moves machine number
  have transfer := move.transfer (fun held there => reachable.tableSound there)
    (reachable.excluded number)
  have handed := reachable.handedOut number
  constructor
  · intro record work found has
    rcases transfer.attached task record work found has with
      absent | ⟨earlier, here, own | ⟨link, there, carries⟩⟩
    · obtain ⟨_, part, _, settings, enters, newcomer⟩ :=
        reachable.newcomer_issued absent found has
      cases agenda.symm.trans enters
      cases newcomer
      exact ⟨routine, rfl⟩
    · exact absurd (handed.attached task earlier work here own) strange
    · exact absurd (handed.carried link there task work carries) strange
  · intro link there work carries
    obtain ⟨_, ⟨other, earlier, given, carried, _⟩ | ⟨record, found, has⟩⟩ :=
      transfer.carried link there task work carries
    · exact absurd (handed.carried other earlier task given carried) strange
    · exact absurd (handed.attached task record work found has) strange

/-- The task of a pipeline whose handle was handed out once has no work but the copy. -/
theorem Reachable.copiesOnly (reachable : Reachable machine)
    (home : machine.IsHome p number task)
    (once : (machine.focus number).issued.count task ≤ 1) : machine.CopiesOnly p number task := by
  induction reachable with
  | boot start =>
      obtain ⟨pipeline, found, _⟩ := home
      cases found
  | @start machine call interposed _ rest ih =>
      have same := focus_start machine call interposed number rest
      rw [same] at once
      have kept := ih home once
      constructor
      · intro record work found has
        rw [same] at found
        exact kept.attached record work found has
      · intro link member work carries
        rw [show (machine.start call interposed).duties number = machine.duties number from
          congrArg Focus.duties same] at member
        exact kept.carried link member work carries
  | @step machine reachable ih =>
      -- A handle that was handed out before is not handed out now.
      have unissued (before : task ∈ (machine.focus number).issued) :
          (machine.step.focus number).issued ≠ (machine.focus number).issued ++ [task] := by
        intro issued
        have some' := List.count_pos_iff.mpr before
        rw [issued, List.count_append, List.count_singleton_self] at once
        omega
      by_cases before : machine.IsHome p number task
      · have fewer := (step_issued machine number).sublist.count_le task
        have member := (reachable.handedOut number).home p task before
        exact (ih before (Nat.le_trans fewer once)).step reachable (unissued member)
      · obtain ⟨issued, desc, routine, rest, agenda, rfl⟩ := newcomer_of_home before home
        exact reachable.copiesOnly_of_newcomer (fun member => unissued member issued) agenda

end Machine

end EdfKernel
