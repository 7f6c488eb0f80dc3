import EdfKernel.Proofs.PipelineRequests
import EdfKernel.Proofs.PipelineTasks
import EdfKernel.Proofs.TaskStates

/-!
A pipeline that was started goes on. Its task waits for a pass, or the selector has given it
up; or it runs, and the pass that took it will ask the pipeline what to do next and admit the
task again for it. What the copy itself calls cannot break this: a start finds the task
running and leaves it to the pass, and a stop takes the pipeline out of the matter until it is
started again, which admits the task at once.
-/

namespace EdfKernel

namespace TaskState

/-- The task is in the queue, or was given up as late. -/
inductive Waits : TaskState → Prop where
  | queued : Waits .queued
  | missed : Waits (.cancelled .deadlineMissed)

end TaskState

namespace Activity

/-- A link of the pass that has taken the task of pipeline `p` out of the table, from which it
comes to be admitted again for the period `period`. -/
inductive Resumes (p : Nat) (task : TaskHandle) (period : UInt64) : Activity → Prop where
  | execute (number : Nat) (run : Dispatch) (routine : Routine) (own : run.task = task) :
      Resumes p task period (.execute number run (some (.copy p routine)))
  | engage (number : Nat) (run : Dispatch) (routine : Routine) (turn : ExecutorTurn Call)
      (own : run.task = task) (runs : turn.runs = true) (obeys : turn.status = none) :
      Resumes p task period (.engage number run (.copy p routine) turn)
  | returned (number : Nat) (run : Dispatch) (work : Work) (after : Script)
      (own : run.task = task) :
      Resumes p task period (.returned number run work (.pipeline p) after)
  | acquire (number : Nat) (run : Dispatch) (work : Option Work) (own : run.task = task) :
      Resumes p task period (.acquire number (.finish run work (.reschedule period period)))
  | enter (number : Nat) (run : Dispatch) (work : Option Work) (own : run.task = task) :
      Resumes p task period (.enter number (.finish run work (.reschedule period period)))

theorem Resumes.isLink {p : Nat} {task : TaskHandle} {period : UInt64} {link : Activity}
    (resumes : link.Resumes p task period) : link.isLink = true := by
  cases resumes <;> rfl

end Activity

namespace Focus

/-- The task of pipeline `p` waits, or the pass that has taken it will admit it again. -/
inductive Sustains (focus : Focus) (p : Nat) (task : TaskHandle) (period : UInt64) : Prop where
  | waiting (record : TaskRecord Work) (found : focus.record? task = some record)
      (waits : record.state.Waits) : Sustains focus p task period
  | running (record : TaskRecord Work) (found : focus.record? task = some record)
      (state : record.state = .running) (link : Activity) (member : link ∈ focus.duties)
      (resumes : link.Resumes p task period) : Sustains focus p task period
  | returning (record : TaskRecord Work) (found : focus.record? task = some record)
      (state : record.state = .completed) (link : Activity) (member : link ∈ focus.duties)
      (run : Dispatch) (again : link.reinsert? = some (run, period, period))
      (own : run.task = task) : Sustains focus p task period

end Focus

theorem Move.remains {number : Nat} {clock : Ticks} {pipelines : Nat} {done : Option Activity}
    {before after : Focus} (move : Move number clock pipelines done before after)
    {duty : Activity} (member : duty ∈ before.duties) :
    done = some duty ∨ duty ∈ after.duties := by
  have passed {activity : Activity} {duties : List Activity} (member : duty ∈ activity :: duties) :
      some activity = some duty ∨ duty ∈ duties := by
    rcases List.mem_cons.mp member with rfl | later
    · exact .inl rfl
    · exact .inr later
  cases move with
  | rest | setUp | drop | coalesce => exact .inr member
  | begin | ask => exact .inr (List.mem_cons_of_mem _ member)
  | enter =>
      rcases passed member with first | later
      · exact .inl first
      · exact .inr (List.mem_cons_of_mem _ (List.mem_append_right _ later))
  | leave | conclude | vanish => exact passed member
  | acquire | hand | skip | run | spare | back | lookUp =>
      exact (passed member).imp_right (List.mem_cons_of_mem _)

/-- A scheduler that was set up stays, with its configuration and its kind of executor. -/
theorem Move.settled {number : Nat} {clock : Ticks} {pipelines : Nat} {done : Option Activity}
    {before after : Focus} (move : Move number clock pipelines done before after)
    {scheduler : Scheduler} (found : before.scheduler = some scheduler) :
    ∃ later, after.scheduler = some later ∧ later.config = scheduler.config ∧
      later.executor.isInline = scheduler.executor.isInline := by
  have advanced (executor : Executor Call) : executor.advance.isInline = executor.isInline := by
    cases executor <;> rfl
  cases move with
  | rest | ask | acquire | run | spare | back => exact ⟨scheduler, found, rfl, rfl⟩
  | setUp | vanish => cases found
  | drop | coalesce | begin | leave | conclude | lookUp =>
      cases found
      exact ⟨_, rfl, rfl, rfl⟩
  | hand earlier | skip earlier =>
      cases found
      exact ⟨_, rfl, rfl, advanced _⟩
  | enter earlier duties part free =>
      cases found
      obtain ⟨⟨table, statistics, issued, framed⟩, _⟩ :=
        part.effect_done scheduler number clock pipelines
      exact ⟨_, rfl, by rw [framed], by rw [framed]⟩

namespace Section

variable {part : Section} {scheduler : Scheduler} {number p : Nat} {clock : Ticks}
  {pipelines : Nat} {task : TaskHandle} {record : TaskRecord Work}

/-- A caller's section about the task, if there is one, admits it. -/
def OnlyAdmits (part : Section) (task : TaskHandle) : Prop :=
  part.changes? = some task → ∃ startUs deadlineUs, part = .insert task startUs deadlineUs

theorem Treats.cases {before : TaskState} {after : Option TaskState}
    (treats : part.Treats task before after) (admits : part.OnlyAdmits task) :
    after = some before ∨ (before ≠ .running ∧ after = some .queued) ∨
      (before = .queued ∧ after = some (.cancelled .deadlineMissed)) ∨
      (before = .queued ∧ after = some .running ∧ part.takes task = true) ∨
      (before = .running ∧ after = some .completed ∧ part.isPass = true) := by
  cases treats with
  | kept => exact .inl rfl
  | admitted _ idle => exact .inr (.inl ⟨idle, rfl⟩)
  | completed withdraws | cancelled withdraws | retired withdraws =>
      subst withdraws
      obtain ⟨_, _, inserts⟩ := admits rfl
      cases inserts
  | missed _ queued => exact .inr (.inr (.inl ⟨queued, rfl⟩))
  | taken takes queued => exact .inr (.inr (.inr (.inl ⟨queued, rfl, takes⟩)))
  | finished run work status finishes own running =>
      subst finishes
      exact .inr (.inr (.inr (.inr ⟨running, rfl, rfl⟩)))

theorem takes_next (found : scheduler.table.find? task = some record)
    (takes : part.takes task = true) (queued : record.state = .queued)
    (taken : (part.effect scheduler number clock pipelines).scheduler.table.state? task =
      some .running) :
    ∃ run, run.task = task ∧
      .execute number run record.work ∈ (part.effect scheduler number clock pipelines).next := by
  cases part with
  | dispatch wakes current chosen =>
      cases of_decide_eq_true takes
      cases claim : scheduler.table.claim current task with
      | none =>
          simp only [effect, Effect.dispatch, claim] at taken
          change scheduler.table.state? task = some .running at taken
          rw [TaskTable.state?_of_find? found, queued] at taken
          cases taken
      | some pair =>
          obtain ⟨work, after⟩ := pair
          obtain ⟨earlier, here, _, _, rfl, _⟩ := TaskTable.claim_cases claim
          cases found.symm.trans here
          simp only [effect, Effect.dispatch, claim]
          exact ⟨_, rfl, List.mem_singleton.mpr rfl⟩
  | _ => cases takes

theorem finish_next (found : scheduler.table.find? task = some record)
    (running : record.state = .running) {run : Dispatch} (own : run.task = task)
    (work : Option Work) (startUs deadlineUs : UInt64) :
    ((finish run work (.reschedule startUs deadlineUs)).effect scheduler number clock
        pipelines).scheduler.table.state? task = some .completed ∧
      .acquire number (.reinsert run startUs deadlineUs) ∈
        ((finish run work (.reschedule startUs deadlineUs)).effect scheduler number clock
          pipelines).next := by
  subst own
  have state : (scheduler.table.finish run.task work).2.state? run.task = some .completed := by
    rw [TaskTable.state?_finish work found, if_pos ⟨rfl, running⟩]
  have finished := TaskTable.finish_of_running work record found running
  rw [finished] at state
  simp only [effect, Effect.finish, finished, if_true]
  exact ⟨state, List.mem_singleton.mpr rfl⟩

theorem window_granted (found : scheduler.table.find? task = some record)
    (idle : record.state ≠ .running) {startUs deadlineUs : UInt64}
    (wants : part.window? = some (task, startUs, deadlineUs))
    (early : TaskTable.startAfter scheduler.config clock record.timing.start startUs ≠ Ticks.last)
    (room : 0 < scheduler.config.toTicks deadlineUs) :
    (part.effect scheduler number clock pipelines).scheduler.table.state? task =
      some .queued := by
  obtain ⟨window, after, accepted⟩ :=
    (TaskTable.insert_accepts_iff found idle).mpr ⟨early, room⟩
  have state := TaskTable.state?_insert accepted found
  rw [if_pos rfl] at state
  cases part with
  | insert other startUs deadlineUs =>
      cases wants
      simp only [effect, Effect.insert, accepted]
      exact state
  | reinsert run startUs deadlineUs =>
      cases wants
      simp only [effect, Effect.reinsert, accepted]
      exact state
  | _ => cases wants

end Section

namespace Machine

variable {machine : Machine} {p number : Nat} {task : TaskHandle} {period : UInt64}
  {scheduler : Scheduler} {pipeline : Pipeline}

theorem mem_duties {duty : Activity} (member : duty ∈ machine.agenda)
    (own : duty.scheduler? = some number) : duty ∈ machine.duties number :=
  List.mem_filter.mpr ⟨member, by simp [Activity.isDuty, own]⟩

theorem step_resumes {link : Activity} {below : List Activity}
    (agenda : machine.agenda = link :: below) (own : link.scheduler? = some number)
    (resumes : link.Resumes p task period) (outside : ∀ part, link ≠ .enter number part)
    (held : machine.scheduler? number = some scheduler)
    (inline : scheduler.executor.isInline = true)
    (found : machine.pipelines[p]? = some pipeline)
    (asks : pipeline.status = .reschedule period period) :
    ∃ next ∈ machine.step.duties number, next.Resumes p task period := by
  cases resumes with
  | execute other run routine same =>
      cases own
      have turn : scheduler.executor.turn = ⟨[], true, [], none⟩ := by
        cases executor : scheduler.executor with
        | inline => rfl
        | custom turns =>
            rw [executor] at inline
            cases inline
      refine ⟨.engage number run (.copy p routine) scheduler.executor.turn, mem_duties ?_ rfl,
        .engage number run routine _ same (by rw [turn]) (by rw [turn])⟩
      have here : ({ machine with agenda := below } : Machine).scheduler? number =
          some scheduler := held
      rw [step_cons agenda]
      simp only [carryOut, execute, here, inline, if_true]
      simp [push]
  | engage other run routine turn same runs obeys =>
      cases own
      refine ⟨.returned number run (Work.copy p routine).advance (.pipeline p) turn.after,
        mem_duties ?_ rfl, .returned number run _ turn.after same⟩
      rw [step_cons agenda]
      simp [carryOut, engage, runs, runWork, obeys, push]
  | returned other run work after same =>
      cases own
      refine ⟨.acquire number (.finish run (some work) (.reschedule period period)),
        mem_duties ?_ rfl, .acquire number run (some work) same⟩
      have there : ({ machine with agenda := below } : Machine).pipelines[p]? = some pipeline :=
        found
      rw [step_cons agenda]
      simp only [carryOut, Machine.returned, there, Option.map_some, Option.getD_some, asks]
      simp [push]
  | acquire other run work same =>
      cases own
      refine ⟨.enter number (.finish run work (.reschedule period period)), mem_duties ?_ rfl,
        .enter number run work same⟩
      obtain ⟨above, stepped⟩ := step_acquire agenda
      rw [stepped]
      exact List.mem_append_right _ List.mem_cons_self
  | enter other run work same =>
      cases own
      exact absurd rfl (outside _)

theorem step_sustains_outside
    (outside : ∀ part below, machine.agenda ≠ .enter number part :: below)
    (sustains : (machine.focus number).Sustains p task period)
    (held : machine.scheduler? number = some scheduler)
    (inline : scheduler.executor.isInline = true)
    (found : machine.pipelines[p]? = some pipeline)
    (asks : pipeline.status = .reschedule period period) :
    (machine.step.focus number).Sustains p task period := by
  obtain ⟨done, comes, move⟩ := step_moves machine number
  obtain ⟨later, holds, _⟩ := move.settled held
  have kept {record : TaskRecord Work} (here : (machine.focus number).record? task = some record) :
      (machine.step.focus number).record? task = some record := by
    rcases move.table_cases later holds with
      ⟨absent, _⟩ | ⟨earlier, before, _, same | ⟨part, _, enters, _⟩⟩
    · rw [Focus.record?, absent] at here
      cases here
    · rw [Focus.record?, before] at here
      rw [Focus.record?, holds]
      change later.table.find? task = some record
      rw [same]
      exact here
    · obtain ⟨below, agenda⟩ := comes _ enters
      exact absurd agenda (outside part below)
  have scheduling {link : Activity} (member : link ∈ machine.duties number) :
      link.scheduler? = some number := by
    simpa [Activity.isDuty] using List.of_mem_filter member
  cases sustains with
  | waiting record here waits => exact .waiting record (kept here) waits
  | running record here state link member resumes =>
      rcases move.remains member with first | stays
      · obtain ⟨below, agenda⟩ := comes _ first
        obtain ⟨next, there, follows⟩ := step_resumes agenda (scheduling member) resumes
          (fun part same => outside part below (agenda.trans (by rw [same]))) held inline found asks
        exact .running record (kept here) state next there follows
      · exact .running record (kept here) state link stays resumes
  | returning record here state link member run again own =>
      rcases move.remains member with first | stays
      · obtain ⟨below, agenda⟩ := comes _ first
        have mine := scheduling member
        cases link with
        | acquire other part =>
            cases mine
            obtain ⟨above, stepped⟩ := step_acquire agenda
            have there : Activity.enter number part ∈ machine.step.duties number := by
              apply mem_duties _ rfl
              rw [stepped]
              exact List.mem_append_right _ List.mem_cons_self
            exact .returning record (kept here) state _ there run
              ((Activity.reinsert?_enter number part).trans again) own
        | enter other part =>
            cases mine
            exact absurd agenda (outside part below)
        | _ => cases again
      · exact .returning record (kept here) state link stays run again own

theorem record?_of_scheduler? (held : machine.scheduler? number = some scheduler) :
    (machine.focus number).record? task = scheduler.table.find? task := by
  rw [Focus.record?, focus, held]
  rfl

section Entering

variable {part : Section} {below : List Activity}
  (agenda : machine.agenda = .enter number part :: below)
  (held : machine.scheduler? number = some scheduler)

include agenda held

theorem Reachable.mem_duties_enter (reachable : Reachable machine) {duty : Activity}
    (next : duty ∈ (part.effect scheduler number machine.clock machine.pipelines.length).next)
    (own : duty.scheduler? = some number) : duty ∈ machine.step.duties number := by
  have free := reachable.free_of_agenda held agenda fun leaves => by cases leaves
  apply mem_duties _ own
  rw [step_enter_eq agenda held free rfl]
  exact List.mem_cons_of_mem _ (List.mem_append_left _ next)

theorem Reachable.record?_enter (reachable : Reachable machine) {state : TaskState}
    (there : (part.effect scheduler number machine.clock
      machine.pipelines.length).scheduler.table.state? task = some state) :
    ∃ record, (machine.step.focus number).record? task = some record ∧ record.state = state := by
  have free := reachable.free_of_agenda held agenda fun leaves => by cases leaves
  obtain ⟨stepped, _⟩ := step_enter machine number part below scheduler agenda held free
  obtain ⟨record, found, same⟩ := Option.map_eq_some_iff.mp there
  refine ⟨record, ?_, same⟩
  rw [Focus.record?, focus, stepped]
  exact found

omit held in
theorem Reachable.link_alone (reachable : Reachable machine) (pass : part.isPass = true)
    {link : Activity} (member : link ∈ machine.duties number) (linked : link.isLink = true) :
    link = .enter number part := by
  have excluded := reachable.excluded number
  have duties := duties_cons agenda rfl
  rw [focus, duties] at excluded
  obtain ⟨_, _, _, unlinked, _⟩ := excluded.of_link pass
  rw [duties] at member
  rcases List.mem_cons.mp member with first | rest
  · exact first
  · exact absurd linked (List.filter_eq_nil_iff.mp unlinked link rest)

omit held in
theorem mem_duties_of_ne {duty : Activity} (member : duty ∈ machine.duties number)
    (other : duty ≠ .enter number part) : duty ∈ machine.step.duties number := by
  obtain ⟨done, comes, move⟩ := step_moves machine number
  rcases move.remains member with first | stays
  · obtain ⟨rest, front⟩ := comes _ first
    exact absurd (List.head_eq_of_cons_eq (front.symm.trans agenda)) other
  · exact stays

theorem Reachable.waits_enter (reachable : Reachable machine) {state : TaskState}
    (there : (part.effect scheduler number machine.clock
      machine.pipelines.length).scheduler.table.state? task = some state) (waits : state.Waits) :
    (machine.step.focus number).Sustains p task period := by
  obtain ⟨record, found, rfl⟩ := reachable.record?_enter agenda held there
  exact .waiting record found waits

theorem Reachable.taken_enter (reachable : Reachable machine)
    (copies : machine.CopiesOnly p number task) {record : TaskRecord Work}
    (found : scheduler.table.find? task = some record) (queued : record.state = .queued)
    (takes : part.takes task = true)
    (taken : (part.effect scheduler number machine.clock
      machine.pipelines.length).scheduler.table.state? task = some .running) :
    (machine.step.focus number).Sustains p task period := by
  obtain ⟨run, own, next⟩ := Section.takes_next found takes queued taken
  obtain ⟨after, there, state⟩ := reachable.record?_enter agenda held taken
  cases has : record.work with
  | none =>
      -- Another link of the pass would carry the work, and there is no other.
      obtain ⟨_, link, work, one, carries⟩ := reachable.out held found (.inr has)
      have member := List.mem_filter.mp (one ▸ List.mem_singleton.mpr rfl)
      cases part with
      | dispatch wakes current chosen =>
          rw [reachable.link_alone agenda rfl member.1 member.2] at carries
          cases carries
      | _ => cases takes
  | some work =>
      have here : (machine.focus number).record? task = some record :=
        (record?_of_scheduler? held).trans found
      obtain ⟨routine, rfl⟩ := copies.attached record work here has
      rw [has] at next
      exact .running after there state _ (reachable.mem_duties_enter agenda held next rfl)
        (.execute number run routine own)

theorem readmitted_enter {record : TaskRecord Work} {run : Dispatch}
    (found : scheduler.table.find? task = some record) (idle : record.state ≠ .running)
    (again : (Activity.enter number part).reinsert? = some (run, period, period))
    (own : run.task = task) (early : machine.nextStart? number task ≠ some Ticks.last)
    (room : 0 < scheduler.config.toTicks period) :
    (part.effect scheduler number machine.clock
      machine.pipelines.length).scheduler.table.state? task = some .queued := by
  have wants : part.window? = some (task, period, period) := by
    cases part with
    | reinsert other startUs deadlineUs =>
        cases again
        exact congrArg (fun task => some (task, period, period)) own
    | _ => cases again
  refine Section.window_granted found idle wants ?_ room
  intro last
  rw [nextStart?_enter agenda wants held found idle, last] at early
  exact early rfl

/-- Neither does a section, unless it is one of a caller that is about the task and does not
admit it. -/
theorem Reachable.step_sustains_enter (reachable : Reachable machine)
    (sustains : (machine.focus number).Sustains p task period)
    (copies : machine.CopiesOnly p number task) (admits : part.OnlyAdmits task)
    (early : machine.nextStart? number task ≠ some Ticks.last)
    (room : 0 < scheduler.config.toTicks period) :
    (machine.step.focus number).Sustains p task period := by
  have consistent := (reachable.tableSound held).consistent
  have treats {record : TaskRecord Work} (here : scheduler.table.find? task = some record) :=
    ((part.effect_makes scheduler number machine.clock machine.pipelines.length).treats consistent
      here).cases admits
  cases sustains with
  | waiting record here waiting =>
      rw [record?_of_scheduler? held] at here
      rcases treats here with
        kept | ⟨_, queued⟩ | ⟨_, missed⟩ | ⟨queued, taken, takes⟩ | ⟨running, _⟩
      · exact reachable.waits_enter agenda held kept waiting
      · exact reachable.waits_enter agenda held queued .queued
      · exact reachable.waits_enter agenda held missed .missed
      · exact reachable.taken_enter agenda held copies here queued takes taken
      · rw [running] at waiting
        cases waiting
  | running record here state link member resumes =>
      rw [record?_of_scheduler? held] at here
      by_cases front : link = .enter number part
      · subst front
        cases resumes with
        | enter _ run work own =>
            obtain ⟨finished, next⟩ := Section.finish_next here state own work period period
            obtain ⟨after, found, completed⟩ := reachable.record?_enter agenda held finished
            exact .returning after found completed _
              (reachable.mem_duties_enter agenda held next rfl) run rfl own
      · have stays := mem_duties_of_ne agenda member front
        rcases treats here with
          kept | ⟨idle, _⟩ | ⟨queued, _⟩ | ⟨queued, _⟩ | ⟨_, _, pass⟩
        · obtain ⟨after, found, running⟩ := reachable.record?_enter agenda held kept
          exact .running after found (running.trans state) link stays resumes
        · exact absurd state idle
        · cases state.symm.trans queued
        · cases state.symm.trans queued
        · exact absurd (reachable.link_alone agenda pass member resumes.isLink) front
  | returning record here state link member run again own =>
      rw [record?_of_scheduler? held] at here
      have idle : record.state ≠ .running := by
        rw [state]
        intro running
        cases running
      by_cases front : link = .enter number part
      · subst front
        exact reachable.waits_enter agenda held
          (readmitted_enter agenda held here idle again own early room) .queued
      · have stays := mem_duties_of_ne agenda member front
        rcases treats here with
          kept | ⟨_, queued⟩ | ⟨queued, _⟩ | ⟨queued, _⟩ | ⟨running, _⟩
        · obtain ⟨after, found, completed⟩ := reachable.record?_enter agenda held kept
          exact .returning after found (completed.trans state) link stays run again own
        · exact reachable.waits_enter agenda held queued .queued
        · cases state.symm.trans queued
        · cases state.symm.trans queued
        · exact absurd running idle

end Entering

def StartsNext (p : Nat) (machine : Machine) : Prop :=
  machine.agenda.head?.bind Activity.starts? = some p

def StopsNext (p : Nat) (machine : Machine) : Prop :=
  machine.agenda.head?.bind Activity.stops? = some p

instance (p : Nat) (machine : Machine) : Decidable (StopsNext p machine) :=
  inferInstanceAs (Decidable (_ = _))

/-- Pipeline `p` is started or released next, and that call returns without an error. -/
def StartsWell (p : Nat) (machine : Machine) : Prop :=
  ∃ activity below steps, machine.agenda = activity :: below ∧ activity.starts? = some p ∧
    machine.Returns below steps ∧ (machine.run steps).reply = .ok .done

/-- The next section is to admit the task for the period, and will. -/
def Grants (machine : Machine) (number : Nat) (task : TaskHandle) (period : UInt64) : Prop :=
  ∃ duty below steps, machine.agenda = duty :: below ∧
    duty.asked? = some (number, .insert task 0 period) ∧ machine.Returns below steps ∧
      (machine.run steps).reply = .ok .done

/-- The task goes on, in a period that is not empty. -/
structure GoesOn (machine : Machine) (p number : Nat) (task : TaskHandle) (period : UInt64)
    (scheduler : Scheduler) : Prop where
  room : 0 < scheduler.config.toTicks period
  sustains : (machine.focus number).Sustains p task period

/-- A timer-driven pipeline with its task, on a scheduler with the inline executor that never
handed the task's handle to another one. -/
structure Plays (machine : Machine) (p number : Nat) (task : TaskHandle) (pipeline : Pipeline)
    (scheduler : Scheduler) : Prop where
  found : machine.pipelines[p]? = some pipeline
  held : machine.scheduler? number = some scheduler
  own : pipeline.scheduler = number
  named : pipeline.task = task
  driven : pipeline.desc.timerDriven = true
  inline : scheduler.executor.isInline = true
  once : scheduler.issued.count task ≤ 1

theorem Plays.home (plays : machine.Plays p number task pipeline scheduler) :
    machine.IsHome p number task :=
  ⟨pipeline, plays.found, plays.own, plays.named⟩

theorem Plays.status (plays : machine.Plays p number task pipeline scheduler)
    (active : pipeline.active = true) :
    pipeline.status = .reschedule pipeline.desc.deadlineUs pipeline.desc.deadlineUs := by
  simp [Pipeline.status, plays.driven, active]

theorem issued_of_scheduler? (held : machine.scheduler? number = some scheduler) :
    (machine.focus number).issued = scheduler.issued := by
  rw [Focus.issued, focus, held, Option.map_some, Option.getD_some]

theorem Plays.before {later : Pipeline} {after : Scheduler} (reachable : Reachable machine)
    (plays : machine.step.Plays p number task later after)
    (found : machine.pipelines[p]? = some pipeline) :
    ∃ scheduler, machine.Plays p number task pipeline scheduler ∧
      after.config = scheduler.config ∧ later.desc = pipeline.desc := by
  obtain ⟨stays, there, kept⟩ := step_piped found
  cases plays.found.symm.trans there
  have own := kept.scheduler.symm.trans plays.own
  have named := kept.task.symm.trans plays.named
  have handed := (reachable.handedOut number).home p task ⟨pipeline, found, own, named⟩
  cases held : machine.scheduler? number with
  | none =>
      rw [Focus.issued, focus, held] at handed
      cases handed
  | some scheduler =>
      obtain ⟨done, comes, move⟩ := step_moves machine number
      obtain ⟨_, holds, config, inline⟩ := move.settled held
      cases plays.held.symm.trans holds
      have issued := step_issued machine number
      rw [issued_of_scheduler? held, issued_of_scheduler? plays.held] at issued
      exact ⟨scheduler,
        ⟨found, held, own, named, (congrArg PipelineDesc.timerDriven kept.desc).symm.trans
          plays.driven, inline.symm.trans plays.inline,
          Nat.le_trans (issued.sublist.count_le task) plays.once⟩,
        config, kept.desc⟩

theorem Returns.accepted {below : List Activity} {steps : Nat}
    (returns : machine.Returns below steps)
    (agenda : machine.agenda = .enter number (.insert task 0 period) :: below)
    (held : machine.scheduler? number = some scheduler) (free : scheduler.locked = false)
    (replies : (machine.run steps).reply = .ok .done) :
    ∃ window after,
      scheduler.table.insert scheduler.config machine.clock task 0 period =
        .ok (window, after) := by
  cases result : scheduler.table.insert scheduler.config machine.clock task 0 period with
  | ok accepted => exact ⟨accepted.1, accepted.2, rfl⟩
  | error error =>
      -- The section would answer with the error, and so would the call.
      have made : (Section.insert task 0 period).effect scheduler number machine.clock
          machine.pipelines.length = .refusal scheduler error := by
        simp only [Section.effect, Effect.insert, result]
      have entered := step_enter_eq agenda held free made
      have leaving : machine.step.agenda = .leave number :: below := by
        rw [entered]
        rfl
      have holds : machine.step.scheduler? number =
          some { scheduler.refuse error with locked := true } := by
        rw [entered]
        exact scheduler?_setScheduler_self machine number scheduler _ held
      obtain ⟨fewer, rfl, later⟩ := returns.step (by
        rw [agenda]
        exact Nat.lt_succ_self _)
      obtain ⟨last, rfl, ending⟩ := later.step (by
        rw [leaving]
        exact Nat.lt_succ_self _)
      have left := step_leave leaving holds
      cases ending.done (by rw [left])
      rw [run_succ, run_succ, run, left] at replies
      have answered : machine.step.reply = .failed (.scheduler error) := by
        rw [entered]
        rfl
      cases answered.symm.trans replies

theorem Grants.step (grants : machine.Grants number task period) (reachable : Reachable machine)
    (alone : machine.isInterposedNext = false)
    (held : machine.scheduler? number = some scheduler) (p : Nat) :
    machine.step.Grants number task period ∨
      machine.step.GoesOn p number task period scheduler := by
  obtain ⟨duty, below, steps, agenda, asked, returns, replies⟩ := grants
  cases duty with
  | acquire other part =>
      left
      obtain ⟨fewer, rfl, later⟩ := returns.step (by
        rw [agenda]
        exact Nat.lt_succ_self _)
      rw [run_succ] at replies
      have stepped := step_acquire_alone agenda (not_interposed_acquire agenda alone)
      exact ⟨.enter other part, below, fewer, by rw [stepped], asked, later, replies⟩
  | enter other part =>
      right
      simp only [Activity.asked?] at asked
      split at asked
      case isFalse => cases asked
      cases asked
      have free := reachable.free_of_agenda held agenda fun leaves => by cases leaves
      obtain ⟨window, after, result⟩ := returns.accepted agenda held free replies
      obtain ⟨record, found, idle, _⟩ := TaskTable.insert_cases result
      obtain ⟨_, room⟩ := (TaskTable.insert_accepts_iff found idle).mp ⟨window, after, result⟩
      have queued : ((Section.insert task 0 period).effect scheduler number machine.clock
          machine.pipelines.length).scheduler.table.state? task = some .queued := by
        simp only [Section.effect, Effect.insert, result]
        exact (TaskTable.state?_insert result found).trans (congrArg some (if_pos rfl))
      exact ⟨room, reachable.waits_enter agenda held queued .queued⟩
  | _ => cases asked

theorem StartsWell.step (starts : StartsWell p machine) :
    ∃ pipeline, machine.pipelines[p]? = some pipeline ∧
      machine.step.pipelines[p]? = some pipeline.activate ∧
      (pipeline.desc.timerDriven = true →
        machine.step.Grants pipeline.scheduler pipeline.task pipeline.desc.deadlineUs) := by
  obtain ⟨activity, below, steps, agenda, begins, returns, replies⟩ := starts
  obtain ⟨fewer, rfl, later⟩ := returns.step (by
    rw [agenda]
    exact Nat.lt_succ_self _)
  rw [run_succ] at replies
  obtain ⟨current, command, rfl, starting⟩ : ∃ current command,
      activity = .call current (.pipeline p (.command command)) ∧
        (command = .start ∨ command = .release) := by
    cases activity with
    | call current call =>
        cases call with
        | pipeline number call =>
            cases call with
            | command command =>
                cases command with
                | start =>
                    cases begins
                    exact ⟨current, _, rfl, .inl rfl⟩
                | release =>
                    cases begins
                    exact ⟨current, _, rfl, .inr rfl⟩
                | _ => cases begins
            | _ => cases begins
        | _ => cases begins
    | _ => cases begins
  cases found : machine.pipelines[p]? with
  | none =>
      -- There is no such pipeline, and the call says so.
      have stepped : machine.step =
          ({ machine with agenda := below } : Machine).refuse .noPipeline := by
        rw [step_cons agenda]
        simp only [carryOut, perform, found]
      cases later.done (by rw [stepped]; rfl)
      rw [run, stepped] at replies
      cases replies
  | some pipeline =>
      refine ⟨pipeline, rfl, ?_, fun driven => ?_⟩
      · rw [step_alters agenda found, Activity.alters, if_pos begins]
      · refine ⟨.acquire pipeline.scheduler (.insert pipeline.task 0 pipeline.desc.deadlineUs),
          below, fewer, ?_, rfl, later, replies⟩
        rw [step_cons agenda]
        simp only [carryOut, perform, found, performPipeline, performCommand]
        rcases starting with rfl | rfl <;> simp only [driven, if_true] <;> rfl

theorem GoesOn.step (goes : machine.GoesOn p number task pipeline.desc.deadlineUs scheduler)
    (reachable : Reachable machine) (plays : machine.Plays p number task pipeline scheduler)
    (active : pipeline.active = true) (period : machine.AsksForPeriod p number task)
    (early : machine.nextStart? number task ≠ some Ticks.last) {after : Scheduler}
    (config : after.config = scheduler.config) :
    machine.step.GoesOn p number task pipeline.desc.deadlineUs after where
  room := config ▸ goes.room
  sustains := by
    by_cases enters : ∃ part below, machine.agenda = .enter number part :: below
    · obtain ⟨part, below, agenda⟩ := enters
      have once := plays.once
      rw [← issued_of_scheduler? plays.held] at once
      refine reachable.step_sustains_enter agenda plays.held goes.sustains
        (reachable.copiesOnly plays.home once) (fun changes => ?_) early goes.room
      have asked : (Activity.enter number part).asked? = some (number, part) := by
        cases part <;> first | rfl | cases changes
      rcases period _ below part pipeline agenda asked changes plays.found plays.named with
        ⟨startUs, admits⟩ | idle
      · exact ⟨startUs, _, admits⟩
      · cases active.symm.trans idle
    · exact step_sustains_outside (fun part below agenda => enters ⟨part, below, agenda⟩)
        goes.sustains plays.held plays.inline plays.found (plays.status active)

/-- Pipeline `p` is there, and where it plays it is active and its task goes on, or is about to
be admitted. -/
structure Persists (machine : Machine) (p number : Nat) (task : TaskHandle) : Prop where
  present : ∃ pipeline, machine.pipelines[p]? = some pipeline
  active : ∀ pipeline scheduler, machine.Plays p number task pipeline scheduler →
    pipeline.active = true
  goes : ∀ pipeline scheduler, machine.Plays p number task pipeline scheduler →
    machine.Grants number task pipeline.desc.deadlineUs ∨
      machine.GoesOn p number task pipeline.desc.deadlineUs scheduler

theorem StartsWell.persists (starts : StartsWell p machine) :
    machine.step.Persists p number task := by
  obtain ⟨pipeline, found, there, grants⟩ := starts.step
  constructor
  · exact ⟨_, there⟩
  · intro later after plays
    cases plays.found.symm.trans there
    rfl
  · intro later after plays
    cases plays.found.symm.trans there
    left
    have granted := grants plays.driven
    rw [show pipeline.scheduler = number from plays.own,
      show pipeline.task = task from plays.named] at granted
    exact granted

namespace Persists

theorem start (persists : machine.Persists p number task) (call : Call)
    (interposed : Nat → Option Script) (rest : machine.agenda = []) :
    (machine.start call interposed).Persists p number task := by
  have same := focus_start machine call interposed number rest
  have before {pipeline : Pipeline} {scheduler : Scheduler}
      (now : (machine.start call interposed).Plays p number task pipeline scheduler) :
      machine.Plays p number task pipeline scheduler :=
    ⟨now.found, now.held, now.own, now.named, now.driven, now.inline, now.once⟩
  refine ⟨persists.present, fun pipeline scheduler now => ?_, fun pipeline scheduler now => ?_⟩
  · exact persists.active pipeline scheduler (before now)
  · rcases persists.goes pipeline scheduler (before now) with ⟨_, _, _, agenda, _⟩ | goes
    · cases rest.symm.trans agenda
    · exact .inr ⟨goes.room, by rw [same]; exact goes.sustains⟩

theorem step (persists : machine.Persists p number task) (reachable : Reachable machine)
    (alone : machine.isInterposedNext = false) (period : machine.AsksForPeriod p number task)
    (early : machine.nextStart? number task ≠ some Ticks.last)
    (unstopped : ¬ StopsNext p machine) : machine.step.Persists p number task := by
  obtain ⟨pipeline, found⟩ := persists.present
  obtain ⟨stays, there, _⟩ := step_piped found
  refine ⟨⟨stays, there⟩, fun later after now => ?_, fun later after now => ?_⟩
  · obtain ⟨scheduler, before, _⟩ := now.before reachable found
    have active := persists.active pipeline scheduler before
    cases agenda : machine.agenda with
    | nil =>
        have same := now.found
        rw [step_of_isIdle machine (by simp [isIdle, agenda]), found] at same
        cases same
        exact active
    | cons activity below =>
        cases now.found.symm.trans (step_alters agenda found)
        apply Activity.active_alters active
        intro stops
        apply unstopped
        rw [StopsNext, agenda]
        exact stops
  · obtain ⟨scheduler, before, config, desc⟩ := now.before reachable found
    rw [desc]
    rcases persists.goes pipeline scheduler before with grants | goes
    · rcases grants.step reachable alone before.held p with still | begun
      · exact .inl still
      · exact .inr ⟨config ▸ begun.room, begun.sustains⟩
    · have active := persists.active pipeline scheduler before
      exact .inr (goes.step reachable before active period early config)

end Persists

variable {past : List Machine}

/-- A pipeline that was started well, and neither paused nor stopped since, goes on. -/
theorem Trail.persists (trail : Trail past machine)
    (undisturbed : Undisturbed p number task past)
    (since : Since (StartsWell p) (StopsNext p) past) : machine.Persists p number task := by
  induction trail with
  | boot start => cases since
  | start call interposed _ rest ih => exact (ih undisturbed since).start call interposed rest
  | @step past machine trail ih =>
      rcases since_cons.mp since with starts | ⟨unstopped, earlier⟩
      · exact starts.persists
      · obtain ⟨_, period⟩ := trail.asks undisturbed.earlier
        exact (ih undisturbed.earlier earlier).step trail.reachable
          (undisturbed.alone machine List.mem_cons_self) period
          (undisturbed.early machine List.mem_cons_self) unstopped

end Machine

end EdfKernel
