import EdfKernel.Proofs.CallControl
import EdfKernel.Proofs.CallerSections
import EdfKernel.Proofs.Refusals

/-!
What is left of a command of a pipeline that fails. A start, release, pause or stop sets the
flags of its pipeline first and asks the scheduler afterwards. The scheduler refuses without a
trace, but nobody puts the flags back: a start that fails leaves the pipeline active, and ready
to report an overrun again, whatever it was before.
-/

namespace EdfKernel

namespace PipelineCommand

/-- What a command makes of its pipeline at once. -/
def marks : PipelineCommand → Pipeline → Pipeline
  | start | release => Pipeline.activate
  | pause | stop => Pipeline.deactivate
  | suspend | resume => id

def isIdleFor (pipeline : Pipeline) : PipelineCommand → Bool
  | start | release => pipeline.mayReport
  | pause | stop => !pipeline.active
  | suspend | resume => true

theorem marks_eq_iff (command : PipelineCommand) (pipeline : Pipeline) :
    command.marks pipeline = pipeline ↔ command.isIdleFor pipeline = true := by
  obtain ⟨scheduler, task, desc, active, reported⟩ := pipeline
  cases command <;> cases active <;> cases reported <;>
    simp [marks, isIdleFor, Pipeline.activate, Pipeline.deactivate, Pipeline.mayReport]

end PipelineCommand

namespace Pipeline

theorem changes_of_command {pipeline : Pipeline} {p : Nat} {command : PipelineCommand}
    {part : Section} (asks : pipeline.part? p (.command command) = some part) :
    part.changes? = some pipeline.task := by
  cases command with
  | start | release =>
      obtain ⟨_, same⟩ := Option.ite_none_right_eq_some.mp asks
      cases same
      rfl
  | pause | stop =>
      cases asks
      rfl
  | suspend | resume => cases asks

end Pipeline

namespace Section

variable {scheduler : Scheduler} {part : Section} {pipelines : Nat} {task : TaskHandle}
  {effect : Effect}

theorem Settles.refusal (settles : part.Settles scheduler pipelines effect)
    (changes : part.changes? = some task) {before : Reply} {failure : Failure}
    (failed : effect.reply.getD before = .failed failure) :
    ∃ error, failure = .scheduler error ∧ effect = .refusal scheduler error := by
  cases settles with
  | unknown | busy | empty =>
      cases failed
      exact ⟨_, rfl, rfl⟩
  | full newcomer brings =>
      rw [changes?_of_newcomer? brings] at changes
      cases changes
  | done _ answer replies =>
      rw [replies] at failed
      cases failed

end Section

namespace Machine

variable {machine called : Machine} {number p : Nat} {scheduler : Scheduler} {part : Section}
  {below : List Activity} {steps : Nat} {pipeline : Pipeline} {command : PipelineCommand}
  {current : Option TaskHandle} {failure : Failure}

/-- The machine after a section that a scheduler refused: nothing but the count of refusals for
a running task and the answer have changed. -/
def turnedAway (machine : Machine) (number : Nat) (scheduler : Scheduler) (error : SchedulerError)
    (rest : List Activity) : Machine :=
  { machine with
    schedulers := machine.schedulers.set number (some
      { scheduler with
        statistics :=
          { scheduler.statistics with
            busyRejections := scheduler.statistics.busyRejections +
              if error.isBusy then 1 else 0 } })
    reply := .failed (.scheduler error)
    agenda := rest }

theorem Reachable.run_refused (reachable : Reachable machine)
    (agenda : machine.agenda = .enter number part :: below)
    (found : machine.scheduler? number = some scheduler) (changes : part.changes?.isSome = true)
    (failed : (machine.run 2).reply = .failed failure) :
    ∃ error, failure = .scheduler error ∧
      machine.run 2 = machine.turnedAway number scheduler error below := by
  have free := reachable.free_of_agenda found agenda fun leaves => by cases leaves
  have alters : part.changes?.isSome ∨ (part.newcomer? machine.pipelines.length).isSome :=
    .inl changes
  have settles := part.settles (reachable.tableSound found) number machine.clock alters
  obtain ⟨task, changed⟩ := Option.isSome_iff_exists.mp changes
  have ran := reachable.run_enter agenda found
  rw [ran] at failed
  obtain ⟨error, rfl, refused⟩ := settles.refusal changed failed
  refine ⟨error, rfl, ?_⟩
  rw [ran, refused, turnedAway, ← Scheduler.refuse_eq free error]
  simp [enact, Effect.refusal, Effect.quiet]

/-- Flags first, and then the scheduler. -/
theorem step_command
    (agenda : called.agenda = .call current (.pipeline p (.command command)) :: below)
    (found : called.pipelines[p]? = some pipeline)
    (asks : pipeline.part? p (.command command) = some part) :
    called.step =
      { called with
        pipelines := called.pipelines.modify p command.marks
        notices := called.notices.push (.pipelineCommand pipeline.desc.id command)
        agenda := .acquire pipeline.scheduler part :: below } := by
  have here : ({ called with agenda := below } : Machine).pipelines[p]? = some pipeline := found
  rw [step_cons agenda]
  simp only [carryOut, perform, here, performPipeline, performCommand]
  cases command with
  | start | release =>
      obtain ⟨driven, same⟩ := Option.ite_none_right_eq_some.mp asks
      cases same
      simp only [driven, if_true]
      rfl
  | pause | stop =>
      cases asks
      rfl
  | suspend | resume => cases asks

theorem Returns.unasked (returns : called.Returns below steps)
    (agenda : called.agenda = .call current (.pipeline p (.command command)) :: below)
    (found : called.pipelines[p]? = some pipeline)
    (nothing : pipeline.part? p (.command command) = none) :
    (called.run steps).reply = .ok .done := by
  have here : ({ called with agenda := below } : Machine).pipelines[p]? = some pipeline := found
  have stepped : called.step.agenda = below ∧ called.step.reply = .ok .done := by
    rw [step_cons agenda]
    simp only [carryOut, perform, here, performPipeline, performCommand]
    cases command with
    | start | release =>
        have passive : ¬ pipeline.desc.timerDriven = true := fun driven =>
          Option.some_ne_none _ (ite_eq_right_iff.mp nothing driven)
        rw [if_neg passive]
        exact ⟨rfl, rfl⟩
    | pause | stop => cases nothing
    | suspend | resume => exact ⟨rfl, rfl⟩
  obtain ⟨fewer, rfl, after⟩ := returns.step (length_below agenda)
  rw [after.done stepped.1, run_one]
  exact stepped.2

theorem modify_eq_iff {f : Pipeline → Pipeline} (found : called.pipelines[p]? = some pipeline) :
    called.pipelines.modify p f = called.pipelines ↔ f pipeline = pipeline := by
  constructor
  · intro same
    have here := congrArg (fun pipelines : List Pipeline => pipelines[p]?) same
    rw [show (called.pipelines.modify p f)[p]? = some (f pipeline) by
      rw [List.getElem?_modify_eq, found]
      rfl] at here
    exact Option.some.inj (here.trans found)
  · intro same
    refine List.ext_getElem? fun other => ?_
    by_cases here : p = other
    · rw [← here, List.getElem?_modify_eq, found]
      exact congrArg some same
    · rw [List.getElem?_modify_ne _ _ here]

/-- What a command that failed has done: its marks stand, and the scheduler's refusal, whenever it
came, has left no trace. -/
structure Fails (called : Machine) (p : Nat) (pipeline : Pipeline) (command : PipelineCommand)
    (below : List Activity) (steps : Nat) (part : Section) (error : SchedulerError) : Prop where
  asks : pipeline.part? p (.command command) = some part
  marked : called.step =
    { called with
      pipelines := called.pipelines.modify p command.marks
      notices := called.notices.push (.pipelineCommand pipeline.desc.id command)
      agenda := .acquire pipeline.scheduler part :: below }
  refused : ∃ k scheduler, steps = k + 2 ∧
    (called.run k).agenda = .enter pipeline.scheduler part :: below ∧
    (called.run k).scheduler? pipeline.scheduler = some scheduler ∧
    called.run steps = (called.run k).turnedAway pipeline.scheduler scheduler error below
  alone : called.interposed (called.acquisitions + 1) = none →
    ∃ scheduler, called.scheduler? pipeline.scheduler = some scheduler ∧
      called.run steps =
        { called.turnedAway pipeline.scheduler scheduler error below with
          pipelines := called.pipelines.modify p command.marks
          notices := called.notices.push (.pipelineCommand pipeline.desc.id command)
          acquisitions := called.acquisitions + 1 }
  /-- So the pipelines are as before only if this one was as the command wants it already. -/
  harmless : called.interposed (called.acquisitions + 1) = none →
    ((called.run steps).pipelines = called.pipelines ↔ command.isIdleFor pipeline = true)

theorem Reachable.command_refused {k fewer : Nat} (reachable : Reachable called)
    (found : called.pipelines[p]? = some pipeline)
    (asks : pipeline.part? p (.command command) = some part)
    (entering : (called.run k).agenda = .enter pipeline.scheduler part :: below)
    (back : (called.run k).Returns below fewer)
    (failed : ((called.run k).run fewer).reply = .failed failure) :
    fewer = 2 ∧ ∃ error scheduler, failure = .scheduler error ∧
      (called.run k).scheduler? pipeline.scheduler = some scheduler ∧
      (called.run k).run fewer =
        (called.run k).turnedAway pipeline.scheduler scheduler error below := by
  have waiting := reachable.run k
  have home : called.IsHome p pipeline.scheduler pipeline.task := ⟨pipeline, found, rfl, rfl⟩
  obtain ⟨later, there, own, _⟩ := home.run k
  obtain ⟨scheduler, held⟩ := waiting.scheduler_of_pipeline there
  rw [own] at held
  have changes : part.changes?.isSome = true := by
    rw [Pipeline.changes_of_command asks]
    rfl
  have alters : part.changes?.isSome ∨
      (part.newcomer? (called.run k).pipelines.length).isSome := .inl changes
  have settles :=
    part.settles (waiting.tableSound held) pipeline.scheduler (called.run k).clock alters
  cases back.unique (waiting.returns_enter entering held settles.next)
  obtain ⟨error, same, refused⟩ := waiting.run_refused entering held changes failed
  exact ⟨rfl, error, scheduler, same, held, refused⟩

theorem run_command_alone
    (agenda : called.agenda = .call current (.pipeline p (.command command)) :: below)
    (found : called.pipelines[p]? = some pipeline)
    (asks : pipeline.part? p (.command command) = some part)
    (alone : called.interposed (called.acquisitions + 1) = none) :
    called.run 2 =
      { called with
        pipelines := called.pipelines.modify p command.marks
        notices := called.notices.push (.pipelineCommand pipeline.desc.id command)
        acquisitions := called.acquisitions + 1
        agenda := .enter pipeline.scheduler part :: below } := by
  rw [run_succ, run_one, step_command agenda found asks]
  exact step_acquire_alone rfl alone

/-- A command of a pipeline that returns an error is a start or release of a timer-driven one whose
task the scheduler did not admit, or a pause or stop whose task is gone. Its task, its scheduler's
table and all else are as before, but the flags of the pipeline are not put back: they stay as the
command has set them. -/
theorem failed_command_leaves_its_marks (reachable : Reachable called)
    (agenda : called.agenda = .call current (.pipeline p (.command command)) :: below)
    (found : called.pipelines[p]? = some pipeline) (returns : called.Returns below steps)
    (failed : (called.run steps).reply = .failed failure) :
    ∃ part error, failure = .scheduler error ∧
      called.Fails p pipeline command below steps part error := by
  cases asks : pipeline.part? p (.command command) with
  | none => cases (returns.unasked agenda found asks).symm.trans failed
  | some part =>
      have marked := step_command agenda found asks
      obtain ⟨_, rfl, after⟩ := returns.step (length_below agenda)
      obtain ⟨k, fewer, rfl, entering, back⟩ := after.of_acquire (by rw [marked])
      rw [← run_succ] at entering back
      rw [show k + fewer + 1 = k + 1 + fewer by omega] at returns failed ⊢
      obtain ⟨rfl, error, scheduler, same, held, refused⟩ :=
        reachable.command_refused found asks entering back (by rw [← run_add]; exact failed)
      rw [← run_add] at refused
      have alone (nobody : called.interposed (called.acquisitions + 1) = none) :
          ∃ scheduler, called.scheduler? pipeline.scheduler = some scheduler ∧
            called.run (k + 1 + 2) =
              { called.turnedAway pipeline.scheduler scheduler error below with
                pipelines := called.pipelines.modify p command.marks
                notices := called.notices.push (.pipelineCommand pipeline.desc.id command)
                acquisitions := called.acquisitions + 1 } := by
        have early := run_command_alone agenda found asks nobody
        rw [Nat.add_comm] at returns
        -- The section that is next but one is that of the command, since it is over in two steps.
        obtain ⟨first, _⟩ := reachable.command_refused found asks (by rw [early]) returns.rest
          (by rw [← run_add, Nat.add_comm]; exact failed)
        rw [refused]
        rw [first, early] at held ⊢
        exact ⟨scheduler, held, rfl⟩
      refine ⟨part, error, same, asks, marked, ⟨k + 1, scheduler, rfl, entering, held, refused⟩,
        alone, fun nobody => ?_⟩
      obtain ⟨_, _, whole⟩ := alone nobody
      rw [whole, ← command.marks_eq_iff]
      exact modify_eq_iff found

/-- A timer-driven pipeline whose period is empty is about to be started. -/
def unstartable : Machine :=
  let alone : Nat → Option Script := fun _ => none
  let set := (boot 0).exec 1 (.init ⟨1000000, 0, 7, 2⟩ .inline) alone
  let made := set.exec 4 (.scheduler 0 (.createPipeline ⟨1, 0, 0, 0, 0, true⟩ [])) alone
  made.start (.pipeline 0 (.command .start)) alone

theorem unstartable_reachable : Reachable unstartable := by
  unfold unstartable
  exact .start _ _ (.exec (.exec (.boot 0) rfl _ _ _) rfl _ _ _) rfl

theorem unstartable_returns : unstartable.Returns [] 4 := ⟨rfl, by decide⟩

/-- The start fails, and the pipeline is active. -/
theorem unstartable_activated :
    (unstartable.run 4).reply = .failed (.scheduler (.invalidWindow ⟨0, 0⟩ 0)) ∧
      ∃ part error, unstartable.Fails 0 ⟨0, ⟨0, 0⟩, ⟨1, 0, 0, 0, 0, true⟩, false, false⟩ .start []
        4 part error ∧ (unstartable.run 4).pipelines ≠ unstartable.pipelines := by
  obtain ⟨part, error, _, fails⟩ := failed_command_leaves_its_marks unstartable_reachable rfl rfl
    unstartable_returns rfl
  refine ⟨rfl, part, error, fails, fun kept => ?_⟩
  cases (fails.harmless rfl).mp kept

/-- A start that failed has made an idle pipeline active, with nothing queued and no pass to come;
the pipeline cannot be freed. -/
theorem failed_start_activates :
    Reachable unstartable ∧
      unstartable.agenda = [.call none (.pipeline 0 (.command .start))] ∧
      unstartable.Returns [] 4 ∧
      (unstartable.run 4).reply = .failed (.scheduler (.invalidWindow ⟨0, 0⟩ 0)) ∧
      (unstartable.pipelines[0]?).map (·.active) = some false ∧
      ((unstartable.run 4).pipelines[0]?).map (·.active) = some true ∧
      (unstartable.run 4).irq.isPending 7 = false ∧
      ((unstartable.run 4).exec 1 (.pipeline 0 .free) fun _ => none).reply =
        .failed (.scheduler (.busy ⟨0, 0⟩)) :=
  ⟨unstartable_reachable, rfl, unstartable_returns, rfl, rfl, rfl, by decide, rfl⟩

end Machine

end EdfKernel
