import EdfKernel.Proofs.LabelledDeliveries

/-!
A step of the kernel does not depend on labels: taken from the kernel without labels, it ends
in the kernel without labels that the step from the labelled one ends in.
-/

namespace EdfKernel

namespace Machine

variable (machine : Machine)

/-! The lock. -/

theorem bare_acquire (number : Nat) (part : Section) :
    machine.bare.acquire number part.bare = (machine.acquire number part).bare := by
  -- Who comes first is looked up at the moment just counted, which no label changes.
  have moment : machine.bare.acquisitions = machine.acquisitions := rfl
  have interposed : machine.bare.interposed (machine.acquisitions + 1) =
    (machine.interposed (machine.acquisitions + 1)).map Script.bare := rfl
  cases first : machine.interposed (machine.acquisitions + 1) with
  | none =>
      rw [first] at interposed
      simp only [acquire, push, moment, first, interposed, Option.map_none]
      rfl
  | some script =>
      rw [first] at interposed
      simp only [acquire, push, moment, first, interposed, Option.map_some]
      exact bare_emit
        { machine with
          acquisitions := machine.acquisitions + 1
          agenda := .script none script :: .enter number part :: machine.agenda }
        .interposed

theorem bare_enter (number : Nat) (part : Section) :
    machine.bare.enter number part.bare = (machine.enter number part).bare := by
  unfold enter
  rw [scheduler?_bare]
  cases machine.scheduler? number with
  | none => rfl
  | some scheduler =>
      have length : machine.bare.pipelines.length = machine.pipelines.length := List.length_map _
      have requested := Controller.bare_request machine.irq.mask scheduler.config.line
      simp only [Option.map_some]
      by_cases locked : scheduler.locked = true
      · rw [if_pos locked, if_pos (show scheduler.bare.locked = true from locked)]
        exact machine.bare_push [.enter number part]
      · rw [if_neg locked, if_neg (show ¬ scheduler.bare.locked = true from locked), length,
          show machine.bare.clock = machine.clock from rfl, Section.bare_effect]
        obtain ⟨after, requests, arms, attaches, notices, reply, next⟩ :=
          part.effect scheduler number machine.clock machine.pipelines.length
        -- What the section asks of the rest of the kernel is the same, part by part.
        simp only [bare, Effect.bare, List.map_set, List.map_append, List.map_cons]
        congr 1
        case e_irq =>
          cases requests with
          | false => rfl
          | true => exact requested
        case e_timer => cases arms <;> rfl
        case e_pipelines => cases attaches <;> rfl
        case e_reply => cases reply <;> rfl
        case e_notices => simp only [Array.map_append, List.map_toArray]

theorem bare_leave (number : Nat) : machine.bare.leave number = (machine.leave number).bare := by
  unfold leave
  rw [scheduler?_bare]
  cases machine.scheduler? number with
  | none => rfl
  | some scheduler =>
      have unlocked := machine.bare_setScheduler number { scheduler with locked := false }
      exact congrArg (fun machine : Machine => { machine with irq := machine.irq.unmask }) unlocked

/-! The run of a task. -/

theorem bare_runWork (number : Nat) (dispatch : Dispatch) (work : Work)
    (overruled : Option WorkStatus) (after : Script) :
    machine.bare.runWork number dispatch work.bare overruled (Script.bare after) =
      (machine.runWork number dispatch work overruled after).bare := by
  cases work with
  | task routine =>
      have emitted := machine.bare_emit (.work dispatch.task (routine.runs + 1))
      -- `Turn.bare` opens only on a turn that is taken apart.
      simp only [Work.bare, runWork, Routine.bare_turn]
      cases routine.turn with
      | mk calls status =>
          exact push_of_bare emitted
            [.script (some dispatch.task) calls,
              .returned number dispatch (.task routine.advance)
                (.fixed (overruled.getD status)) after]
  | copy pipeline routine =>
      have id : ((machine.pipelines[pipeline]?).map Pipeline.bare).map (·.desc.id) =
          (machine.pipelines[pipeline]?).map (·.desc.id) := by
        cases machine.pipelines[pipeline]? <;> rfl
      have emitted (id : UInt32) := machine.bare_emit (.copy id (routine.runs + 1))
      simp only [Work.bare, runWork, Routine.bare_turn, pipelines_bare, id]
      cases routine.turn with
      | mk calls status =>
          exact push_of_bare (emitted _)
            [.script none calls,
              .returned number dispatch (.copy pipeline routine.advance)
                ((overruled.map Verdict.fixed).getD (.pipeline pipeline)) after]

theorem bare_execute (number : Nat) (dispatch : Dispatch) (work : Option Work) :
    machine.bare.execute number dispatch (work.map Work.bare) =
      (machine.execute number dispatch work).bare := by
  unfold execute
  rw [scheduler?_bare]
  cases machine.scheduler? number with
  | none => rfl
  | some scheduler =>
      have counted : (machine.bare.setScheduler number scheduler.bare.countDispatch).notify
            (.dispatch dispatch.task dispatch.current) =
          ((machine.setScheduler number scheduler.countDispatch).notify
            (.dispatch dispatch.task dispatch.current)).bare := by
        rw [Scheduler.bare_countDispatch, bare_setScheduler]
        exact bare_notify _ (.dispatch dispatch.task dispatch.current)
      simp only [Option.map_some, counted]
      generalize (machine.setScheduler number scheduler.countDispatch).notify
        (.dispatch dispatch.task dispatch.current) = machine
      cases work with
      | none =>
          exact push_of_bare (machine.bare_notify (.noWork dispatch.task))
            [.acquire number (.finish dispatch none .done)]
      | some work =>
          have inline : scheduler.bare.executor.isInline = scheduler.executor.isInline :=
            scheduler.executor.bare_isInline
          have turn : scheduler.bare.executor.turn = scheduler.executor.turn.bare :=
            scheduler.executor.bare_turn
          simp only [Option.map_some, inline, turn]
          obtain ⟨before, runs, after, status⟩ := scheduler.executor.turn
          cases scheduler.executor.isInline with
          | true =>
              exact machine.bare_push
                [.script (some dispatch.task) before,
                  .engage number dispatch work ⟨before, runs, after, status⟩]
          | false =>
              exact push_of_bare (machine.bare_emit (.execute dispatch.task))
                [.script (some dispatch.task) before,
                  .engage number dispatch work ⟨before, runs, after, status⟩]

theorem bare_engage (number : Nat) (dispatch : Dispatch) (work : Work)
    (turn : ExecutorTurn Call) :
    machine.bare.engage number dispatch work.bare turn.bare =
      (machine.engage number dispatch work turn).bare := by
  obtain ⟨before, runs, after, status⟩ := turn
  cases runs with
  | true => exact machine.bare_runWork number dispatch work status after
  | false =>
      exact machine.bare_push
        [.script (some dispatch.task) after,
          .acquire number (.finish dispatch (some work) (status.getD .done))]

theorem bare_returned (number : Nat) (dispatch : Dispatch) (work : Work) (verdict : Verdict)
    (after : Script) :
    machine.bare.returned number dispatch work.bare verdict (Script.bare after) =
      (machine.returned number dispatch work verdict after).bare := by
  have pushed (status : WorkStatus) := machine.bare_push
    [.script (some dispatch.task) after, .acquire number (.finish dispatch (some work) status)]
  cases verdict with
  | fixed status => exact pushed status
  | pipeline pipeline =>
      simp only [returned, pipelines_bare]
      cases machine.pipelines[pipeline]? with
      | none => exact pushed .done
      | some pipeline => exact pushed pipeline.status

theorem bare_conclude (number : Nat) (wake : Bool) (outcome : PassOutcome) :
    machine.bare.conclude number wake outcome = (machine.conclude number wake outcome).bare := by
  unfold conclude
  rw [scheduler?_bare]
  cases machine.scheduler? number with
  | none => rfl
  | some scheduler =>
      have ended :
          (machine.bare.setScheduler number scheduler.endPass.bare).answer (.outcome outcome) =
            ((machine.setScheduler number scheduler.endPass).answer (.outcome outcome)).bare := by
        rw [bare_setScheduler]
        rfl
      obtain ⟨dispatched, next⟩ := outcome
      cases next with
      | none => exact ended
      | some task =>
          cases wake with
          | false => exact ended
          | true =>
              exact push_of_bare ended [.acquire number (.wake ⟨dispatched, some task⟩ task)]

/-! Calls. -/

theorem bare_initScheduler (config : SchedulerConfig) (executor : Executor Call) :
    machine.bare.initScheduler config executor.bare =
      (machine.initScheduler config executor).bare := by
  have failed (error : SchedulerError) :
      { machine.bare with schedulers := machine.bare.schedulers ++ [none] }.respond
          (.failed (.scheduler error)) =
        ({ machine with schedulers := machine.schedulers ++ [none] }.respond
          (.failed (.scheduler error))).bare := by
    simp only [respond, bare, List.map_append]
    rfl
  -- The handler names its scheduler by number, so it has no label.
  have registered : machine.bare.irq.register config.line
        (.scheduler machine.bare.schedulers.length) =
      (machine.irq.register config.line (.scheduler machine.schedulers.length)).map
        Controller.bare := by
    rw [show machine.bare.schedulers.length = machine.schedulers.length from List.length_map _]
    exact machine.irq.bare_register config.line (.scheduler machine.schedulers.length)
  unfold initScheduler
  cases config.fault? with
  | some fault => exact failed (.invalidConfig fault)
  | none =>
      simp only [registered]
      cases machine.irq.register config.line (.scheduler machine.schedulers.length) with
      | error error => exact failed (.line error)
      | ok irq =>
          have added : machine.bare.schedulers ++ [some (Scheduler.fresh config executor.bare)] =
              (machine.schedulers ++ [some (Scheduler.fresh config executor)]).map
                fun scheduler => scheduler.map Scheduler.bare := by
            rw [List.map_append]
            rfl
          simp only [Except.map, Controller.bare_enable, added]
          exact congrArg (answer · (.config config))
            (bare_notify
              { machine with
                irq := irq.enable config.line
                schedulers := machine.schedulers ++ [some (Scheduler.fresh config executor)] }
              (.schedulerUp config))

theorem bare_dropScheduler (number : Nat) :
    machine.bare.dropScheduler number = (machine.dropScheduler number).bare := by
  have carried : machine.bare.pipelines.any (·.scheduler = number) =
      machine.pipelines.any (·.scheduler = number) := List.any_map
  unfold dropScheduler
  rw [carried, scheduler?_bare]
  cases machine.pipelines.any (·.scheduler = number) with
  | true => rfl
  | false =>
      cases machine.scheduler? number with
      | none => rfl
      | some scheduler =>
          exact congrArg (answer · (.flag scheduler.owned))
            (machine.bare_setScheduler number { scheduler with owned := false })

theorem bare_performPlatform (current : Option TaskHandle) (call : PlatformCall Call) :
    machine.bare.performPlatform current call.bare =
      (machine.performPlatform current call).bare := by
  cases call with
  | now | setClock _ | advanceClock _ | disarmTimer | mask | unmask | armTimer _ _ => rfl
  | step => exact machine.bare_push [.round stepRounds 0]
  | advance delta =>
      exact bare_push { machine with clock := machine.clock.satAdd delta } [.round stepRounds 0]
  | pollTimer now => exact machine.bare_pollTimer now fun fired => .reply (.ok (.flag fired))
  | register line scripts =>
      have registered := machine.irq.bare_register line (.scripts scripts)
      simp only [PlatformCall.bare, bareScripts_eq, performPlatform, bare_irq]
      rw [show Handler.scripts (scripts.map Script.bare) = (Handler.scripts scripts).bare from rfl,
        registered]
      cases machine.irq.register line (.scripts scripts) <;> rfl
  | enable line =>
      exact congrArg (fun irq => { machine.bare with irq }.answer .done)
        (machine.irq.bare_enable line)
  | disable line =>
      exact congrArg (fun irq => { machine.bare with irq }.answer .done)
        (machine.irq.bare_disable line)
  | request line => exact congrArg (answer · .done) (machine.bare_request line)
  | clear line =>
      exact congrArg (fun irq => { machine.bare with irq }.answer .done)
        (machine.irq.bare_clear line)
  | lineState line =>
      simp only [PlatformCall.bare, performPlatform, bare_irq, Controller.bare_isPending,
        Controller.bare_isEnabled]
      rfl
  | dispatch => exact machine.bare_dispatch .caller
  | guarded script =>
      exact bare_push { machine with irq := machine.irq.mask } [.script current script, .unguard]
  | locked value add script =>
      exact bare_push { machine with irq := machine.irq.mask }
        [.script current script, .unlock (value + add)]

theorem bare_performScheduler (current : Option TaskHandle) (number : Nat)
    (scheduler : Scheduler) (call : SchedulerCall Call) :
    machine.bare.performScheduler current number scheduler.bare call.bare =
      (machine.performScheduler current number scheduler call).bare := by
  cases call with
  | create turns settings =>
      simp only [SchedulerCall.bare, bareTurns_eq]
      exact machine.bare_hold number (.create (.ofTurns turns) settings)
  | createPipeline desc turns =>
      simp only [SchedulerCall.bare, bareTurns_eq]
      exact machine.bare_hold number (.createPipeline desc (.ofTurns turns))
  | configure task settings => exact machine.bare_hold number (.configure _ settings)
  | retire task => exact machine.bare_hold number (.retire _)
  | insert task startUs deadlineUs =>
      exact machine.bare_hold number (.insert _ startUs deadlineUs)
  | cancel task => exact machine.bare_hold number (.cancel _)
  | complete task => exact machine.bare_hold number (.complete _)
  | inspect task => exact machine.bare_hold number (.inspect _)
  | check task => exact machine.bare_hold number (.check _)
  | queued => exact machine.bare_hold number .queued
  | queuedLength => exact machine.bare_hold number .queuedLength
  | requestPass | timerFired =>
      exact congrArg (answer · .done) (machine.bare_requestPass scheduler)
  | run => exact machine.bare_beginPass number true
  | runPass => exact machine.bare_beginPass number false
  | now | statistics => rfl

theorem bare_reportXrun (number : Nat) (pipeline : Pipeline) (bytes : UInt32) :
    machine.bare.reportXrun number pipeline.bare bytes =
      (machine.reportXrun number pipeline bytes).bare := by
  have marked := machine.bare_modifyPipeline number
    (fun pipeline => { pipeline with xrunReported := true }) fun _ => rfl
  unfold reportXrun
  by_cases may : pipeline.mayReport = true
  · rw [if_pos may, if_pos (show pipeline.bare.mayReport = true from may), marked]
    have noted := bare_notify
      (machine.modifyPipeline number fun pipeline => { pipeline with xrunReported := true })
      (.pipelineXrun pipeline.desc.id bytes)
    exact congrArg (answer · (.flag true))
      ((congrArg (emit · (.xrun pipeline.desc.id bytes)) noted).trans
        (bare_emit _ (.xrun pipeline.desc.id bytes)))
  · rw [if_neg may, if_neg (show ¬ pipeline.bare.mayReport = true from may)]
    rfl

theorem bare_performCommand (number : Nat) (pipeline : Pipeline) (command : PipelineCommand) :
    machine.bare.performCommand number pipeline.bare command =
      (machine.performCommand number pipeline command).bare := by
  have noted : machine.bare.notify (.pipelineCommand pipeline.bare.desc.id command) =
      (machine.notify (.pipelineCommand pipeline.desc.id command)).bare :=
    machine.bare_notify (.pipelineCommand pipeline.desc.id command)
  simp only [performCommand, noted]
  generalize machine.notify (.pipelineCommand pipeline.desc.id command) = machine
  have activated := machine.bare_modifyPipeline number Pipeline.activate fun _ => rfl
  have deactivated := machine.bare_modifyPipeline number Pipeline.deactivate fun _ => rfl
  cases command with
  | start | release =>
      have held := bare_hold (machine.modifyPipeline number Pipeline.activate)
        pipeline.scheduler (.insert pipeline.task 0 pipeline.desc.deadlineUs)
      simp only [activated, apply_ite bare, ← held]
      rfl
  | pause | stop =>
      exact push_of_bare deactivated [.acquire pipeline.scheduler (.complete pipeline.task)]
  | suspend | resume => rfl

theorem bare_performPipeline (number : Nat) (pipeline : Pipeline) (call : PipelineCall) :
    machine.bare.performPipeline number pipeline.bare call =
      (machine.performPipeline number pipeline call).bare := by
  cases call with
  | command command => exact machine.bare_performCommand number pipeline command
  | scheduleCopy startUs =>
      have held := machine.bare_hold pipeline.scheduler
        (.insert pipeline.task startUs pipeline.desc.deadlineUs)
      simp only [performPipeline, apply_ite bare, ← held]
      rfl
  | xrun bytes => exact machine.bare_reportXrun number pipeline bytes
  | checkDeadline =>
      exact machine.bare_hold pipeline.scheduler (.checkDeadline number pipeline.task)
  | free =>
      have held := machine.bare_hold pipeline.scheduler (.retire pipeline.task)
      simp only [performPipeline, apply_ite bare, ← held]
      rfl
  | describe => exact machine.bare_hold pipeline.scheduler (.describe pipeline)
  | unknown => rfl

theorem bare_perform (current : Option TaskHandle) (call : Call) :
    machine.bare.perform current call.bare = (machine.perform current call).bare := by
  cases call with
  | init config executor => exact machine.bare_initScheduler config executor
  | drop number => exact machine.bare_dropScheduler number
  | platform call => exact machine.bare_performPlatform current call
  | scheduler number call =>
      simp only [Call.bare, perform, scheduler?_bare]
      cases machine.scheduler? number with
      | none => rfl
      | some scheduler =>
          simp only [Option.map_some, bare_performScheduler, apply_ite bare]
          rfl
  | pipeline number call =>
      simp only [Call.bare, perform, pipelines_bare]
      cases machine.pipelines[number]? with
      | none => rfl
      | some pipeline => exact machine.bare_performPipeline number pipeline call
  | unknown => rfl

theorem bare_carryOut (activity : Activity) :
    machine.bare.carryOut activity.bare = (machine.carryOut activity).bare := by
  cases activity with
  | call current call => exact machine.bare_perform current call
  | script current calls =>
      cases calls with
      | nil => rfl
      | cons call rest =>
          exact machine.bare_push [.call current call, .report, .script current rest]
  | report => exact machine.bare_emit (.returned machine.reply)
  | acquire number part => exact machine.bare_acquire number part
  | enter number part => exact machine.bare_enter number part
  | leave number => exact machine.bare_leave number
  | execute number run work => exact machine.bare_execute number run work
  | engage number run work turn => exact machine.bare_engage number run work turn
  | returned number run work verdict after =>
      exact machine.bare_returned number run work verdict after
  | conclude number wake outcome => exact machine.bare_conclude number wake outcome
  | xrun number bytes =>
      simp only [Activity.bare, carryOut, pipelines_bare]
      cases machine.pipelines[number]? with
      | none => rfl
      | some pipeline => exact machine.bare_reportXrun number pipeline bytes
  | round rounds delivered => exact machine.bare_round delivered rounds
  | dispatch tally => exact machine.bare_dispatch tally
  | sweep line delivered tally => exact machine.bare_sweep line delivered tally
  | unguard | unlock _ | reply _ => rfl

theorem bare_step : machine.bare.step = machine.step.bare := by
  obtain ⟨clock, irq, timer, schedulers, pipelines, interposed, acquisitions, agenda, reply,
    events, notices⟩ := machine
  cases agenda with
  | nil => rfl
  | cons activity rest =>
      exact bare_carryOut
        ⟨clock, irq, timer, schedulers, pipelines, interposed, acquisitions, rest, reply,
          events, notices⟩ activity

end Machine

end EdfKernel
