import EdfKernel.Delivery

/-!
What each call does at once. A call that needs a scheduler's table only asks for
the lock here; the rest is done under it.
-/

namespace EdfKernel

namespace Machine

/-- Sets up a scheduler under the next number, on a line of its own. -/
def initScheduler (machine : Machine) (config : SchedulerConfig) (executor : Executor Call) :
    Machine :=
  let failed (error : SchedulerError) :=
    { machine with schedulers := machine.schedulers ++ [none] }.respond
      (.failed (.scheduler error))
  match config.fault? with
  | some fault => failed (.invalidConfig fault)
  | none =>
      match machine.irq.register config.line (.scheduler machine.schedulers.length) with
      | .error error => failed (.line error)
      | .ok irq =>
          ({ machine with
              irq := irq.enable config.line
              schedulers := machine.schedulers ++ [some (Scheduler.fresh config executor)]
            }.notify (.schedulerUp config)).answer (.config config)

/-- Gives up a scheduler that never had a pipeline; answers whether there was one to
give up. A pipeline counts even if its scheduler went while it was being made. -/
def dropScheduler (machine : Machine) (number : Nat) : Machine :=
  if machine.pipelines.any (·.scheduler = number) then machine.refuse .schedulerHasPipelines
  else match machine.scheduler? number with
    | none => machine.answer (.flag false)
    | some scheduler =>
        (machine.setScheduler number { scheduler with owned := false }).answer
          (.flag scheduler.owned)

def performPlatform (machine : Machine) (current : Option TaskHandle) :
    PlatformCall Call → Machine
  | .now => machine.answer (.ticks machine.clock)
  | .setClock instant => { machine with clock := instant }.answer .done
  | .advanceClock delta =>
      let clock := machine.clock.satAdd delta
      { machine with clock }.answer (.ticks clock)
  | .step => machine.push [.round stepRounds 0]
  | .advance delta =>
      { machine with clock := machine.clock.satAdd delta }.push [.round stepRounds 0]
  | .armTimer instant script =>
      { machine with timer := machine.timer.armAt instant (.script script) }.answer .done
  | .disarmTimer => { machine with timer := machine.timer.disarm }.answer .done
  | .pollTimer now => machine.pollTimer now fun fired => .reply (.ok (.flag fired))
  | .register line scripts =>
      match machine.irq.register line (.scripts scripts) with
      | .error error => machine.respond (.failed (.line error))
      | .ok irq => { machine with irq }.answer .done
  | .enable line => { machine with irq := machine.irq.enable line }.answer .done
  | .disable line => { machine with irq := machine.irq.disable line }.answer .done
  | .request line => (machine.request line).answer .done
  | .clear line => { machine with irq := machine.irq.clear line }.answer .done
  | .lineState line =>
      machine.answer
        (.lineState (machine.irq.isPending line) (machine.irq.isEnabled line)
          machine.irq.isMasked)
  | .mask => { machine with irq := machine.irq.mask }.answer (.depth machine.irq.maskDepth)
  | .unmask => { machine with irq := machine.irq.unmask }.answer .done
  | .dispatch => machine.dispatch .caller
  | .guarded script =>
      { machine with irq := machine.irq.mask }.push [.script current script, .unguard]
  | .locked value add script =>
      { machine with irq := machine.irq.mask }.push
        [.script current script, .unlock (value + add)]

def performScheduler (machine : Machine) (current : Option TaskHandle) (number : Nat)
    (scheduler : Scheduler) (call : SchedulerCall Call) : Machine :=
  let hold (part : Section) := machine.push [.acquire number part]
  let target (task : Option TaskHandle) := task.getD (current.getD ⟨0, 0⟩)
  match call with
  | .create turns settings => hold (.create (.ofTurns turns) settings)
  | .configure task settings => hold (.configure (target task) settings)
  | .retire task => hold (.retire (target task))
  | .insert task startUs deadlineUs => hold (.insert (target task) startUs deadlineUs)
  | .cancel task => hold (.cancel (target task))
  | .complete task => hold (.complete (target task))
  | .inspect task => hold (.inspect (target task))
  | .check task => hold (.check (target task))
  | .queued => hold .queued
  | .queuedLength => hold .queuedLength
  | .requestPass | .timerFired => (machine.requestPass scheduler).answer .done
  | .run => machine.beginPass number true
  | .runPass => machine.beginPass number false
  | .now => machine.answer (.ticks machine.clock)
  | .statistics => machine.answer (.statistics scheduler.statistics)
  | .createPipeline desc turns => hold (.createPipeline desc (.ofTurns turns))

def reportXrun (machine : Machine) (number : Nat) (pipeline : Pipeline) (bytes : UInt32) :
    Machine :=
  if pipeline.mayReport then
    (((machine.modifyPipeline number fun pipeline => { pipeline with xrunReported := true }).notify
      (.pipelineXrun pipeline.desc.id bytes)).emit (.xrun pipeline.desc.id bytes)).answer
      (.flag true)
  else machine.answer (.flag false)

def performCommand (machine : Machine) (number : Nat) (pipeline : Pipeline)
    (command : PipelineCommand) : Machine :=
  let machine := machine.notify (.pipelineCommand pipeline.desc.id command)
  let hold (machine : Machine) (part : Section) :=
    machine.push [.acquire pipeline.scheduler part]
  match command with
  | .start | .release =>
      -- The flags are set before the scheduler is asked, and stay if it refuses.
      let machine := machine.modifyPipeline number Pipeline.activate
      if pipeline.desc.timerDriven then
        hold machine (.insert pipeline.task 0 pipeline.desc.deadlineUs)
      else machine.answer .done
  | .pause | .stop =>
      hold (machine.modifyPipeline number Pipeline.deactivate) (.complete pipeline.task)
  | .suspend | .resume => machine.answer .done

def performPipeline (machine : Machine) (number : Nat) (pipeline : Pipeline)
    (call : PipelineCall) : Machine :=
  let hold (part : Section) := machine.push [.acquire pipeline.scheduler part]
  match call with
  | .command command => machine.performCommand number pipeline command
  | .scheduleCopy startUs =>
      if pipeline.active then hold (.insert pipeline.task startUs pipeline.desc.deadlineUs)
      else machine.answer .done
  | .xrun bytes => machine.reportXrun number pipeline bytes
  | .checkDeadline => hold (.checkDeadline number pipeline.task)
  | .free =>
      if pipeline.active then machine.respond (.failed (.scheduler (.busy pipeline.task)))
      else hold (.retire pipeline.task)
  | .describe => hold (.describe pipeline)
  | .unknown => machine.refuse .unknownCall

def perform (machine : Machine) (current : Option TaskHandle) : Call → Machine
  | .init config executor => machine.initScheduler config executor
  | .drop number => machine.dropScheduler number
  | .platform call => machine.performPlatform current call
  | .scheduler number call =>
      match machine.scheduler? number with
      | none => machine.refuse .noScheduler
      | some scheduler =>
          if scheduler.owned then machine.performScheduler current number scheduler call
          else machine.refuse .noScheduler
  | .pipeline number call =>
      match machine.pipelines[number]? with
      | none => machine.refuse .noPipeline
      | some pipeline => machine.performPipeline number pipeline call
  | .unknown => machine.refuse .unknownCall

def unguard (machine : Machine) (answer : Bool → Bool → Answer) : Machine :=
  let irq := machine.irq.unmask
  { machine with irq }.answer (answer machine.irq.isMasked irq.isMasked)

end Machine

end EdfKernel
