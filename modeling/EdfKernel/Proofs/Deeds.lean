import EdfKernel.Run

/-!
What one activity does to the whole kernel. `Deed` lists every way in which an activity can be
carried out, with what must hold for it and the state that it leaves; one lemma for each function
of a step says which of them it is. A law about the steps is a law about all deeds, and looks at
those that touch what the law is about.

What is said to callers and logged is left open where nothing depends on it.
-/

namespace EdfKernel

namespace SchedulerCall

/-- The section that a call asks for, on behalf of the task `current` if there is one. -/
def part? (current : Option TaskHandle) : SchedulerCall Call → Option Section
  | create turns settings => some (.create (.ofTurns turns) settings)
  | configure task settings => some (.configure (task.getD (current.getD ⟨0, 0⟩)) settings)
  | retire task => some (.retire (task.getD (current.getD ⟨0, 0⟩)))
  | insert task startUs deadlineUs =>
      some (.insert (task.getD (current.getD ⟨0, 0⟩)) startUs deadlineUs)
  | cancel task => some (.cancel (task.getD (current.getD ⟨0, 0⟩)))
  | complete task => some (.complete (task.getD (current.getD ⟨0, 0⟩)))
  | inspect task => some (.inspect (task.getD (current.getD ⟨0, 0⟩)))
  | check task => some (.check (task.getD (current.getD ⟨0, 0⟩)))
  | queued => some .queued
  | queuedLength => some .queuedLength
  | createPipeline desc turns => some (.createPipeline desc (.ofTurns turns))
  | _ => none

end SchedulerCall

namespace Pipeline

/-- The section that a call of a pipeline asks for. -/
def part? (pipeline : Pipeline) (number : Nat) : PipelineCall → Option Section
  | .command .start | .command .release =>
      if pipeline.desc.timerDriven then some (.insert pipeline.task 0 pipeline.desc.deadlineUs)
      else none
  | .command .pause | .command .stop => some (.complete pipeline.task)
  | .scheduleCopy startUs =>
      if pipeline.active then some (.insert pipeline.task startUs pipeline.desc.deadlineUs)
      else none
  | .checkDeadline => some (.checkDeadline number pipeline.task)
  | .free => if pipeline.active then none else some (.retire pipeline.task)
  | .describe => some (.describe pipeline)
  | _ => none

theorem part?_cases (pipeline : Pipeline) {number : Nat} {call : PipelineCall} {part : Section}
    (asks : pipeline.part? number call = some part) :
    (∃ task startUs deadlineUs, part = .insert task startUs deadlineUs) ∨
      (∃ task, part = .complete task) ∨ part = .checkDeadline number pipeline.task ∨
      (∃ task, part = .retire task) ∨ part = .describe pipeline := by
  cases call with
  | command command =>
      cases command with
      | start | release =>
          obtain ⟨_, same⟩ := Option.ite_none_right_eq_some.mp asks
          exact .inl ⟨_, _, _, (Option.some.inj same).symm⟩
      | pause | stop => exact .inr (.inl ⟨_, (Option.some.inj asks).symm⟩)
      | suspend | resume => cases asks
  | scheduleCopy startUs =>
      obtain ⟨_, same⟩ := Option.ite_none_right_eq_some.mp asks
      exact .inl ⟨_, _, _, (Option.some.inj same).symm⟩
  | checkDeadline => exact .inr (.inr (.inl (Option.some.inj asks).symm))
  | free =>
      obtain ⟨_, same⟩ := Option.ite_none_left_eq_some.mp asks
      exact .inr (.inr (.inr (.inl ⟨_, (Option.some.inj same).symm⟩)))
  | describe => exact .inr (.inr (.inr (.inr (Option.some.inj asks).symm)))
  | xrun | unknown => cases asks

end Pipeline

namespace PipelineCall

/-- A call that a pipeline takes as it is. -/
def isQuery : PipelineCall → Bool
  | scheduleCopy _ | checkDeadline | free | describe => true
  | _ => false

end PipelineCall

inductive Reporting : Activity → Nat → UInt32 → Prop where
  | called (current : Option TaskHandle) (number : Nat) (bytes : UInt32) :
      Reporting (.call current (.pipeline number (.xrun bytes))) number bytes
  | seen (number : Nat) (bytes : UInt32) : Reporting (.xrun number bytes) number bytes

inductive Polling (clock : Ticks) : Activity → Ticks → (Bool → Activity) → Prop where
  | called (current : Option TaskHandle) (now : Ticks) :
      Polling clock (.call current (.platform (.pollTimer now))) now
        fun fired => .reply (.ok (.flag fired))
  | round (rounds delivered : Nat) :
      Polling clock (.round (rounds + 1) delivered) clock
        fun fired => .dispatch (.round rounds delivered fired)

inductive Dispatching : Activity → Tally → Prop where
  | called (current : Option TaskHandle) :
      Dispatching (.call current (.platform .dispatch)) .caller
  | round (tally : Tally) : Dispatching (.dispatch tally) tally

namespace Machine

/-- An activity that calls for a pass of a scheduler; whether the pass wakes for what is next, and
what goes on when it is over. -/
inductive Passing (machine : Machine) (number : Nat) :
    Activity → Bool → List Activity → Prop where
  | run (current : Option TaskHandle) (scheduler : Scheduler)
      (found : machine.scheduler? number = some scheduler) (owned : scheduler.owned = true) :
      Passing machine number (.call current (.scheduler number .run)) true []
  | runPass (current : Option TaskHandle) (scheduler : Scheduler)
      (found : machine.scheduler? number = some scheduler) (owned : scheduler.owned = true) :
      Passing machine number (.call current (.scheduler number .runPass)) false []
  | interrupt (line delivered : Nat) (tally : Tally) (state : Line Handler)
      (looked : machine.irq.line? line = some state) (ready : state.isReady = true)
      (handles : state.handler = some (.scheduler number))
      (alive : machine.isAlive number = true) :
      Passing machine number (.sweep line delivered tally) true
        [.sweep (line + 1) (delivered + 1) tally]

inductive Counting (machine : Machine) : Activity → Nat → Tally → Prop where
  | masked (activity : Activity) (tally : Tally) (dispatches : Dispatching activity tally)
      (masked : machine.irq.isMasked = true) : Counting machine activity 0 tally
  | swept (line delivered : Nat) (tally : Tally) (past : machine.irq.line? line = none) :
      Counting machine (.sweep line delivered tally) delivered tally

/-- An activity that at most gives an answer. -/
inductive Answering (machine : Machine) : Activity → Prop where
  | now (current : Option TaskHandle) : Answering machine (.call current (.platform .now))
  | lineState (current : Option TaskHandle) (line : Nat) :
      Answering machine (.call current (.platform (.lineState line)))
  | unregistered (current : Option TaskHandle) (line : Nat) (scripts : List Script)
      (error : LineError) (refused : machine.irq.register line (.scripts scripts) = .error error) :
      Answering machine (.call current (.platform (.register line scripts)))
  | undropped (current : Option TaskHandle) (number : Nat) :
      Answering machine (.call current (.drop number))
  | unowned (current : Option TaskHandle) (number : Nat) (call : SchedulerCall Call)
      (gone : ∀ scheduler, machine.scheduler? number = some scheduler → scheduler.owned = false) :
      Answering machine (.call current (.scheduler number call))
  | looked (current : Option TaskHandle) (number : Nat) (call : SchedulerCall Call)
      (looks : call = .now ∨ call = .statistics) :
      Answering machine (.call current (.scheduler number call))
  | unpiped (current : Option TaskHandle) (number : Nat) (call : PipelineCall)
      (absent : machine.pipelines[number]? = none) :
      Answering machine (.call current (.pipeline number call))
  | commanded (current : Option TaskHandle) (number : Nat) (command : PipelineCommand)
      (idle : command = .suspend ∨ command = .resume) :
      Answering machine (.call current (.pipeline number (.command command)))
  | unasked (current : Option TaskHandle) (number : Nat) (call : PipelineCall)
      (plain : call.isQuery = true ∨ call = .unknown) :
      Answering machine (.call current (.pipeline number call))
  | unreported (activity : Activity) (number : Nat) (bytes : UInt32)
      (reports : Reporting activity number bytes)
      (mute : ∀ pipeline, machine.pipelines[number]? = some pipeline →
        pipeline.mayReport = false) : Answering machine activity
  | unknown (current : Option TaskHandle) : Answering machine (.call current .unknown)
  | scriptOver (current : Option TaskHandle) : Answering machine (.script current [])
  | counted (activity : Activity) (count : Nat) (tally : Tally)
      (counts : machine.Counting activity count tally) : Answering machine activity
  | lastRound (delivered : Nat) : Answering machine (.round 0 delivered)
  | replied (reply : Reply) : Answering machine (.reply reply)
  | notEntered (number : Nat) (part : Section) (gone : machine.scheduler? number = none) :
      Answering machine (.enter number part)
  | notLeft (number : Nat) (gone : machine.scheduler? number = none) :
      Answering machine (.leave number)
  | notExecuted (number : Nat) (run : Dispatch) (work : Option Work)
      (gone : machine.scheduler? number = none) : Answering machine (.execute number run work)
  | notConcluded (number : Nat) (wakes : Bool) (outcome : PassOutcome)
      (gone : machine.scheduler? number = none) :
      Answering machine (.conclude number wakes outcome)

/-- What an activity does that was just taken off the agenda. -/
inductive Deed (machine : Machine) : Activity → Machine → Prop where
  | answered (activity : Activity) (answers : machine.Answering activity) (reply : Reply)
      (notices : Array Notice) : Deed machine activity { machine with reply, notices }
  | called (current : Option TaskHandle) (call : Call) (rest : Script) :
      Deed machine (.script current (call :: rest))
        { machine with
          agenda := .call current call :: .report :: .script current rest :: machine.agenda }
  | reported :
      Deed machine .report { machine with events := machine.events.push (.returned machine.reply) }
  -- Time and the timer.
  | setClock (current : Option TaskHandle) (instant : Ticks) (reply : Reply) :
      Deed machine (.call current (.platform (.setClock instant)))
        { machine with clock := instant, reply }
  | advancedClock (current : Option TaskHandle) (delta : Ticks) (reply : Reply) :
      Deed machine (.call current (.platform (.advanceClock delta)))
        { machine with clock := machine.clock.satAdd delta, reply }
  | stepped (current : Option TaskHandle) :
      Deed machine (.call current (.platform .step))
        { machine with agenda := .round stepRounds 0 :: machine.agenda }
  | advanced (current : Option TaskHandle) (delta : Ticks) :
      Deed machine (.call current (.platform (.advance delta)))
        { machine with
          clock := machine.clock.satAdd delta
          agenda := .round stepRounds 0 :: machine.agenda }
  | armed (current : Option TaskHandle) (instant : Ticks) (script : Script) (reply : Reply) :
      Deed machine (.call current (.platform (.armTimer instant script)))
        { machine with timer := machine.timer.armAt instant (.script script), reply }
  | disarmed (current : Option TaskHandle) (reply : Reply) :
      Deed machine (.call current (.platform .disarmTimer))
        { machine with timer := machine.timer.disarm, reply }
  | early (activity : Activity) (now : Ticks) (rest : Bool → Activity)
      (polls : Polling machine.clock activity now rest)
      (early : ∀ arming, machine.timer.slot = some arming → now < arming.instant) :
      Deed machine activity { machine with agenda := rest false :: machine.agenda }
  | rang (activity : Activity) (now : Ticks) (rest : Bool → Activity)
      (polls : Polling machine.clock activity now rest) (arming : Arming WakeUp)
      (armed : machine.timer.slot = some arming) (due : arming.instant ≤ now) (script : Script)
      (wakes : arming.wake = .script script) :
      Deed machine activity
        { machine with
          timer := { machine.timer with slot := none, fired := machine.timer.fired + 1 }
          events := machine.events.push .timer
          agenda := .script none script :: rest true :: machine.agenda }
  | woke (activity : Activity) (now : Ticks) (rest : Bool → Activity)
      (polls : Polling machine.clock activity now rest) (arming : Arming WakeUp)
      (armed : machine.timer.slot = some arming) (due : arming.instant ≤ now) (number : Nat)
      (scheduler : Scheduler) (wakes : arming.wake = .scheduler number)
      (alive : machine.isAlive number = true)
      (found : machine.scheduler? number = some scheduler) :
      Deed machine activity
        { machine with
          irq := machine.irq.request scheduler.config.line
          timer := { machine.timer with slot := none, fired := machine.timer.fired + 1 }
          agenda := rest true :: machine.agenda }
  | wokeNobody (activity : Activity) (now : Ticks) (rest : Bool → Activity)
      (polls : Polling machine.clock activity now rest) (arming : Arming WakeUp)
      (armed : machine.timer.slot = some arming) (due : arming.instant ≤ now) (number : Nat)
      (wakes : arming.wake = .scheduler number) (dead : machine.isAlive number = false) :
      Deed machine activity
        { machine with
          timer := { machine.timer with slot := none, fired := machine.timer.fired + 1 }
          agenda := rest true :: machine.agenda }
  -- The lines and the mask.
  | registered (current : Option TaskHandle) (line : Nat) (scripts : List Script)
      (irq : Controller Handler)
      (registers : machine.irq.register line (.scripts scripts) = .ok irq) (reply : Reply) :
      Deed machine (.call current (.platform (.register line scripts))) { machine with irq, reply }
  | enabled (current : Option TaskHandle) (line : Nat) (reply : Reply) :
      Deed machine (.call current (.platform (.enable line)))
        { machine with irq := machine.irq.enable line, reply }
  | disabled (current : Option TaskHandle) (line : Nat) (reply : Reply) :
      Deed machine (.call current (.platform (.disable line)))
        { machine with irq := machine.irq.disable line, reply }
  | requested (current : Option TaskHandle) (line : Nat) (reply : Reply) :
      Deed machine (.call current (.platform (.request line)))
        { machine with irq := machine.irq.request line, reply }
  | cleared (current : Option TaskHandle) (line : Nat) (reply : Reply) :
      Deed machine (.call current (.platform (.clear line)))
        { machine with irq := machine.irq.clear line, reply }
  | masked (current : Option TaskHandle) (reply : Reply) :
      Deed machine (.call current (.platform .mask))
        { machine with irq := machine.irq.mask, reply }
  | unmasked (current : Option TaskHandle) (reply : Reply) :
      Deed machine (.call current (.platform .unmask))
        { machine with irq := machine.irq.unmask, reply }
  | guarded (current : Option TaskHandle) (script : Script) :
      Deed machine (.call current (.platform (.guarded script)))
        { machine with
          irq := machine.irq.mask
          agenda := .script current script :: .unguard :: machine.agenda }
  | locked (current : Option TaskHandle) (value add : UInt64) (script : Script) :
      Deed machine (.call current (.platform (.locked value add script)))
        { machine with
          irq := machine.irq.mask
          agenda := .script current script :: .unlock (value + add) :: machine.agenda }
  | unguarded (reply : Reply) :
      Deed machine .unguard { machine with irq := machine.irq.unmask, reply }
  | unlocked (value : UInt64) (reply : Reply) :
      Deed machine (.unlock value) { machine with irq := machine.irq.unmask, reply }
  -- The delivery of interrupts.
  | dispatched (activity : Activity) (tally : Tally) (dispatches : Dispatching activity tally)
      (opened : machine.irq.isMasked = false) :
      Deed machine activity { machine with agenda := .sweep 0 0 tally :: machine.agenda }
  | wentOn (activity : Activity) (count rounds delivered : Nat) (fired : Bool)
      (counts : machine.Counting activity count (.round rounds delivered fired))
      (more : ¬ (count = 0 && !fired) = true) :
      Deed machine activity
        { machine with agenda := .round rounds (delivered + count) :: machine.agenda }
  | passedOver (line delivered : Nat) (tally : Tally) (state : Line Handler)
      (looked : machine.irq.line? line = some state) (unready : state.isReady = false) :
      Deed machine (.sweep line delivered tally)
        { machine with agenda := .sweep (line + 1) delivered tally :: machine.agenda }
  | spurious (line delivered : Nat) (tally : Tally) (state : Line Handler)
      (looked : machine.irq.line? line = some state) (ready : state.isReady = true)
      (unhandled : state.handler = none) :
      Deed machine (.sweep line delivered tally)
        { machine with
          irq := machine.irq.clear line
          agenda := .sweep (line + 1) delivered tally :: machine.agenda }
  | interrupted (line delivered : Nat) (tally : Tally) (state : Line Handler)
      (looked : machine.irq.line? line = some state) (ready : state.isReady = true)
      (turns : List Script) (handles : state.handler = some (.scripts turns)) :
      Deed machine (.sweep line delivered tally)
        { machine with
          irq := machine.irq.modify line fun state =>
            { state with handler := state.handler.map Handler.advance }
          events := machine.events.push (.interrupt line)
          agenda := .script none (turns.headD []) :: .sweep (line + 1) (delivered + 1) tally ::
            machine.agenda }
  | unheard (line delivered : Nat) (tally : Tally) (state : Line Handler)
      (looked : machine.irq.line? line = some state) (ready : state.isReady = true)
      (number : Nat) (handles : state.handler = some (.scheduler number))
      (dead : machine.isAlive number = false) :
      Deed machine (.sweep line delivered tally)
        { machine with agenda := .sweep (line + 1) (delivered + 1) tally :: machine.agenda }
  -- Passes.
  | putOff (activity : Activity) (number : Nat) (wakes : Bool) (resumes : List Activity)
      (passes : machine.Passing number activity wakes resumes) (scheduler : Scheduler)
      (found : machine.scheduler? number = some scheduler) (busy : scheduler.inPass = true)
      (reply : Reply) :
      Deed machine activity
        { machine with
          irq := machine.irq.request scheduler.config.line
          schedulers := machine.schedulers.set number (some scheduler.coalesce)
          agenda := resumes ++ machine.agenda
          reply }
  | begun (activity : Activity) (number : Nat) (wakes : Bool) (resumes : List Activity)
      (passes : machine.Passing number activity wakes resumes) (scheduler : Scheduler)
      (found : machine.scheduler? number = some scheduler) (idle : scheduler.inPass = false) :
      Deed machine activity
        { machine with
          irq := machine.irq.clear scheduler.config.line
          schedulers := machine.schedulers.set number (some scheduler.beginPass)
          agenda := .acquire number (.select wakes) :: (resumes ++ machine.agenda) }
  | skipped (number : Nat) (run : Dispatch) (scheduler : Scheduler)
      (found : machine.scheduler? number = some scheduler) (notices : Array Notice) :
      Deed machine (.execute number run none)
        { machine with
          schedulers := machine.schedulers.set number (some scheduler.countDispatch)
          notices
          agenda := .acquire number (.finish run none .done) :: machine.agenda }
  | handed (number : Nat) (run : Dispatch) (work : Work) (scheduler : Scheduler)
      (found : machine.scheduler? number = some scheduler) (notices : Array Notice) :
      Deed machine (.execute number run (some work))
        { machine with
          schedulers := machine.schedulers.set number (some scheduler.countDispatch)
          notices
          events :=
            if scheduler.executor.isInline then machine.events
            else machine.events.push (.execute run.task)
          agenda := .script (some run.task) scheduler.executor.turn.before ::
            .engage number run work scheduler.executor.turn :: machine.agenda }
  | ranTask (number : Nat) (run : Dispatch) (routine : Routine) (turn : ExecutorTurn Call)
      (runs : turn.runs = true) :
      Deed machine (.engage number run (.task routine) turn)
        { machine with
          events := machine.events.push (.work run.task (routine.runs + 1))
          agenda := .script (some run.task) routine.turn.calls ::
            .returned number run (.task routine.advance)
              (.fixed (turn.status.getD routine.turn.status)) turn.after :: machine.agenda }
  | ranCopy (number : Nat) (run : Dispatch) (pipeline : Nat) (routine : Routine)
      (turn : ExecutorTurn Call) (runs : turn.runs = true) (id : UInt32) :
      Deed machine (.engage number run (.copy pipeline routine) turn)
        { machine with
          events := machine.events.push (.copy id (routine.runs + 1))
          agenda := .script none routine.turn.calls ::
            .returned number run (.copy pipeline routine.advance)
              ((turn.status.map Verdict.fixed).getD (.pipeline pipeline)) turn.after ::
            machine.agenda }
  | spared (number : Nat) (run : Dispatch) (work : Work) (turn : ExecutorTurn Call)
      (runs : turn.runs = false) :
      Deed machine (.engage number run work turn)
        { machine with
          agenda := .script (some run.task) turn.after ::
            .acquire number (.finish run (some work) (turn.status.getD .done)) ::
            machine.agenda }
  | returned (number : Nat) (run : Dispatch) (work : Work) (verdict : Verdict) (after : Script)
      (status : WorkStatus) :
      Deed machine (.returned number run work verdict after)
        { machine with
          agenda := .script (some run.task) after ::
            .acquire number (.finish run (some work) status) :: machine.agenda }
  | concluded (number : Nat) (wakes : Bool) (outcome : PassOutcome) (scheduler : Scheduler)
      (found : machine.scheduler? number = some scheduler)
      (ended : wakes = true → outcome.next = none) :
      Deed machine (.conclude number wakes outcome)
        { machine with
          schedulers := machine.schedulers.set number (some scheduler.endPass)
          reply := .ok (.outcome outcome) }
  | lookedUp (number : Nat) (outcome : PassOutcome) (scheduler : Scheduler)
      (found : machine.scheduler? number = some scheduler) (task : TaskHandle)
      (next : outcome.next = some task) :
      Deed machine (.conclude number true outcome)
        { machine with
          schedulers := machine.schedulers.set number (some scheduler.endPass)
          reply := .ok (.outcome outcome)
          agenda := .acquire number (.wake outcome task) :: machine.agenda }
  -- Sections.
  | acquired (number : Nat) (part : Section)
      (alone : machine.interposed (machine.acquisitions + 1) = none) :
      Deed machine (.acquire number part)
        { machine with
          acquisitions := machine.acquisitions + 1
          agenda := .enter number part :: machine.agenda }
  | interposed (number : Nat) (part : Section) (script : Script)
      (comes : machine.interposed (machine.acquisitions + 1) = some script) :
      Deed machine (.acquire number part)
        { machine with
          acquisitions := machine.acquisitions + 1
          events := machine.events.push .interposed
          agenda := .script none script :: .enter number part :: machine.agenda }
  | waited (number : Nat) (part : Section) (scheduler : Scheduler)
      (found : machine.scheduler? number = some scheduler) (held : scheduler.locked = true) :
      Deed machine (.enter number part)
        { machine with agenda := .enter number part :: machine.agenda }
  | entered (number : Nat) (part : Section) (scheduler : Scheduler) (effect : Effect)
      (found : machine.scheduler? number = some scheduler) (free : scheduler.locked = false)
      (made : part.effect scheduler number machine.clock machine.pipelines.length = effect) :
      Deed machine (.enter number part)
        { machine with
          irq :=
            if effect.requests then machine.irq.mask.request scheduler.config.line
            else machine.irq.mask
          timer :=
            match effect.arms with
            | some instant => machine.timer.armAt instant (.scheduler number)
            | none => machine.timer
          schedulers :=
            machine.schedulers.set number (some { effect.scheduler with locked := true })
          pipelines := machine.pipelines ++ effect.attaches.toList
          notices := machine.notices ++ effect.notices.toArray
          reply := effect.reply.getD machine.reply
          agenda := .leave number :: (effect.next ++ machine.agenda) }
  | left (number : Nat) (scheduler : Scheduler)
      (found : machine.scheduler? number = some scheduler) :
      Deed machine (.leave number)
        { machine with
          irq := machine.irq.unmask
          schedulers := machine.schedulers.set number (some { scheduler with locked := false }) }
  -- Calls of schedulers and pipelines.
  | initFailed (current : Option TaskHandle) (config : SchedulerConfig)
      (executor : Executor Call) (reply : Reply) :
      Deed machine (.call current (.init config executor))
        { machine with schedulers := machine.schedulers ++ [none], reply }
  | setUp (current : Option TaskHandle) (config : SchedulerConfig) (executor : Executor Call)
      (valid : config.fault? = none) (irq : Controller Handler)
      (registers : machine.irq.register config.line (.scheduler machine.schedulers.length) =
        .ok irq) (reply : Reply) (notices : Array Notice) :
      Deed machine (.call current (.init config executor))
        { machine with
          irq := irq.enable config.line
          schedulers := machine.schedulers ++ [some (.fresh config executor)]
          reply
          notices }
  | dropped (current : Option TaskHandle) (number : Nat) (scheduler : Scheduler)
      (found : machine.scheduler? number = some scheduler) (reply : Reply) :
      Deed machine (.call current (.drop number))
        { machine with
          schedulers := machine.schedulers.set number (some { scheduler with owned := false })
          reply }
  | asked (current : Option TaskHandle) (number : Nat) (call : SchedulerCall Call)
      (part : Section) (asks : call.part? current = some part) (scheduler : Scheduler)
      (found : machine.scheduler? number = some scheduler) (owned : scheduler.owned = true) :
      Deed machine (.call current (.scheduler number call))
        { machine with agenda := .acquire number part :: machine.agenda }
  | passRequested (current : Option TaskHandle) (number : Nat) (call : SchedulerCall Call)
      (requests : call = .requestPass ∨ call = .timerFired) (scheduler : Scheduler)
      (found : machine.scheduler? number = some scheduler) (owned : scheduler.owned = true)
      (reply : Reply) :
      Deed machine (.call current (.scheduler number call))
        { machine with irq := machine.irq.request scheduler.config.line, reply }
  | pipeAsked (current : Option TaskHandle) (number : Nat) (call : PipelineCall)
      (query : call.isQuery = true) (pipeline : Pipeline)
      (piped : machine.pipelines[number]? = some pipeline) (part : Section)
      (asks : pipeline.part? number call = some part) :
      Deed machine (.call current (.pipeline number call))
        { machine with agenda := .acquire pipeline.scheduler part :: machine.agenda }
  | started (current : Option TaskHandle) (number : Nat) (command : PipelineCommand)
      (starts : command = .start ∨ command = .release) (pipeline : Pipeline)
      (piped : machine.pipelines[number]? = some pipeline)
      (asks : pipeline.part? number (.command command) = none) (reply : Reply)
      (notices : Array Notice) :
      Deed machine (.call current (.pipeline number (.command command)))
        { machine with
          pipelines := machine.pipelines.modify number Pipeline.activate
          reply
          notices }
  | startedDriven (current : Option TaskHandle) (number : Nat) (command : PipelineCommand)
      (starts : command = .start ∨ command = .release) (pipeline : Pipeline)
      (piped : machine.pipelines[number]? = some pipeline) (part : Section)
      (asks : pipeline.part? number (.command command) = some part) (notices : Array Notice) :
      Deed machine (.call current (.pipeline number (.command command)))
        { machine with
          pipelines := machine.pipelines.modify number Pipeline.activate
          notices
          agenda := .acquire pipeline.scheduler part :: machine.agenda }
  | stopped (current : Option TaskHandle) (number : Nat) (command : PipelineCommand)
      (stops : command = .pause ∨ command = .stop) (pipeline : Pipeline)
      (piped : machine.pipelines[number]? = some pipeline) (part : Section)
      (asks : pipeline.part? number (.command command) = some part) (notices : Array Notice) :
      Deed machine (.call current (.pipeline number (.command command)))
        { machine with
          pipelines := machine.pipelines.modify number Pipeline.deactivate
          notices
          agenda := .acquire pipeline.scheduler part :: machine.agenda }
  | told (activity : Activity) (number : Nat) (bytes : UInt32)
      (reports : Reporting activity number bytes) (pipeline : Pipeline)
      (piped : machine.pipelines[number]? = some pipeline) (may : pipeline.mayReport = true)
      (reply : Reply) (notices : Array Notice) :
      Deed machine activity
        { machine with
          pipelines := machine.pipelines.modify number fun pipeline =>
            { pipeline with xrunReported := true }
          events := machine.events.push (.xrun pipeline.desc.id bytes)
          reply
          notices }

variable {machine : Machine}

theorem isAlive_cons_of_scheduler? (machine : Machine) {activity : Activity}
    (others : activity.scheduler? = none) (timer : Timer WakeUp) (number : Nat) :
    ({ machine with timer, agenda := activity :: machine.agenda } : Machine).isAlive number =
      machine.isAlive number := by
  simp only [isAlive, scheduler?, List.any_cons, others, reduceCtorEq, decide_false,
    Bool.false_or]

theorem beginPass_deed {number : Nat} {activity : Activity} {wakes : Bool}
    {resumes : List Activity} (passes : machine.Passing number activity wakes resumes)
    {scheduler : Scheduler} (found : machine.scheduler? number = some scheduler) :
    machine.Deed activity ((machine.push resumes).beginPass number wakes) := by
  have there : (machine.push resumes).scheduler? number = some scheduler := found
  cases busy : scheduler.inPass with
  | true =>
      simp only [beginPass, there, busy, if_true]
      exact .putOff activity number wakes resumes passes scheduler found busy _
  | false =>
      simp only [beginPass, there, busy, Bool.false_eq_true, if_false]
      exact .begun activity number wakes resumes passes scheduler found busy

theorem pollTimer_deed {activity : Activity} {now : Ticks} {rest : Bool → Activity}
    (polls : Polling machine.clock activity now rest) :
    machine.Deed activity (machine.pollTimer now rest) := by
  have others : (rest true).scheduler? = none := by cases polls <;> rfl
  rcases machine.timer.poll_due_or_early now with ⟨arming, armed, due, polled⟩ | ⟨early, polled⟩
  · simp only [pollTimer, polled]
    cases wakes : arming.wake with
    | script script => exact .rang activity now rest polls arming armed due script wakes
    | scheduler number =>
        have same := machine.isAlive_cons_of_scheduler? others
          { machine.timer with slot := none, fired := machine.timer.fired + 1 } number
        simp only [awaken, push, List.cons_append, List.nil_append, same]
        cases alive : machine.isAlive number with
        | false => exact .wokeNobody activity now rest polls arming armed due number wakes alive
        | true =>
            obtain ⟨scheduler, found, _⟩ := (Option.any_eq_true _ _).mp alive
            have there (timer : Timer WakeUp) :
                ({ machine with timer, agenda := rest true :: machine.agenda } :
                  Machine).scheduler? number = some scheduler := found
            simp only [if_true, there, Option.map_some, Option.getD_some]
            exact .woke activity now rest polls arming armed due number scheduler wakes alive found
  · simp only [pollTimer, polled]
    exact .early activity now rest polls early

theorem tally_deed {activity : Activity} {count : Nat} {tally : Tally}
    (counts : machine.Counting activity count tally) :
    machine.Deed activity (machine.tally count tally) := by
  cases tally with
  | caller => exact .answered activity (.counted activity count _ counts) _ _
  | round rounds delivered fired =>
      simp only [Machine.tally]
      split
      case isTrue => exact .answered activity (.counted activity count _ counts) _ _
      case isFalse more => exact .wentOn activity count rounds delivered fired counts more

theorem dispatch_deed {activity : Activity} {tally : Tally}
    (dispatches : Dispatching activity tally) :
    machine.Deed activity (machine.dispatch tally) := by
  unfold Machine.dispatch
  split
  case isTrue masked => exact tally_deed (.masked activity tally dispatches masked)
  case isFalse opened =>
    exact .dispatched activity tally dispatches (Bool.eq_false_iff.mpr opened)

theorem sweep_deed (line delivered : Nat) (tally : Tally) :
    machine.Deed (.sweep line delivered tally) (machine.sweep line delivered tally) := by
  unfold Machine.sweep
  split
  case h_1 past => exact tally_deed (.swept line delivered tally past)
  case h_2 state looked =>
    split
    case isFalse unready =>
      exact .passedOver line delivered tally state looked (Bool.eq_false_iff.mpr unready)
    case isTrue ready =>
      split
      case h_2 unhandled => exact .spurious line delivered tally state looked ready unhandled
      case h_1 handler handles =>
        cases handler with
        | scripts turns => exact .interrupted line delivered tally state looked ready turns handles
        | scheduler number =>
            have same : (machine.push [.sweep (line + 1) (delivered + 1) tally]).isAlive number =
                machine.isAlive number :=
              machine.isAlive_cons_of_scheduler? rfl machine.timer number
            simp only [deliver, same]
            cases alive : machine.isAlive number with
            | false =>
                exact .unheard line delivered tally state looked ready number handles alive
            | true =>
                obtain ⟨scheduler, found, _⟩ := (Option.any_eq_true _ _).mp alive
                have passes : machine.Passing number (.sweep line delivered tally) true
                    [.sweep (line + 1) (delivered + 1) tally] :=
                  .interrupt line delivered tally state looked ready handles alive
                exact beginPass_deed passes found

theorem round_deed (rounds delivered : Nat) :
    machine.Deed (.round rounds delivered) (machine.round delivered rounds) := by
  cases rounds with
  | zero => exact .answered _ (.lastRound delivered) _ _
  | succ rounds => exact pollTimer_deed (.round rounds delivered)

theorem performPlatform_deed (current : Option TaskHandle) (call : PlatformCall Call) :
    machine.Deed (.call current (.platform call)) (machine.performPlatform current call) := by
  cases call with
  | now => exact .answered _ (.now current) _ _
  | setClock instant => exact .setClock current instant _
  | advanceClock delta => exact .advancedClock current delta _
  | step => exact .stepped current
  | advance delta => exact .advanced current delta
  | armTimer instant script => exact .armed current instant script _
  | disarmTimer => exact .disarmed current _
  | pollTimer now => exact pollTimer_deed (.called current now)
  | register line scripts =>
      simp only [performPlatform]
      split
      case h_1 error refused =>
        exact .answered _ (.unregistered current line scripts error refused) _ _
      case h_2 irq registers => exact .registered current line scripts irq registers _
  | enable line => exact .enabled current line _
  | disable line => exact .disabled current line _
  | request line => exact .requested current line _
  | clear line => exact .cleared current line _
  | lineState line => exact .answered _ (.lineState current line) _ _
  | mask => exact .masked current _
  | unmask => exact .unmasked current _
  | dispatch => exact dispatch_deed (.called current)
  | guarded script => exact .guarded current script
  | locked value add script => exact .locked current value add script

theorem initScheduler_deed (current : Option TaskHandle) (config : SchedulerConfig)
    (executor : Executor Call) :
    machine.Deed (.call current (.init config executor))
      (machine.initScheduler config executor) := by
  unfold Machine.initScheduler
  split
  case h_1 => exact .initFailed current config executor _
  case h_2 valid =>
    split
    case h_1 => exact .initFailed current config executor _
    case h_2 irq registers => exact .setUp current config executor valid irq registers _ _

theorem dropScheduler_deed (current : Option TaskHandle) (number : Nat) :
    machine.Deed (.call current (.drop number)) (machine.dropScheduler number) := by
  unfold Machine.dropScheduler
  split
  · exact .answered _ (.undropped current number) _ _
  · split
    case h_1 => exact .answered _ (.undropped current number) _ _
    case h_2 scheduler found => exact .dropped current number scheduler found _

theorem performScheduler_deed (current : Option TaskHandle) {number : Nat}
    {scheduler : Scheduler} (found : machine.scheduler? number = some scheduler)
    (owned : scheduler.owned = true) (call : SchedulerCall Call) :
    machine.Deed (.call current (.scheduler number call))
      (machine.performScheduler current number scheduler call) := by
  have asked (part : Section) (asks : call.part? current = some part) :
      machine.Deed (.call current (.scheduler number call))
        (machine.push [.acquire number part]) :=
    .asked current number call part asks scheduler found owned
  cases call with
  | requestPass => exact .passRequested current number _ (.inl rfl) scheduler found owned _
  | timerFired => exact .passRequested current number _ (.inr rfl) scheduler found owned _
  | run => exact beginPass_deed (.run current scheduler found owned) found
  | runPass => exact beginPass_deed (.runPass current scheduler found owned) found
  | now => exact .answered _ (.looked current number _ (.inl rfl)) _ _
  | statistics => exact .answered _ (.looked current number _ (.inr rfl)) _ _
  | create | configure | retire | insert | cancel | complete | inspect | check | queued
  | queuedLength | createPipeline => exact asked _ rfl

theorem reportXrun_deed {activity : Activity} {number : Nat} {bytes : UInt32}
    (reports : Reporting activity number bytes) {pipeline : Pipeline}
    (piped : machine.pipelines[number]? = some pipeline) :
    machine.Deed activity (machine.reportXrun number pipeline bytes) := by
  unfold Machine.reportXrun
  split
  case isTrue may => exact .told activity number bytes reports pipeline piped may _ _
  case isFalse may =>
    refine .answered activity (.unreported activity number bytes reports ?_) _ _
    intro held there
    cases piped.symm.trans there
    exact Bool.eq_false_iff.mpr may

theorem performCommand_deed (current : Option TaskHandle) {number : Nat} {pipeline : Pipeline}
    (piped : machine.pipelines[number]? = some pipeline) (command : PipelineCommand) :
    machine.Deed (.call current (.pipeline number (.command command)))
      (machine.performCommand number pipeline command) := by
  have starts (starts : command = .start ∨ command = .release)
      (part : pipeline.part? number (.command command) =
        if pipeline.desc.timerDriven then
          some (.insert pipeline.task 0 pipeline.desc.deadlineUs) else none) :
      machine.Deed (.call current (.pipeline number (.command command)))
        (if pipeline.desc.timerDriven then
          ((machine.notify (.pipelineCommand pipeline.desc.id command)).modifyPipeline number
            Pipeline.activate).push
              [.acquire pipeline.scheduler (.insert pipeline.task 0 pipeline.desc.deadlineUs)]
        else
          ((machine.notify (.pipelineCommand pipeline.desc.id command)).modifyPipeline number
            Pipeline.activate).answer .done) := by
    split
    case isTrue driven =>
      rw [if_pos driven] at part
      exact .startedDriven current number command starts pipeline piped _ part _
    case isFalse silent =>
      rw [if_neg silent] at part
      exact .started current number command starts pipeline piped part _ _
  cases command with
  | start => exact starts (.inl rfl) rfl
  | release => exact starts (.inr rfl) rfl
  | pause => exact .stopped current number _ (.inl rfl) pipeline piped _ rfl _
  | stop => exact .stopped current number _ (.inr rfl) pipeline piped _ rfl _
  | suspend => exact .answered _ (.commanded current number _ (.inl rfl)) _ _
  | resume => exact .answered _ (.commanded current number _ (.inr rfl)) _ _

theorem performPipeline_deed (current : Option TaskHandle) {number : Nat} {pipeline : Pipeline}
    (piped : machine.pipelines[number]? = some pipeline) (call : PipelineCall) :
    machine.Deed (.call current (.pipeline number call))
      (machine.performPipeline number pipeline call) := by
  have asked (query : call.isQuery = true) (part : Section)
      (asks : pipeline.part? number call = some part) :
      machine.Deed (.call current (.pipeline number call))
        (machine.push [.acquire pipeline.scheduler part]) :=
    .pipeAsked current number call query pipeline piped part asks
  have answered (query : call.isQuery = true) (reply : Reply) :
      machine.Deed (.call current (.pipeline number call)) (machine.respond reply) :=
    .answered _ (.unasked current number call (.inl query)) _ _
  cases call with
  | command command => exact performCommand_deed current piped command
  | scheduleCopy startUs =>
      simp only [performPipeline]
      split
      case isTrue active => exact asked rfl _ (if_pos active)
      case isFalse => exact answered rfl _
  | xrun bytes => exact reportXrun_deed (.called current number bytes) piped
  | checkDeadline | describe => exact asked rfl _ rfl
  | free =>
      simp only [performPipeline]
      split
      case isTrue => exact answered rfl _
      case isFalse idle => exact asked rfl _ (if_neg idle)
  | unknown => exact .answered _ (.unasked current number _ (.inr rfl)) _ _

theorem perform_deed (current : Option TaskHandle) (call : Call) :
    machine.Deed (.call current call) (machine.perform current call) := by
  cases call with
  | init config executor => exact initScheduler_deed current config executor
  | drop number => exact dropScheduler_deed current number
  | platform call => exact performPlatform_deed current call
  | scheduler number call =>
      simp only [perform]
      split
      case h_1 gone =>
        refine .answered _ (.unowned current number call fun scheduler found => ?_) _ _
        cases gone.symm.trans found
      case h_2 scheduler found =>
        split
        case isTrue owned => exact performScheduler_deed current found owned call
        case isFalse unowned =>
          refine .answered _ (.unowned current number call fun held there => ?_) _ _
          cases found.symm.trans there
          exact Bool.eq_false_iff.mpr unowned
  | pipeline number call =>
      simp only [perform]
      split
      case h_1 absent => exact .answered _ (.unpiped current number call absent) _ _
      case h_2 pipeline piped => exact performPipeline_deed current piped call
  | unknown => exact .answered _ (.unknown current) _ _

theorem acquire_deed (number : Nat) (part : Section) :
    machine.Deed (.acquire number part) (machine.acquire number part) := by
  unfold Machine.acquire
  dsimp only
  split
  case h_1 script comes => exact .interposed number part script comes
  case h_2 alone => exact .acquired number part alone

theorem enter_deed (number : Nat) (part : Section) :
    machine.Deed (.enter number part) (machine.enter number part) := by
  unfold Machine.enter
  split
  case h_1 gone => exact .answered _ (.notEntered number part gone) machine.reply machine.notices
  case h_2 scheduler found =>
    split
    case isTrue held => exact .waited number part scheduler found held
    case isFalse free =>
      exact .entered number part scheduler _ found (Bool.eq_false_iff.mpr free) rfl

theorem leave_deed (number : Nat) : machine.Deed (.leave number) (machine.leave number) := by
  unfold Machine.leave
  split
  case h_1 gone => exact .answered _ (.notLeft number gone) machine.reply machine.notices
  case h_2 scheduler found => exact .left number scheduler found

theorem execute_deed (number : Nat) (run : Dispatch) (work : Option Work) :
    machine.Deed (.execute number run work) (machine.execute number run work) := by
  unfold Machine.execute
  split
  case h_1 gone =>
    exact .answered _ (.notExecuted number run work gone) machine.reply machine.notices
  case h_2 scheduler found =>
    cases work with
    | none => exact .skipped number run scheduler found _
    | some work =>
        have deed := Deed.handed number run work scheduler found
          (machine.notices.push (.dispatch run.task run.current))
        dsimp only
        split at deed
        case isTrue inline =>
          rw [if_pos inline]
          exact deed
        case isFalse custom =>
          rw [if_neg custom]
          exact deed

theorem engage_deed (number : Nat) (run : Dispatch) (work : Work) (turn : ExecutorTurn Call) :
    machine.Deed (.engage number run work turn) (machine.engage number run work turn) := by
  unfold Machine.engage
  split
  case isTrue runs =>
    cases work with
    | task routine => exact .ranTask number run routine turn runs
    | copy pipeline routine => exact .ranCopy number run pipeline routine turn runs _
  case isFalse runs => exact .spared number run work turn (Bool.eq_false_iff.mpr runs)

theorem conclude_deed (number : Nat) (wakes : Bool) (outcome : PassOutcome) :
    machine.Deed (.conclude number wakes outcome) (machine.conclude number wakes outcome) := by
  unfold Machine.conclude
  split
  case h_1 gone =>
    exact .answered _ (.notConcluded number wakes outcome gone) machine.reply machine.notices
  case h_2 scheduler found =>
    dsimp only
    split
    case h_1 task next =>
      cases wakes with
      | true => exact .lookedUp number outcome scheduler found task next
      | false => exact .concluded number false outcome scheduler found nofun
    case h_2 next => exact .concluded number wakes outcome scheduler found fun _ => next

/-- Whatever is carried out is one of these deeds. -/
theorem carryOut_deed (machine : Machine) (activity : Activity) :
    machine.Deed activity (machine.carryOut activity) := by
  cases activity with
  | call current call => exact perform_deed current call
  | script current script =>
      cases script with
      | nil => exact .answered _ (.scriptOver current) machine.reply machine.notices
      | cons call rest => exact .called current call rest
  | report => exact .reported
  | acquire number part => exact acquire_deed number part
  | enter number part => exact enter_deed number part
  | leave number => exact leave_deed number
  | execute number run work => exact execute_deed number run work
  | engage number run work turn => exact engage_deed number run work turn
  | returned number run work verdict after => exact .returned number run work verdict after _
  | conclude number wakes outcome => exact conclude_deed number wakes outcome
  | xrun number bytes =>
      simp only [carryOut]
      cases piped : machine.pipelines[number]? with
      | some pipeline => exact reportXrun_deed (.seen number bytes) piped
      | none =>
          refine .answered _ (.unreported _ number bytes (.seen number bytes) ?_) machine.reply
            machine.notices
          intro pipeline there
          cases piped.symm.trans there
  | round rounds delivered => exact round_deed rounds delivered
  | dispatch tally => exact dispatch_deed (.round tally)
  | sweep line delivered tally => exact sweep_deed line delivered tally
  | unguard => exact .unguarded _
  | unlock value => exact .unlocked value _
  | reply reply => exact .answered _ (.replied reply) reply machine.notices

theorem step_cons {machine : Machine} {activity : Activity} {rest : List Activity}
    (agenda : machine.agenda = activity :: rest) :
    machine.step = ({ machine with agenda := rest } : Machine).carryOut activity := by
  simp only [step, agenda]

theorem step_deed {activity : Activity} {rest : List Activity}
    (agenda : machine.agenda = activity :: rest) :
    ({ machine with agenda := rest } : Machine).Deed activity machine.step := by
  rw [step_cons agenda]
  exact carryOut_deed _ activity

end Machine

end EdfKernel
