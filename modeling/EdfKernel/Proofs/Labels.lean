import EdfKernel.Run

/-!
Priority and core are labels: callers give them to a task or a pipeline, and get them back.
`bare` takes the labels off, from a call with all scripts that it carries up to the whole kernel.
Nothing else is changed by it.
-/

namespace EdfKernel

def TaskSettings.bare (settings : TaskSettings) : TaskSettings :=
  { settings with priority := 0, core := 0 }

def PipelineDesc.bare (desc : PipelineDesc) : PipelineDesc :=
  { desc with priority := 0, core := 0 }

/-! A call carries scripts, and these are calls again. Lists of them have functions of their own,
so that the recursion is on the call. -/

mutual

def Call.bare : Call → Call
  | .init config executor => .init config executor.bare
  | .platform call => .platform call.bare
  | .scheduler number call => .scheduler number call.bare
  | .drop number => .drop number
  | .pipeline number call => .pipeline number call
  | .unknown => .unknown

def Script.bare : Script → Script
  | [] => []
  | call :: rest => call.bare :: Script.bare rest

def bareScripts : List Script → List Script
  | [] => []
  | script :: rest => Script.bare script :: bareScripts rest

def Turn.bare : Turn Call → Turn Call
  | ⟨calls, status⟩ => ⟨Script.bare calls, status⟩

def bareTurns : List (Turn Call) → List (Turn Call)
  | [] => []
  | turn :: rest => turn.bare :: bareTurns rest

def ExecutorTurn.bare : ExecutorTurn Call → ExecutorTurn Call
  | ⟨before, runs, after, status⟩ => ⟨Script.bare before, runs, Script.bare after, status⟩

def bareExecutorTurns : List (ExecutorTurn Call) → List (ExecutorTurn Call)
  | [] => []
  | turn :: rest => turn.bare :: bareExecutorTurns rest

def Executor.bare : Executor Call → Executor Call
  | .inline => .inline
  | .custom turns => .custom (bareExecutorTurns turns)

def PlatformCall.bare : PlatformCall Call → PlatformCall Call
  | .armTimer instant script => .armTimer instant (Script.bare script)
  | .register line scripts => .register line (bareScripts scripts)
  | .guarded script => .guarded (Script.bare script)
  | .locked value add script => .locked value add (Script.bare script)
  | call => call

def SchedulerCall.bare : SchedulerCall Call → SchedulerCall Call
  | .create turns settings => .create (bareTurns turns) settings.bare
  | .configure task settings => .configure task settings.bare
  | .createPipeline desc turns => .createPipeline desc.bare (bareTurns turns)
  | call => call

end

@[simp] theorem bareScripts_eq (scripts : List Script) :
    bareScripts scripts = scripts.map Script.bare := by
  induction scripts with
  | nil => rfl
  | cons script rest ih => rw [bareScripts, ih, List.map_cons]

@[simp] theorem bareTurns_eq (turns : List (Turn Call)) :
    bareTurns turns = turns.map Turn.bare := by
  induction turns with
  | nil => rfl
  | cons turn rest ih => rw [bareTurns, ih, List.map_cons]

@[simp] theorem bareExecutorTurns_eq (turns : List (ExecutorTurn Call)) :
    bareExecutorTurns turns = turns.map ExecutorTurn.bare := by
  induction turns with
  | nil => rfl
  | cons turn rest ih => rw [bareExecutorTurns, ih, List.map_cons]

/-! The parts of the kernel. -/

def Routine.bare (routine : Routine) : Routine :=
  { routine with turns := routine.turns.map Turn.bare }

def Work.bare : Work → Work
  | .task routine => .task routine.bare
  | .copy pipeline routine => .copy pipeline routine.bare

def TaskRecord.bare (record : TaskRecord Work) : TaskRecord Work :=
  { record with priority := 0, core := 0, work := record.work.map Work.bare }

def Slot.bare (slot : Slot Work) : Slot Work :=
  { slot with record := slot.record.map TaskRecord.bare }

def TaskTable.bare (table : TaskTable Work) : TaskTable Work :=
  { table with slots := table.slots.map Slot.bare }

def Scheduler.bare (scheduler : Scheduler) : Scheduler :=
  { scheduler with executor := scheduler.executor.bare, table := scheduler.table.bare }

def Pipeline.bare (pipeline : Pipeline) : Pipeline :=
  { pipeline with desc := pipeline.desc.bare }

def TaskSnapshot.bare (snapshot : TaskSnapshot) : TaskSnapshot :=
  { snapshot with priority := 0, core := 0 }

/-- Labels are in the snapshot of a task and in the description of a pipeline. -/
def Answer.bare : Answer → Answer
  | .snapshot value => .snapshot (value.map TaskSnapshot.bare)
  | .pipeline value held => .pipeline value.bare held
  | answer => answer

def Reply.bare : Reply → Reply
  | .ok answer => .ok answer.bare
  | .failed failure => .failed failure

def Event.bare : Event → Event
  | .returned reply => .returned reply.bare
  | event => event

def Notice.bare : Notice → Notice
  | .registered task live capacity settings => .registered task live capacity settings.bare
  | notice => notice

def Scan.bare (scan : Scan Work) : Scan Work :=
  { scan with table := scan.table.bare, notices := scan.notices.map Notice.bare }

def Section.bare : Section → Section
  | .create routine settings => .create routine.bare settings.bare
  | .createPipeline desc routine => .createPipeline desc.bare routine.bare
  | .configure task settings => .configure task settings.bare
  | .describe pipeline => .describe pipeline.bare
  | .finish run work status => .finish run (work.map Work.bare) status
  | part => part

def Activity.bare : Activity → Activity
  | .call current made => .call current made.bare
  | .script current calls => .script current (Script.bare calls)
  | .acquire number part => .acquire number part.bare
  | .enter number part => .enter number part.bare
  | .execute number run work => .execute number run (work.map Work.bare)
  | .engage number run work turn => .engage number run work.bare turn.bare
  | .returned number run work verdict after =>
      .returned number run work.bare verdict (Script.bare after)
  | .reply given => .reply given.bare
  | activity => activity

def Handler.bare : Handler → Handler
  | .scripts turns => .scripts (turns.map Script.bare)
  | .scheduler number => .scheduler number

def WakeUp.bare : WakeUp → WakeUp
  | .script calls => .script (Script.bare calls)
  | .scheduler number => .scheduler number

def Line.bare (line : Line Handler) : Line Handler :=
  { line with handler := line.handler.map Handler.bare }

def Controller.bare (controller : Controller Handler) : Controller Handler :=
  { controller with lines := controller.lines.map Line.bare }

def Arming.bare (arming : Arming WakeUp) : Arming WakeUp := { arming with wake := arming.wake.bare }

def Timer.bare (timer : Timer WakeUp) : Timer WakeUp :=
  { timer with slot := timer.slot.map Arming.bare }

def Effect.bare (effect : Effect) : Effect where
  scheduler := effect.scheduler.bare
  requests := effect.requests
  arms := effect.arms
  attaches := effect.attaches.map Pipeline.bare
  notices := effect.notices.map Notice.bare
  reply := effect.reply.map Reply.bare
  next := effect.next.map Activity.bare

def Machine.bare (machine : Machine) : Machine where
  clock := machine.clock
  irq := machine.irq.bare
  timer := machine.timer.bare
  schedulers := machine.schedulers.map fun scheduler => scheduler.map Scheduler.bare
  pipelines := machine.pipelines.map Pipeline.bare
  interposed := fun moment => (machine.interposed moment).map Script.bare
  acquisitions := machine.acquisitions
  agenda := machine.agenda.map Activity.bare
  reply := machine.reply.bare
  events := machine.events.map Event.bare
  notices := machine.notices.map Notice.bare

/-! Turns. -/

theorem laterTurns_map {α β : Type} (f : α → β) (turns : List α) :
    laterTurns (turns.map f) = (laterTurns turns).map f := by
  match turns with
  | [] | [_] | _ :: _ :: _ => rfl

namespace Routine

theorem bare_turn (routine : Routine) : routine.bare.turn = routine.turn.bare := by
  simp only [turn, bare, List.getElem?_map]
  cases routine.turns[routine.runs]? with
  | some turn => rfl
  | none =>
      simp only [Option.map_none, List.getLastD_eq_getLast?, List.getLast?_map]
      cases routine.turns.getLast? <;> rfl

end Routine

namespace Executor

theorem bare_isInline (executor : Executor Call) : executor.bare.isInline = executor.isInline := by
  cases executor <;> rfl

theorem bare_turn (executor : Executor Call) : executor.bare.turn = executor.turn.bare := by
  match executor with
  | .inline | .custom [] | .custom (_ :: _) => rfl

theorem bare_advance (executor : Executor Call) :
    executor.bare.advance = executor.advance.bare := by
  cases executor with
  | inline => rfl
  | custom turns => simp only [bare, advance, bareExecutorTurns_eq, laterTurns_map]

end Executor

end EdfKernel
