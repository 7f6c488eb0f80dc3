import EdfKernel.Activity

/-!
What a section does. Given the scheduler, the clock and the number that the
next pipeline would take, it gives the scheduler as it leaves it, what it asks
of the rest of the kernel, and what is to be done once the lock is free again.
Nothing here depends on the timer, the interrupt lines or other schedulers.
-/

namespace EdfKernel

structure Effect where
  scheduler : Scheduler
  requests : Bool
  arms : Option Ticks
  attaches : Option Pipeline
  notices : List Notice
  reply : Option Reply
  next : List Activity

namespace Effect

def quiet (scheduler : Scheduler) : Effect := ⟨scheduler, false, none, none, [], none, []⟩

def answer (scheduler : Scheduler) (answer : Answer) : Effect :=
  { quiet scheduler with reply := some (.ok answer) }

def refusal (scheduler : Scheduler) (error : SchedulerError) : Effect :=
  { quiet (scheduler.refuse error) with reply := some (.failed (.scheduler error)) }

def change (scheduler : Scheduler) (result : Except SchedulerError (TaskTable Work)) : Effect :=
  match result with
  | .error error => refusal scheduler error
  | .ok table => answer { scheduler with table } .done

def create (scheduler : Scheduler) (work : Work) (settings : TaskSettings) : Effect :=
  let capacity := scheduler.table.capacity
  match scheduler.create work settings with
  | none => { refusal scheduler (.tableFull capacity) with notices := [.tableFull capacity] }
  | some (task, scheduler) =>
      { answer scheduler (.handle task) with
        notices := [.registered task scheduler.table.size capacity settings] }

/-- A pipeline is a task of its scheduler; it takes the next number. -/
def createPipeline (scheduler : Scheduler) (scheduling number : Nat) (desc : PipelineDesc)
    (routine : Routine) : Effect :=
  let effect := create scheduler (.copy number routine) desc.settings
  match effect.reply with
  | some (.ok (.handle task)) =>
      { effect with
        attaches := some ⟨scheduling, task, desc, false, false⟩
        notices := effect.notices ++ [.pipelineCreated desc.id task] }
  | _ => effect

def retire (scheduler : Scheduler) (task : TaskHandle) : Effect :=
  match scheduler.table.retire task with
  | .error error => refusal scheduler error
  | .ok table => { answer { scheduler with table } .done with notices := [.freed task] }

def insert (scheduler : Scheduler) (clock : Ticks) (task : TaskHandle)
    (startUs deadlineUs : UInt64) : Effect :=
  match scheduler.table.insert scheduler.config clock task startUs deadlineUs with
  | .error error => refusal scheduler error
  | .ok (window, table) =>
      { answer { scheduler with table } .done with
        requests := true
        notices := [.queued task window.start window.deadline] }

def inspect (scheduler : Scheduler) (task : TaskHandle) : Effect :=
  answer scheduler
    (.snapshot ((scheduler.table.find? task).map fun record => record.snapshot task))

def check (scheduler : Scheduler) (task : TaskHandle) : Effect :=
  match scheduler.table.check task with
  | .error error => refusal scheduler error
  | .ok state => answer scheduler (.state state)

def describe (scheduler : Scheduler) (pipeline : Pipeline) : Effect :=
  answer scheduler
    (.pipeline pipeline ((scheduler.table.find? pipeline.task).map fun record => record.state))

/-- A pipeline whose task the selector cancelled has an overrun to report. -/
def checkDeadline (scheduler : Scheduler) (pipeline : Nat) (task : TaskHandle) : Effect :=
  match scheduler.table.check task with
  | .error (.deadlineMissed _ _) => { quiet scheduler with next := [.xrun pipeline 0] }
  | _ => answer scheduler (.flag false)

/-- The first section of a pass. A task that is due is dispatched next; else
the pass is over. -/
def select (scheduler : Scheduler) (number : Nat) (clock : Ticks) (wake : Bool) : Effect :=
  let scan := scheduler.table.select clock
  let effect := quiet ({ scheduler with table := scan.table }.account scan.selection)
  let found := scan.selection.next.bind fun task =>
    (scan.table.find? task).map fun record => (task, record.timing.start)
  match found with
  | none =>
      { effect with
        notices := scan.notices ++ [.idlePass clock]
        next := [.conclude number wake .idle] }
  | some (task, start) =>
      if clock < start then
        { effect with
          notices := scan.notices ++ [.notDue clock task start]
          next := [.conclude number wake ⟨none, some task⟩] }
      else
        { effect with
          notices := scan.notices
          next := [.acquire number (.dispatch wake clock task)] }

/-- The second section of a pass. A task that changed since it was selected is
left to another pass; else a second scan finds what to wake for. -/
def dispatch (scheduler : Scheduler) (number : Nat) (wake : Bool) (current : Ticks)
    (task : TaskHandle) : Effect :=
  match scheduler.table.claim current task with
  | none =>
      { quiet scheduler with requests := true, next := [.conclude number wake .idle] }
  | some (work, table) =>
      -- This scan too is for the instant that the first one read.
      let scan := table.select current
      { quiet ({ scheduler with table := scan.table }.account scan.selection) with
        notices := scan.notices
        next := [.execute number ⟨task, current, scan.selection.next, wake⟩ work] }

/-- The third section of a pass. Only a task that was still running is
admitted again. -/
def finish (scheduler : Scheduler) (number : Nat) (dispatch : Dispatch) (work : Option Work)
    (status : WorkStatus) : Effect :=
  let (running, table) := scheduler.table.finish dispatch.task work
  let effect := quiet { scheduler with table }
  let conclude := Activity.conclude number dispatch.wake dispatch.outcome
  if running then
    match status with
    | .done => { effect with next := [conclude] }
    | .reschedule startUs deadlineUs =>
        { effect with next := [.acquire number (.reinsert dispatch startUs deadlineUs)] }
  else
    { effect with notices := [.changedWhileRunning dispatch.task], next := [conclude] }

/-- The last section of a pass whose work asked for another run. -/
def reinsert (scheduler : Scheduler) (number : Nat) (clock : Ticks) (dispatch : Dispatch)
    (startUs deadlineUs : UInt64) : Effect :=
  let conclude := Activity.conclude number dispatch.wake dispatch.outcome
  match scheduler.table.insert scheduler.config clock dispatch.task startUs deadlineUs with
  | .error error =>
      { quiet (scheduler.refuse error) with
        notices := [.notRescheduled dispatch.task error]
        next := [conclude] }
  | .ok (window, table) =>
      { quiet { scheduler with table } with
        requests := true
        notices := [.queued dispatch.task window.start window.deadline]
        next := [conclude] }

/-- After a pass of a run: wakes for the next task if it is still queued. -/
def wake (scheduler : Scheduler) (outcome : PassOutcome) (task : TaskHandle) : Effect :=
  let effect := answer scheduler (.outcome outcome)
  match scheduler.table.find? task with
  | none => effect
  | some record =>
      if record.state = .queued then
        { effect with
          arms := some record.timing.start
          notices := [.wake task record.timing.start] }
      else effect

end Effect

namespace Section

def effect (part : Section) (scheduler : Scheduler) (number : Nat) (clock : Ticks)
    (pipelines : Nat) : Effect :=
  match part with
  | .create routine settings => .create scheduler (.task routine) settings
  | .createPipeline desc routine => .createPipeline scheduler number pipelines desc routine
  | .configure task settings => .change scheduler (scheduler.table.configure task settings)
  | .retire task => .retire scheduler task
  | .insert task startUs deadlineUs => .insert scheduler clock task startUs deadlineUs
  | .cancel task => .change scheduler (scheduler.table.cancel task)
  | .complete task => .change scheduler (scheduler.table.complete task)
  | .inspect task => .inspect scheduler task
  | .check task => .check scheduler task
  | .queued => .answer scheduler (.handles scheduler.table.queue)
  | .queuedLength => .answer scheduler (.count scheduler.table.queue.length)
  | .describe pipeline => .describe scheduler pipeline
  | .checkDeadline pipeline task => .checkDeadline scheduler pipeline task
  | .select wakes => .select scheduler number clock wakes
  | .dispatch wakes current task => .dispatch scheduler number wakes current task
  | .finish run work status => .finish scheduler number run work status
  | .reinsert run startUs deadlineUs => .reinsert scheduler number clock run startUs deadlineUs
  | .wake outcome task => .wake scheduler outcome task

end Section

end EdfKernel
