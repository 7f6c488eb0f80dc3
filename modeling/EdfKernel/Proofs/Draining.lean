import EdfKernel.Proofs.DueQueues
import EdfKernel.Proofs.LockedSections
import EdfKernel.Proofs.PassSections

/-!
A step of the platform over a queue in which every task is due. Each pass runs the task that
comes first and arms the timer for another, whose start is past; the timer fires in the next
round and raises the line for the next pass. So the rounds go on until the queue is empty,
and the tasks are run in the order of their effective deadlines and of their admission.
-/

namespace EdfKernel

namespace Controller

variable {irq : Controller Handler} {number line : Nat}

theorem Serves.of_lone (unmasked : irq.isMasked = false)
    (handled : irq.handler? line = some (.scheduler number)) (enabled : irq.isEnabled line = true)
    (lone : ∀ n ≠ line, irq.isPending n = false) : irq.Serves number line where
  unmasked := by
    have none : ¬ 0 < irq.maskDepth := of_decide_eq_false unmasked
    exact UInt32.toNat.inj (by simpa [UInt32.lt_iff_toNat_lt] using none)
  own := by
    obtain ⟨own, found, handles⟩ := Option.bind_eq_some_iff.mp handled
    rw [isEnabled, found, Option.any_some] at enabled
    rw [isPending, found, Option.any_some, ← handles, ← enabled]
  others n apart other found := by
    have down := lone n apart
    rw [isPending, found, Option.any_some] at down
    rw [Line.isReady, down, Bool.and_false]

end Controller

namespace Scene

open Machine

variable {number : Nat} {scene : Scene} {rest : List Activity}

theorem Performs.pass_idle (free : scene.scheduler.locked = false)
    (none : scene.scheduler.table.select scene.clock = Scan.start scene.scheduler.table) :
    Performs number scene (.acquire number (.select true) :: rest) []
      { scene with scheduler := scene.scheduler.endPass } rest :=
  of_leads rfl fun pipelines events _ =>
    (@Leads.select_idle number 0 { scene with pipelines, events } rest true free none).trans
      (Leads.conclude true rfl)

theorem Performs.runs_chosen (inline : scene.scheduler.executor = .inline)
    (free : scene.scheduler.locked = false) {task : TaskHandle} {record : TaskRecord Work}
    {slack far : Ticks} {work : Work} {claimed table : TaskTable Work} {second : Option TaskHandle}
    {event : Event}
    (chosen : scene.scheduler.table.select scene.clock =
      ⟨scene.scheduler.table, ⟨some task, none, 0, 0⟩, slack, []⟩)
    (waits : scene.scheduler.table.Due scene.clock scene.pipelines task record)
    (taken : scene.scheduler.table.claim scene.clock task = some (some work, claimed))
    (rescanned : claimed.select scene.clock = ⟨claimed, ⟨second, none, 0, 0⟩, far, []⟩)
    (finishes : work.Finishes scene.pipelines)
    (next : work.nextRun? scene.pipelines task = some event)
    (finished : claimed.finish task (some work.advance) = (true, table)) :
    Performs number scene (.acquire number (.select true) :: rest) [event]
      { scene with scheduler := { scene.scheduler.countDispatch with table } }
      (.conclude number true ⟨some task, second⟩ :: rest) := by
  let run : Dispatch := ⟨task, scene.clock, second, true⟩
  let busy : Scheduler := { scene.scheduler with table := claimed }
  have selected : Performs number scene (.acquire number (.select true) :: rest) [] scene
      (.acquire number (.dispatch true scene.clock task) :: rest) :=
    of_leads rfl fun pipelines events _ =>
      @Leads.select_due number 0 { scene with pipelines, events } rest task record true slack free
        chosen waits.found waits.begun
  have dispatched : Performs number scene
      (.acquire number (.dispatch true scene.clock task) :: rest) []
      { scene with scheduler := busy } (.execute number run (some work) :: rest) :=
    of_leads rfl fun pipelines events _ =>
      @Leads.dispatch_due number 0 { scene with pipelines, events } rest task true far free
        scene.clock (some work) claimed second taken rescanned
  have executed : Performs number { scene with scheduler := busy }
      (.execute number run (some work) :: rest) []
      { scene with scheduler := busy.countDispatch }
      (.engage number run work ⟨[], true, [], none⟩ :: rest) :=
    of_leads rfl fun pipelines events _ =>
      @Leads.execute number 0 { scene with scheduler := busy, pipelines, events } rest run work
        inline
  have engaged : Performs number { scene with scheduler := busy.countDispatch }
      (.engage number run work ⟨[], true, [], none⟩ :: rest) [event]
      { scene with scheduler := busy.countDispatch }
      (.acquire number (.finish run (some work.advance) .done) :: rest) :=
    @engage number { scene with scheduler := busy.countDispatch } rest run work finishes event next
  have done : Performs number { scene with scheduler := busy.countDispatch }
      (.acquire number (.finish run (some work.advance) .done) :: rest) []
      { scene with scheduler := { scene.scheduler.countDispatch with table } }
      (.conclude number true run.outcome :: rest) :=
    of_leads rfl fun pipelines events _ =>
      @Leads.finish_done number 0
        { scene with scheduler := busy.countDispatch, pipelines, events } rest (some work.advance)
        table run free finished
  exact (((selected.trans dispatched).trans executed).trans engaged).trans done

/-- The timer is left alone if nothing else waits, else it is armed for a start that is past. -/
def Rearms (scene : Scene) (number : Nat) (table : TaskTable Work)
    (armed : Option (Arming WakeUp)) : Prop :=
  (table.queue = [] ∧ armed = scene.armed) ∨
    (table.queue ≠ [] ∧ ∃ instant, armed = some ⟨instant, .scheduler number⟩ ∧
      instant ≤ scene.clock)

/-- A pass over a queue in which all is due runs the task that its scan chose. -/
theorem Performs.pass (inline : scene.scheduler.executor = .inline)
    (free : scene.scheduler.locked = false)
    (due : scene.scheduler.table.AllDue scene.clock scene.pipelines)
    {task : TaskHandle} {record : TaskRecord Work} {slack : Ticks}
    (waits : scene.scheduler.table.Due scene.clock scene.pipelines task record)
    (chosen : scene.scheduler.table.select scene.clock =
      ⟨scene.scheduler.table, ⟨some task, none, 0, 0⟩, slack, []⟩) :
    ∃ event table armed,
      scene.scheduler.table.nextRun? scene.pipelines task = some event ∧
      scene.scheduler.table.Ran task table ∧ scene.Rearms number table armed ∧
      Performs number scene (.acquire number (.select true) :: rest) [event]
        { scene with
          armed
          scheduler := { scene.scheduler.countDispatch.endPass with table } } rest := by
  obtain ⟨work, has, finishes⟩ := waits.work
  obtain ⟨event, next⟩ := finishes.nextRun task
  obtain ⟨claimed, taken, claims⟩ := waits.claim
  obtain ⟨second, far, rescanned, follows⟩ := claims.select due
  obtain ⟨table, finished, ran⟩ := claims.finish (some work.advance)
  rw [has] at taken
  have executes := @runs_chosen number scene rest inline free task record slack far work claimed
    table second event chosen waits taken rescanned finishes next finished
  have runs : scene.scheduler.table.nextRun? scene.pipelines task = some event := by
    rw [TaskTable.nextRun?, waits.found, Option.bind_some, has, Option.bind_some, next]
  -- Nothing else waits, and the timer is left alone; or the pass looks up what it wakes for.
  let after : Scheduler := { scene.scheduler.countDispatch with table }
  rcases follows with ⟨rfl, last⟩ | ⟨other, held, rfl, left, ready⟩
  · refine ⟨event, table, scene.armed, runs, ran, .inl ⟨ran.queue.trans last, rfl⟩, ?_⟩
    have ended : Performs number { scene with scheduler := after }
        (.conclude number true ⟨some task, none⟩ :: rest) []
        { scene with scheduler := after.endPass } rest :=
      of_leads rfl fun pipelines events _ =>
        @Leads.conclude number 0 { scene with scheduler := after, pipelines, events } rest true
          ⟨some task, none⟩ rfl
    exact executes.trans ended
  · have apart := (due.once.mem_erase_iff.mp left).1
    have found := (ran.others other apart).trans ready.found
    have waiting : table.queue ≠ [] := ran.queue ▸ List.ne_nil_of_mem left
    refine ⟨event, table, some ⟨held.timing.start, .scheduler number⟩, runs, ran,
      .inr ⟨waiting, _, rfl, ready.begun⟩, ?_⟩
    have ended : Performs number { scene with scheduler := after }
        (.conclude number true ⟨some task, some other⟩ :: rest) []
        { scene with scheduler := after.endPass }
        (.acquire number (.wake ⟨some task, some other⟩ other) :: rest) :=
      of_leads rfl fun pipelines events _ =>
        @Leads.conclude_next number 0 { scene with scheduler := after, pipelines, events } rest
          ⟨some task, some other⟩ other rfl
    have armed : Performs number { scene with scheduler := after.endPass }
        (.acquire number (.wake ⟨some task, some other⟩ other) :: rest) []
        { scene with
          armed := some ⟨held.timing.start, .scheduler number⟩
          scheduler := after.endPass } rest :=
      of_leads rfl fun pipelines events _ =>
        @Leads.wake number 0 { scene with scheduler := after.endPass, pipelines, events } rest other
          held free found ready.queued ⟨some task, some other⟩
    exact (executes.trans ended).trans armed

/-- The scheduler is ready to be run by its line, and everything in its queue is due. -/
structure Ready (scene : Scene) (number : Nat) (rest : List Activity) : Prop where
  inline : scene.scheduler.executor = .inline
  free : scene.scheduler.locked = false
  idle : scene.scheduler.inPass = false
  serves : scene.irq.Serves number scene.scheduler.config.line
  alive : scene.IsAlive number rest
  due : scene.scheduler.table.AllDue scene.clock scene.pipelines

def IsEarly (scene : Scene) : Prop :=
  ∀ arming, scene.armed = some arming → ¬ arming.instant ≤ scene.clock

variable {rounds delivered : Nat} {fired : Bool}

theorem Ready.round (ready : scene.Ready number rest)
    (pending : scene.irq.isPending scene.scheduler.config.line = true) {after : Scene}
    {runs : List Event}
    (pass : Performs number
      { scene with
        irq := scene.irq.clear scene.scheduler.config.line
        scheduler := scene.scheduler.beginPass }
      (.acquire number (.select true) ::
        .sweep (scene.scheduler.config.line + 1) 1 (.round rounds delivered fired) :: rest)
      runs after
      (.sweep (scene.scheduler.config.line + 1) 1 (.round rounds delivered fired) :: rest))
    (same : after.scheduler.config = scene.scheduler.config)
    (served : after.irq.Serves number after.scheduler.config.line) :
    Performs number scene (.dispatch (.round rounds delivered fired) :: rest) runs after
      (.round rounds (delivered + 1) :: rest) := by
  have begun : Performs number scene (.dispatch (.round rounds delivered fired) :: rest) []
      { scene with
        irq := scene.irq.clear scene.scheduler.config.line
        scheduler := scene.scheduler.beginPass }
      (.acquire number (.select true) ::
        .sweep (scene.scheduler.config.line + 1) 1 (.round rounds delivered fired) :: rest) :=
    .of_leads rfl fun pipelines events alike =>
      @Leads.dispatch_pass number 0 { scene with pipelines, events } rest
        (.round rounds delivered fired) ready.serves pending (alike.isAlive ready.alive) ready.idle
  have swept : Performs number after
      (.sweep (after.scheduler.config.line + 1) 1 (.round rounds delivered fired) :: rest) [] after
      (.round rounds (delivered + 1) :: rest) :=
    .of_leads rfl fun pipelines events _ =>
      @Leads.sweep_rest number 0 delivered rounds { after with pipelines, events } rest served fired
  rw [same] at swept
  have whole := (begun.trans pass).trans swept
  rwa [List.append_nil] at whole

theorem Performs.settles (serves : scene.irq.Serves number scene.scheduler.config.line)
    (lowered : scene.irq.isPending scene.scheduler.config.line = false) (early : scene.IsEarly) :
    Performs number scene (.round rounds delivered :: rest) [] scene rest := by
  cases rounds with
  | zero => exact of_leads rfl fun _ _ _ => Leads.step fun _ shows => shows.respond _
  | succ rounds =>
      exact of_leads rfl fun pipelines events _ =>
        (@Leads.round_early number 0 delivered rounds { scene with pipelines, events } rest
          early).trans (Leads.dispatch_idle serves lowered)

def spent (scene : Scene) (table : TaskTable Work) (armed : Option (Arming WakeUp)) : Scene :=
  { scene with
    irq := scene.irq.clear scene.scheduler.config.line
    armed
    scheduler := { scene.scheduler.beginPass.countDispatch.endPass with table } }

def raised (scene : Scene) (table : TaskTable Work) : Scene :=
  { scene.spent table none with
    irq := (scene.irq.clear scene.scheduler.config.line).request scene.scheduler.config.line }

theorem Ready.finds_nothing (ready : scene.Ready number rest)
    (pending : scene.irq.isPending scene.scheduler.config.line = true) (early : scene.IsEarly)
    (empty : scene.scheduler.table.queue = []) :
    Performs number scene (.dispatch (.round rounds delivered fired) :: rest) []
      { scene with
        irq := scene.irq.clear scene.scheduler.config.line
        scheduler := scene.scheduler.beginPass.endPass } rest := by
  have idle := TaskTable.select_of_queue_eq_nil empty scene.clock
  have rounded := @Ready.round number scene rest rounds delivered fired ready pending
    { scene with
      irq := scene.irq.clear scene.scheduler.config.line
      scheduler := scene.scheduler.beginPass.endPass }
    [] (.pass_idle ready.free idle) rfl ready.serves.clear
  exact rounded.trans (.settles ready.serves.clear (Controller.isPending_clear_self _ _) early)

theorem Ready.spends (ready : scene.Ready number rest)
    (pending : scene.irq.isPending scene.scheduler.config.line = true)
    (waiting : scene.scheduler.table.queue ≠ []) :
    ∃ task event table armed, task ∈ scene.scheduler.table.queue ∧
      (∀ other ∈ scene.scheduler.table.queue, other ≠ task →
        scene.scheduler.table.Precedes task other) ∧
      scene.scheduler.table.nextRun? scene.pipelines task = some event ∧
      scene.scheduler.table.Ran task table ∧ scene.Rearms number table armed ∧
      Performs number scene (.dispatch (.round rounds delivered fired) :: rest) [event]
        (scene.spent table armed) (.round rounds (delivered + 1) :: rest) := by
  obtain ⟨task, record, slack, member, waits, chosen, first⟩ := ready.due.select waiting
  obtain ⟨event, table, armed, begins, ran, rearms, pass⟩ :=
    @Performs.pass number
      { scene with
        irq := scene.irq.clear scene.scheduler.config.line
        scheduler := scene.scheduler.beginPass }
      (.sweep (scene.scheduler.config.line + 1) 1 (.round rounds delivered fired) :: rest)
      ready.inline ready.free ready.due task record slack waits chosen
  exact ⟨task, event, table, armed, member, first, begins, ran, rearms,
    ready.round pending pass rfl ready.serves.clear⟩

theorem Ready.again (ready : scene.Ready number rest) {task : TaskHandle} {table : TaskTable Work}
    (ran : scene.scheduler.table.Ran task table) : (scene.raised table).Ready number rest where
  inline := congrArg Executor.advance ready.inline
  free := ready.free
  idle := rfl
  serves := ready.serves.clear.request
  alive := ready.alive
  due := ready.due.ran ran

/-- With the line raised, the rounds that are left drain the queue if there is one for each
task. -/
theorem Ready.drain {n : Nat} (ready : scene.Ready number rest)
    (pending : scene.irq.isPending scene.scheduler.config.line = true) (early : scene.IsEarly)
    (length : scene.scheduler.table.queue.length = n) (enough : n ≤ rounds + 1) :
    ∃ order runs after,
      TaskTable.Drains scene.pipelines scene.scheduler.table order runs after.scheduler.table ∧
      after.irq.isPending scene.scheduler.config.line = false ∧
      Performs number scene (.dispatch (.round rounds delivered fired) :: rest) runs after
        rest := by
  -- By induction on the number of tasks that are left; each takes one pass and one round.
  induction n generalizing scene rounds delivered fired with
  | zero =>
      have empty := List.length_eq_zero_iff.mp length
      refine ⟨[], [], _, ?_, ?_, ready.finds_nothing pending early empty⟩
      · exact .done _ empty
      · exact Controller.isPending_clear_self _ _
  | succ n ih =>
      have waiting : scene.scheduler.table.queue ≠ [] := List.ne_nil_of_length_eq_add_one length
      obtain ⟨task, event, table, armed, member, first, begins, ran, rearms, rounded⟩ :=
        @Ready.spends number scene rest rounds delivered fired ready pending waiting
      rcases rearms with ⟨empty, rfl⟩ | ⟨more, instant, rfl, past⟩
      · have settled : Performs number (scene.spent table scene.armed)
            (.round rounds (delivered + 1) :: rest) [] (scene.spent table scene.armed) rest :=
          .settles ready.serves.clear (Controller.isPending_clear_self _ _) early
        exact ⟨[task], [event], _, .next member first begins ran (.done table empty),
          Controller.isPending_clear_self _ _, rounded.trans settled⟩
      · have left : table.queue.length = n := by
          rw [ran.queue, List.length_erase_of_mem member, length, Nat.add_sub_cancel]
        obtain ⟨fewer, rfl⟩ : ∃ fewer, rounds = fewer + 1 := by
          have positive := List.length_pos_iff.mpr more
          exact ⟨rounds - 1, by omega⟩
        have fires : Performs number
            (scene.spent table (some ⟨instant, .scheduler number⟩))
            (.round (fewer + 1) (delivered + 1) :: rest) [] (scene.raised table)
            (.dispatch (.round fewer (delivered + 1) true) :: rest) :=
          .of_leads rfl fun pipelines events alike =>
            @Leads.round_due number 0 (delivered + 1) fewer
              { scene.spent table (some ⟨instant, .scheduler number⟩) with pipelines, events } rest
              instant rfl past (alike.isAlive ready.alive)
        have up : (scene.raised table).irq.isPending scene.scheduler.config.line = true := by
          simp [raised, Controller.isPending_request, ready.serves.inside]
        have unarmed : (scene.raised table).IsEarly := by
          intro arming held
          cases held
        obtain ⟨order, runs, after, drains, down, performs⟩ :=
          @ih (scene.raised table) fewer (delivered + 1) true (ready.again ran) up unarmed left
            (by omega)
        exact ⟨task :: order, event :: runs, after, .next member first begins ran drains, down,
          (rounded.trans fires).trans performs⟩

/-- The first round polls the timer; if it is due it raises the line, which is up already. -/
theorem Ready.polls (ready : scene.Ready number rest)
    (pending : scene.irq.isPending scene.scheduler.config.line = true)
    (timer : ∀ arming, scene.armed = some arming → arming.wake = .scheduler number) :
    ∃ polled fired, polled.Ready number rest ∧ polled.scheduler = scene.scheduler ∧
      polled.pipelines = scene.pipelines ∧
      polled.irq.isPending polled.scheduler.config.line = true ∧ polled.IsEarly ∧
      Performs number scene (.round (rounds + 1) delivered :: rest) [] polled
        (.dispatch (.round rounds delivered fired) :: rest) := by
  by_cases early : scene.IsEarly
  · exact ⟨scene, false, ready, rfl, rfl, pending, early,
      .of_leads rfl fun pipelines events _ =>
        @Leads.round_early number 0 delivered rounds { scene with pipelines, events } rest early⟩
  · obtain ⟨⟨instant, wake⟩, armed, due⟩ : ∃ arming, scene.armed = some arming ∧
        arming.instant ≤ scene.clock := by
      simpa [IsEarly] using early
    cases timer _ armed
    refine ⟨{ scene with
      armed := none
      irq := scene.irq.request scene.scheduler.config.line }, true, ?_, rfl, rfl, ?_, ?_, ?_⟩
    · exact { ready with serves := ready.serves.request }
    · simp [Controller.isPending_request, ready.serves.inside]
    · intro arming held
      cases held
    · exact .of_leads rfl fun pipelines events alike =>
        @Leads.round_due number 0 delivered rounds { scene with pipelines, events } rest instant
          armed due (alike.isAlive ready.alive)

theorem Ready.step (ready : scene.Ready number rest) (current : Option TaskHandle)
    (pending : scene.irq.isPending scene.scheduler.config.line = true)
    (timer : ∀ arming, scene.armed = some arming → arming.wake = .scheduler number)
    (few : scene.scheduler.table.queue.length ≤ stepRounds) :
    ∃ order runs after,
      TaskTable.Drains scene.pipelines scene.scheduler.table order runs after.scheduler.table ∧
      after.irq.isPending scene.scheduler.config.line = false ∧
      Performs number scene (.call current (.platform .step) :: rest) runs after rest := by
  have called : Performs number scene (.call current (.platform .step) :: rest) [] scene
      (.round stepRounds 0 :: rest) :=
    .of_leads rfl fun _ _ _ => Leads.call_step current
  obtain ⟨polled, fired, again, same, alike, up, early, polls⟩ :=
    @Ready.polls number scene rest 63 0 ready pending timer
  obtain ⟨order, runs, after, drains, down, performs⟩ :=
    @Ready.drain number polled rest 63 0 fired _ again up early rfl (same ▸ few)
  rw [same, alike] at drains
  rw [same] at down
  exact ⟨order, runs, after, drains, down, (called.trans polls).trans performs⟩

end Scene

namespace Machine

variable {machine : Machine} {number : Nat} {scheduler : Scheduler} {rest : List Activity}
  {current : Option TaskHandle}

theorem Reachable.waits_of_mem (reachable : Reachable machine)
    (found : machine.scheduler? number = some scheduler) (idle : scheduler.inPass = false)
    {task : TaskHandle} (member : task ∈ scheduler.table.queue) :
    ∃ record work, scheduler.table.find? task = some record ∧ record.state = .queued ∧
      record.work = some work := by
  obtain ⟨record, here, admitted⟩ :=
    ((reachable.tableSound found).consistent.mem_queue task).mp member
  have inside {P : Prop} (out : record.state = .running ∨ record.work = none) : P := by
    have busy := (reachable.out found here out).1
    rw [idle] at busy
    cases busy
  cases has : record.work with
  | none => exact inside (.inr has)
  | some work =>
      refine ⟨record, work, here, ?_, has⟩
      cases state : record.state with
      | queued => rfl
      | running => exact inside (.inl state)
      | _ =>
          rw [state] at admitted
          cases admitted

/-- One step runs all tasks of a queue in which each is due, once each, in the order of their
effective deadlines and, where these are the same, of the queue. -/
theorem step_drains_by_deadline (reachable : Reachable machine)
    (agenda : machine.agenda = .call current (.platform .step) :: rest)
    (quiet : ∀ moment, machine.interposed moment = none)
    (found : machine.scheduler? number = some scheduler)
    (inline : scheduler.executor = .inline) (idle : scheduler.inPass = false)
    (alive : machine.isAlive number = true) (unmasked : machine.irq.isMasked = false)
    (enabled : machine.irq.isEnabled scheduler.config.line = true)
    (pending : machine.irq.isPending scheduler.config.line = true)
    (lone : ∀ line ≠ scheduler.config.line, machine.irq.isPending line = false)
    (timer : ∀ arming, machine.timer.slot = some arming → arming.wake = .scheduler number)
    (few : scheduler.table.queue.length ≤ stepRounds)
    (due : ∀ task record, scheduler.table.find? task = some record → record.state = .queued →
      record.timing.start ≤ machine.clock ∧ machine.clock < record.timing.effectiveDeadline ∧
        ¬ (machine.clock = 0 ∧ record.timing.effectiveDeadline = Ticks.last))
    (works : ∀ task record work, scheduler.table.find? task = some record →
      record.state = .queued → record.work = some work → work.Finishes machine.pipelines) :
    ∃ (steps : Nat) (order : List TaskHandle) (runs : List Event) (after : Scheduler),
      (machine.run steps).agenda = rest ∧
      order.Perm scheduler.table.queue ∧ order.Pairwise scheduler.table.Precedes ∧
      order.map (scheduler.table.nextRun? machine.pipelines) = runs.map some ∧
      workRuns (machine.run steps).events = workRuns machine.events ++ runs ∧
      (machine.run steps).scheduler? number = some after ∧ after.table.queue = [] ∧
      (∀ task ∈ order, ∃ record, after.table.find? task = some record ∧
        record.state = .completed) ∧
      (machine.run steps).irq.isPending scheduler.config.line = false := by
  let scene : Scene :=
    ⟨machine.clock, machine.irq, machine.timer.slot, scheduler, machine.pipelines, machine.events⟩
  have shows : machine.Shows number scene (.call current (.platform .step) :: rest) :=
    ⟨quiet, rfl, rfl, rfl, found, rfl, rfl, agenda⟩
  have once := (reachable.tableSound found).consistent.queue_nodup
  have free : scheduler.locked = false := by
    apply reachable.free_of_agenda found agenda
    intro leaves
    cases leaves
  have ready : scene.Ready number rest :=
    { inline, free, idle
      serves := .of_lone unmasked (reachable.listens number scheduler found) enabled lone
      alive := shows.isAlive_iff.mp alive
      due :=
        { once
          due := by
            intro task member
            obtain ⟨record, work, here, queued, has⟩ := reachable.waits_of_mem found idle member
            obtain ⟨begun, ahead, bounded⟩ := due task record here queued
            exact ⟨record, here, queued, begun, Timing.isPassedOver_eq_false ahead bounded,
              work, has, works task record work here queued has⟩ } }
  obtain ⟨order, runs, after, drains, down, performs⟩ := ready.step current pending timer few
  obtain ⟨steps, later, ⟨pipelines, _, arrived⟩, ran⟩ :=
    performs machine machine.events ⟨machine.pipelines, .refl _, shows⟩
  refine ⟨steps, order, runs, after.scheduler, arrived.agenda, drains.perm, drains.sorted once,
    drains.events once, ?_, arrived.scheduler, drains.empty,
    fun task member => drains.completed once member, ?_⟩
  · rw [arrived.events]
    exact ran
  · rw [arrived.irq]
    exact down

/-- A machine about to step, with three tasks that are due: a copy in front of two works of
which the first reports an overrun, and whose common deadline is nearer. -/
def laden : Machine :=
  let ask (machine : Machine) (call : Call) : Machine := machine.exec 20 call fun _ => none
  let set := ask (boot 0) (.init ⟨1000000, 0, 7, 3⟩ .inline)
  let copies := ask set (.scheduler 0 (.createPipeline ⟨5, 30, 0, 0, 0, false⟩ []))
  let started := ask copies (.pipeline 0 (.command .start))
  let reports := ask started (.scheduler 0 (.create [⟨[.pipeline 0 (.xrun 64)], .done⟩] .default))
  let all := ask reports (.scheduler 0 (.create [] .default))
  let one := ask all (.pipeline 0 (.scheduleCopy 0))
  let two := ask one (.scheduler 0 (.insert (some ⟨1, 0⟩) 0 20))
  (ask two (.scheduler 0 (.insert (some ⟨2, 0⟩) 0 20))).start (.platform .step) fun _ => none

theorem laden_reachable : Reachable laden := by
  unfold laden
  refine .start _ _ (.exec (.exec (.exec (.exec ?_ rfl _ _ _) rfl _ _ _) rfl _ _ _) rfl _ _ _) rfl
  exact .exec (.exec (.exec (.exec (.boot 0) rfl _ _ _) rfl _ _ _) rfl _ _ _) rfl _ _ _

def ladenRecords : List (TaskRecord Work) :=
  let waiting (deadline : Ticks) (work : Work) : TaskRecord Work :=
    ⟨.queued, ⟨0, deadline, 0⟩, 0, 0, 0, some work⟩
  [waiting 30 (.copy 0 ⟨[], 0⟩),
    waiting 20 (.task ⟨[⟨[.pipeline 0 (.xrun 64)], .done⟩], 0⟩), waiting 20 (.task ⟨[], 0⟩)]

theorem finishes_of_mem_ladenRecords {record : TaskRecord Work} (member : record ∈ ladenRecords)
    {work : Work} (has : record.work = some work) : work.Finishes laden.pipelines := by
  simp only [ladenRecords, List.mem_cons, List.not_mem_nil, or_false] at member
  rcases member with rfl | rfl | rfl
  · cases has
    exact ⟨List.forall_mem_nil _, rfl⟩
  · cases has
    exact ⟨List.forall_mem_singleton.mpr (Call.spares_xrun 0 64 _), rfl⟩
  · cases has
    exact ⟨List.forall_mem_nil _, rfl⟩

/-- Its step runs all three, the two works before the copy in front of them. -/
theorem laden_drained :
    ∃ (steps : Nat) (order : List TaskHandle) (runs : List Event) (before after : Scheduler),
      laden.scheduler? 0 = some before ∧ (laden.run steps).agenda = [] ∧
      order.Perm [⟨0, 0⟩, ⟨1, 0⟩, ⟨2, 0⟩] ∧ order.Pairwise before.table.Precedes ∧
      order.map (before.table.nextRun? laden.pipelines) = runs.map some ∧
      workRuns (laden.run steps).events = runs ∧
      (laden.run steps).scheduler? 0 = some after ∧ after.table.queue = [] ∧
      (∀ task ∈ order, ∃ record, after.table.find? task = some record ∧
        record.state = .completed) ∧
      (laden.run steps).irq.isPending 7 = false := by
  have view : (laden.scheduler? 0).map (fun scheduler => (scheduler.executor, scheduler.inPass,
      scheduler.config.line, scheduler.table.queue,
      scheduler.table.queue.map scheduler.table.find?)) =
      some (.inline, false, 7, [⟨0, 0⟩, ⟨1, 0⟩, ⟨2, 0⟩], ladenRecords.map some) := rfl
  obtain ⟨scheduler, found, view⟩ := Option.map_eq_some_iff.mp view
  simp only [Prod.mk.injEq] at view
  obtain ⟨inline, idle, line, queue, records⟩ := view
  have waiting {task : TaskHandle} {record : TaskRecord Work}
      (here : scheduler.table.find? task = some record) (queued : record.state = .queued) :
      record ∈ ladenRecords := by
    have member : task ∈ scheduler.table.queue :=
      ((laden_reachable.tableSound found).consistent.mem_queue task).mpr
        ⟨record, here, queued ▸ rfl⟩
    have listed : some record ∈ scheduler.table.queue.map scheduler.table.find? :=
      List.mem_map.mpr ⟨task, member, here⟩
    rw [records] at listed
    simpa using listed
  have due : ∀ record ∈ ladenRecords, record.timing.start ≤ laden.clock ∧
      laden.clock < record.timing.effectiveDeadline ∧
        ¬ (laden.clock = 0 ∧ record.timing.effectiveDeadline = Ticks.last) := by
    decide +kernel
  have lone : ∀ other ≠ 7, laden.irq.isPending other = false := by
    intro other apart
    have down : ∀ other < lineCount, other ≠ 7 → laden.irq.isPending other = false := by
      decide +kernel
    by_cases inside : other < lineCount
    · exact down other inside apart
    · simp [Controller.isPending, Controller.line?, inside]
  obtain ⟨steps, order, runs, after, done, perm, sorted, begins, ran, there, empty, completed,
    down⟩ :=
    step_drains_by_deadline laden_reachable rfl (fun _ => rfl) found inline idle (by decide +kernel)
      (by decide +kernel) (line ▸ by decide +kernel) (line ▸ by decide +kernel) (line ▸ lone)
      (fun _ armed => by cases armed) (queue ▸ by decide)
      (fun _ record here queued => due record (waiting here queued))
      (fun _ _ _ here queued has => finishes_of_mem_ladenRecords (waiting here queued) has)
  exact ⟨steps, order, runs, scheduler, after, found, done, queue ▸ perm, sorted, begins, ran,
    there, empty, completed, line ▸ down⟩

end Machine

end EdfKernel
