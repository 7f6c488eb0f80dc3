import EdfKernel.Proofs.PassRequests

/-!
What the pass of a scheduler has to itself while it is under way, and what becomes
of everybody who asks for another one meanwhile.
-/

namespace EdfKernel

namespace Machine

/-- Nobody started a pass, because one is under way: the line is raised, the request
is counted, the caller hears of an idle outcome, and all else is as it was. -/
structure PutOff (machine after : Machine) (number : Nat) (scheduler : Scheduler) :
    Prop where
  raised : after.irq.isPending scheduler.config.line = true
  own : after.irq.line? scheduler.config.line =
    (machine.irq.line? scheduler.config.line).map fun state => { state with pending := true }
  others : ∀ line, line ≠ scheduler.config.line →
    after.irq.line? line = machine.irq.line? line
  depth : after.irq.maskDepth = machine.irq.maskDepth
  counted : after.scheduler? number =
    some
      { scheduler with
        statistics :=
          { scheduler.statistics with coalesced := scheduler.statistics.coalesced + 1 } }
  rest : after =
    { machine with
      irq := after.irq
      schedulers := machine.schedulers.set number (after.scheduler? number)
      reply := .ok (.outcome .idle) }

variable {machine : Machine} {number : Nat} {scheduler : Scheduler}

theorem PutOff.of_busy (listens : machine.Listens)
    (found : machine.scheduler? number = some scheduler) (busy : scheduler.inPass = true)
    (wakes : Bool) : PutOff machine (machine.beginPass number wakes) number scheduler := by
  have inside := Controller.lt_lineCount_of_handler? (listens number scheduler found)
  have counted : (machine.setScheduler number scheduler.coalesce).scheduler? number =
      some scheduler.coalesce :=
    scheduler?_setScheduler_self machine number scheduler scheduler.coalesce found
  rw [beginPass_of_busy found busy]
  constructor
  case raised => simp [Controller.isPending_request, inside]
  case own => simp [Controller.request, Controller.line?_modify]
  case others =>
    intro line apart
    simp [Controller.request, Controller.line?_modify, apart]
  case depth => simp [Controller.request]
  case counted => exact counted
  case rest =>
    have same : machine.schedulers.set number (some scheduler.coalesce) =
        machine.schedulers.set number
          ((machine.setScheduler number scheduler.coalesce).scheduler? number) := by
      rw [counted]
    exact congrArg
      (fun schedulers : List (Option Scheduler) =>
        { machine with
          irq := machine.irq.request scheduler.config.line
          schedulers
          reply := .ok (.outcome .idle) })
      same

/-- What a pass has to itself: one chain of links and one executor call at a time, the
only task that may run or lack its work, and what it gives back. -/
structure Exclusive (machine : Machine) (number : Nat) (scheduler : Scheduler) : Prop where
  links : ((machine.duties number).filter Activity.isLink).length =
    if scheduler.inPass then 1 else 0
  /-- Only the task that the pass dispatched runs, or is without its work. -/
  out : ∀ task record, scheduler.table.find? task = some record →
    record.state = .running ∨ record.work = none →
    scheduler.inPass = true ∧ ∃ link work,
      (machine.duties number).filter Activity.isLink = [link] ∧
        link.carries? = some (task, some work)
  alone : ∀ task other record held, scheduler.table.find? task = some record →
    scheduler.table.find? other = some held → record.state = .running →
    held.state = .running → task = other
  /-- A running task keeps running, or is marked done. -/
  leaves : ∀ task record, scheduler.table.find? task = some record →
    record.state = .running →
    ∃ after held, machine.step.scheduler? number = some after ∧
      after.table.find? task = some held ∧
      (held.state = .running ∨ held.state = .completed)
  /-- No executor call is under way when one is made. -/
  executions : ∀ run work rest, machine.agenda = .execute number run work :: rest →
    (machine.duties number).filter Activity.isExecution = []
  called : scheduler.inPass = true → ∀ current call rest, call = .run ∨ call = .runPass →
    machine.agenda = .call current (.scheduler number call) :: rest →
    scheduler.owned = true →
    PutOff { machine with agenda := rest } machine.step number scheduler
  delivered : scheduler.inPass = true → ∀ line, machine.isAlive number = true →
    PutOff machine (machine.deliver line (.scheduler number)) number scheduler
  interrupted : scheduler.inPass = true → ∀ line delivered tally rest state,
    machine.agenda = .sweep line delivered tally :: rest →
    machine.irq.line? line = some state → state.isReady = true →
    state.handler = some (.scheduler number) → machine.isAlive number = true →
    PutOff { machine with agenda := .sweep (line + 1) (delivered + 1) tally :: rest }
      machine.step number scheduler
  /-- A work that is attached to a record is the work of its task. -/
  owns : ∀ history, Followed number machine history → ∀ task record work,
    scheduler.table.find? task = some record → record.work = some work →
    history.Owns task work
  /-- A dispatch finds the task's own work. -/
  dispatches : ∀ wakes current task rest,
    machine.agenda = .enter number (.dispatch wakes current task) :: rest →
    ∀ work after, scheduler.table.claim current task = some (work, after) →
    ∃ own, work = some own ∧
      ∀ history, Followed number machine history → history.Owns task own

theorem called_putOff (listens : machine.Listens)
    (found : machine.scheduler? number = some scheduler) (busy : scheduler.inPass = true)
    (owned : scheduler.owned = true) {current : Option TaskHandle} {call : SchedulerCall Call}
    {rest : List Activity} (asks : call = .run ∨ call = .runPass)
    (agenda : machine.agenda = .call current (.scheduler number call) :: rest) :
    PutOff { machine with agenda := rest } machine.step number scheduler := by
  have there : ({ machine with agenda := rest } : Machine).scheduler? number = some scheduler :=
    found
  have listening : ({ machine with agenda := rest } : Machine).Listens := listens
  have begun (wakes : Bool) := PutOff.of_busy listening there busy wakes
  rw [step_cons agenda]
  rcases asks with rfl | rfl
  · simp only [carryOut, perform, there, owned, if_true, performScheduler]
    exact begun true
  · simp only [carryOut, perform, there, owned, if_true, performScheduler]
    exact begun false

theorem interrupted_putOff (listens : machine.Listens)
    (found : machine.scheduler? number = some scheduler) (busy : scheduler.inPass = true)
    (alive : machine.isAlive number = true) {line delivered : Nat} {tally : Tally}
    {rest : List Activity} {state : Line Handler}
    (agenda : machine.agenda = .sweep line delivered tally :: rest)
    (looked : machine.irq.line? line = some state) (ready : state.isReady = true)
    (handles : state.handler = some (.scheduler number)) :
    PutOff { machine with agenda := .sweep (line + 1) (delivered + 1) tally :: rest }
      machine.step number scheduler := by
  let next : Machine :=
    { machine with agenda := .sweep (line + 1) (delivered + 1) tally :: rest }
  have still : next.isAlive number = true := by
    -- A sweep works on no scheduler, so it keeps none alive.
    simp only [isAlive, agenda, List.any_cons] at alive
    exact alive
  have begun : machine.step = next.beginPass number true := by
    rw [step_cons agenda]
    simp only [carryOut, sweep, looked, ready, if_true, handles]
    exact if_pos still
  have listening : next.Listens := listens
  have there : next.scheduler? number = some scheduler := found
  rw [begun]
  exact .of_busy listening there busy true

/-- In every reachable state, whatever the works, executors, handlers and hooks call. -/
theorem execution_exclusive (reachable : Reachable machine)
    (found : machine.scheduler? number = some scheduler) :
    machine.Exclusive number scheduler := by
  have owns (history : History) (followed : Followed number machine history) (task : TaskHandle)
      (record : TaskRecord Work) (work : Work)
      (here : scheduler.table.find? task = some record) (has : record.work = some work) :
      history.Owns task work := by
    apply followed.owned.attached task record work _ has
    rw [Focus.record?, focus, found]
    exact here
  constructor
  case links => exact reachable.links found
  case out =>
    intro task record here occupied
    exact reachable.out found here occupied
  -- Two running tasks would both be carried by the one link there is.
  case alone =>
    intro task other record held here there running runs
    obtain ⟨_, link, work, one, carries⟩ := reachable.out found here (.inl running)
    obtain ⟨_, link', work', one', carries'⟩ := reachable.out found there (.inl runs)
    cases one.symm.trans one'
    cases carries.symm.trans carries'
    rfl
  case leaves =>
    intro task record here running
    exact reachable.step_running found here running
  case executions =>
    intro run work rest agenda
    exact reachable.executions agenda
  case called =>
    intro busy current call rest asks agenda owned
    exact called_putOff reachable.listens found busy owned asks agenda
  case delivered =>
    intro busy line alive
    simp only [deliver, alive, if_true]
    exact .of_busy reachable.listens found busy true
  case interrupted =>
    intro busy line delivered tally rest state agenda looked ready handles alive
    exact interrupted_putOff reachable.listens found busy alive agenda looked ready handles
  case owns => exact owns
  case dispatches =>
    intro wakes current task rest agenda work after claimed
    obtain ⟨own, rfl⟩ := reachable.claim_work found agenda claimed
    refine ⟨own, rfl, fun history followed => ?_⟩
    obtain ⟨record, here, _, _, has, _⟩ := TaskTable.claim_cases claimed
    exact owns history followed task record own here has.symm

/-- A machine whose pass runs a work that asks for another pass. -/
def nested : Machine :=
  let alone : Nat → Option Script := fun _ => none
  let turn : Turn Call := ⟨[.scheduler 0 .runPass], .done⟩
  let set := (boot 0).exec 1 (.init ⟨1000000, 0, 7, 2⟩ .inline) alone
  let made := set.exec 4 (.scheduler 0 (.create [turn] .default)) alone
  let queued := made.exec 4 (.scheduler 0 (.insert (some ⟨0, 0⟩) 0 10)) alone
  (queued.start (.scheduler 0 .runPass) alone).run 11

theorem nested_tracked : Tracked 0 nested 20 := by
  unfold nested exec
  refine .run (.start (.run (.start ?_ _ _ rfl) 4 (by decide)) _ _ rfl) 11 (by decide)
  exact .run (.start (.run (.start (.boot 0 0) _ _ rfl) 1 (by decide)) _ _ rfl) 4 (by decide)

/-- The inner request is put off and counted, and the line is raised again, while the
task whose work asked is running. -/
theorem nested_excluded :
    ∃ scheduler history, nested.scheduler? 0 = some scheduler ∧ Followed 0 nested history ∧
      scheduler.inPass = true ∧ scheduler.statistics.coalesced = 0 ∧
      nested.irq.isPending 7 = false ∧ nested.step.irq.isPending 7 = true ∧
      ((nested.step.scheduler? 0).map fun after => after.statistics.coalesced) = some 1 ∧
      nested.step.reply = .ok (.outcome .idle) ∧
      ((nested.duties 0).filter Activity.isLink).length = 1 := by
  obtain ⟨history, followed, _⟩ := nested_tracked
  have found : nested.scheduler? 0 = some _ := rfl
  have exclusive := execution_exclusive followed.reachable found
  have putOff := exclusive.called rfl _ .runPass _ (.inr rfl) rfl rfl
  refine ⟨_, history, found, followed, rfl, rfl, rfl, putOff.raised, ?_, ?_, exclusive.links⟩
  · rw [putOff.counted]
    rfl
  · rw [putOff.rest]

end Machine

end EdfKernel
