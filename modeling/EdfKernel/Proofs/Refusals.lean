import EdfKernel.Proofs.LockedSections

/-!
A call that is refused says why, and leaves no trace. A caller's section ends in one of five
ways: nothing lives under the handle, the task is running, the window would be empty, the
table is full, or it is done. Each of the first four is met before anything is changed, and
only that a task was running is counted. The same holds of setting up a scheduler, whose two
obstacles are a fault in its configuration and a line that has a handler.
-/

namespace EdfKernel

def SchedulerError.isBusy : SchedulerError → Bool
  | busy _ => true
  | _ => false

namespace TaskTable

variable {ω : Type}

theorem idle?_cases (table : TaskTable ω) (task : TaskHandle) :
    (table.find? task = none ∧ table.idle? task = .error (.unknownTask task)) ∨
      ∃ record, table.find? task = some record ∧
        ((record.state = .running ∧ table.idle? task = .error (.busy task)) ∨
          (record.state ≠ .running ∧ table.idle? task = .ok record)) := by
  cases found : table.find? task with
  | none => exact .inl ⟨rfl, (idle?_eq_unknownTask_iff table task).mpr found⟩
  | some record =>
      refine .inr ⟨record, rfl, ?_⟩
      by_cases running : record.state = .running
      · exact .inl ⟨running, (idle?_eq_busy_iff table task).mpr ⟨record, found, running⟩⟩
      · exact .inr ⟨running, (idle?_eq_ok_iff table task record).mpr ⟨found, running⟩⟩

end TaskTable

namespace Section

def changes? : Section → Option TaskHandle
  | configure task _ | retire task | insert task _ _ | cancel task | complete task => some task
  | _ => none

/-- The task that a section changes only if it is not running. -/
def guards? : Section → Option TaskHandle
  | configure task _ | retire task | insert task _ _ | cancel task => some task
  | _ => none

theorem changes?_of_guards? {part : Section} {task : TaskHandle}
    (guards : part.guards? = some task) : part.changes? = some task := by
  cases part with
  | configure | retire | insert | cancel => exact guards
  | _ => cases guards

theorem changes?_of_newcomer? {part : Section} {pipelines : Nat}
    {newcomer : Work × TaskSettings} (brings : part.newcomer? pipelines = some newcomer) :
    part.changes? = none := by
  cases part with
  | create | createPipeline => rfl
  | _ => cases brings

/-- How a section that makes a task or changes one may end. -/
inductive Settles (part : Section) (scheduler : Scheduler) (pipelines : Nat) : Effect → Prop where
  | unknown (task : TaskHandle) (changes : part.changes? = some task)
      (absent : scheduler.table.find? task = none) :
      Settles part scheduler pipelines (.refusal scheduler (.unknownTask task))
  | busy (task : TaskHandle) (record : TaskRecord Work) (guards : part.guards? = some task)
      (found : scheduler.table.find? task = some record) (running : record.state = .running) :
      Settles part scheduler pipelines (.refusal scheduler (.busy task))
  | empty (task : TaskHandle) (record : TaskRecord Work) (startUs deadlineUs : UInt64)
      (inserts : part = .insert task startUs deadlineUs)
      (found : scheduler.table.find? task = some record) (idle : record.state ≠ .running) :
      Settles part scheduler pipelines (.refusal scheduler (.invalidWindow task deadlineUs))
  | full (newcomer : Work × TaskSettings) (brings : part.newcomer? pipelines = some newcomer)
      (crowded : scheduler.table.liveTasks.length = scheduler.config.maxTasks) :
      Settles part scheduler pipelines
        { Effect.refusal scheduler (.tableFull scheduler.config.maxTasks) with
          notices := [.tableFull scheduler.config.maxTasks] }
  | done (effect : Effect) (answer : Answer) (replies : effect.reply = some (.ok answer))
      (ended : effect.next = [])
      (lives : ∀ task, part.changes? = some task →
        ∃ record, scheduler.table.find? task = some record ∧
          (part.guards? = some task → record.state ≠ .running))
      (room : ∀ newcomer, part.newcomer? pipelines = some newcomer →
        scheduler.table.liveTasks.length ≠ scheduler.config.maxTasks) :
      Settles part scheduler pipelines effect

variable {scheduler : Scheduler} {part : Section} {pipelines : Nat} {task : TaskHandle}

theorem Settles.of_guards (task : TaskHandle) {effect : Effect} (guards : part.guards? = some task)
    (refused : ∀ error, scheduler.table.idle? task = .error error →
      effect = .refusal scheduler error)
    (goes : ∀ record, scheduler.table.find? task = some record → record.state ≠ .running →
      scheduler.table.idle? task = .ok record → part.Settles scheduler pipelines effect) :
    part.Settles scheduler pipelines effect := by
  rcases scheduler.table.idle?_cases task with
    ⟨absent, unknown⟩ | ⟨record, found, ⟨running, busy⟩ | ⟨idle, live⟩⟩
  · rw [refused _ unknown]
    exact .unknown task (changes?_of_guards? guards) absent
  · rw [refused _ busy]
    exact .busy task record guards found running
  · exact goes record found idle live

theorem Settles.of_done (task : TaskHandle) (answer : Answer) {effect : Effect}
    {record : TaskRecord Work}
    (changes : part.changes? = some task) (found : scheduler.table.find? task = some record)
    (idle : part.guards? = some task → record.state ≠ .running)
    (replies : effect.reply = some (.ok answer)) (ended : effect.next = []) :
    part.Settles scheduler pipelines effect := by
  refine .done effect answer replies ended ?_ ?_
  · intro other same
    rw [changes] at same
    cases same
    exact ⟨record, found, idle⟩
  · intro newcomer brings
    rw [changes?_of_newcomer? brings] at changes
    cases changes

theorem Settles.create (sound : scheduler.TableSound) {work : Work} {settings : TaskSettings}
    (brings : part.newcomer? pipelines = some (work, settings)) :
    part.Settles scheduler pipelines (.create scheduler work settings) := by
  have full := sound.consistent.alloc_eq_none_iff (.fresh work settings)
  rw [sound.sized] at full
  cases taken : scheduler.table.alloc (.fresh work settings) with
  | none =>
      have refused : Effect.create scheduler work settings =
          { Effect.refusal scheduler (.tableFull scheduler.config.maxTasks) with
            notices := [.tableFull scheduler.config.maxTasks] } := by
        simp only [Effect.create, Scheduler.create, taken, Option.map_none, sound.sized]
      rw [refused]
      exact .full _ brings (full.mp taken)
  | some pair =>
      have room : scheduler.table.liveTasks.length ≠ scheduler.config.maxTasks := by
        intro crowded
        rw [full.mpr crowded] at taken
        cases taken
      refine .done _ (.handle pair.1) ?_ ?_ ?_ fun _ _ => room
      · simp only [Effect.create, Scheduler.create, taken, Option.map_some]
        rfl
      · simp only [Effect.create, Scheduler.create, taken, Option.map_some]
        rfl
      · intro task changes
        rw [changes?_of_newcomer? brings] at changes
        cases changes

/-- Every section that makes a task or changes one ends in one of these ways. -/
theorem settles (sound : scheduler.TableSound) (number : Nat) (clock : Ticks)
    (alters : part.changes?.isSome ∨ (part.newcomer? pipelines).isSome) :
    part.Settles scheduler pipelines (part.effect scheduler number clock pipelines) := by
  cases part with
  | create routine settings => exact Settles.create sound rfl
  | createPipeline desc routine =>
      have created : (createPipeline desc routine).Settles scheduler pipelines
          (.create scheduler (.copy pipelines routine) desc.settings) := .create sound rfl
      simp only [effect, Effect.createPipeline]
      generalize Effect.create scheduler (.copy pipelines routine) desc.settings = made at created ⊢
      split
      case h_1 task replies =>
        cases created with
        | done _ answer _ ended lives room => exact .done _ (.handle task) replies ended lives room
        | _ => cases replies
      case h_2 => exact created
  | configure task settings =>
      refine .of_guards task rfl ?_ ?_
      · intro error refused
        simp only [effect, Effect.change, TaskTable.configure, refused, Except.map]
      · intro record found idle live
        simp only [effect, Effect.change, TaskTable.configure, live, Except.map]
        exact .of_done task .done rfl found (fun _ => idle) rfl rfl
  | retire task =>
      refine .of_guards task rfl ?_ ?_
      · intro error refused
        simp only [effect, Effect.retire, TaskTable.retire, refused, Except.map]
      · intro record found idle live
        simp only [effect, Effect.retire, TaskTable.retire, live, Except.map]
        exact .of_done task .done rfl found (fun _ => idle) rfl rfl
  | cancel task =>
      refine .of_guards task rfl ?_ ?_
      · intro error refused
        simp only [effect, Effect.change, TaskTable.cancel, refused, Except.map]
      · intro record found idle live
        simp only [effect, Effect.change, TaskTable.cancel, live, Except.map]
        exact .of_done task .done rfl found (fun _ => idle) rfl rfl
  | insert task startUs deadlineUs =>
      refine .of_guards task rfl ?_ ?_
      · intro error refused
        simp only [effect, Effect.insert, TaskTable.insert, refused]
      · intro record found idle live
        simp only [effect, Effect.insert, TaskTable.insert, live]
        split
        case h_1 error refused =>
          split at refused
          case isTrue =>
            cases refused
            exact .empty task record startUs deadlineUs rfl found idle
          case isFalse => cases refused
        case h_2 => exact .of_done task .done rfl found (fun _ => idle) rfl rfl
  | complete task =>
      cases found : scheduler.table.find? task with
      | none =>
          simp only [effect, Effect.change, TaskTable.complete, found]
          exact .unknown task rfl found
      | some record =>
          simp only [effect, Effect.change, TaskTable.complete, found]
          refine .of_done task .done rfl found ?_ rfl rfl
          intro guards
          cases guards
  | _ => rcases alters with alters | alters <;> cases alters

variable {effect : Effect}

theorem Settles.eq_of_absent (settles : part.Settles scheduler pipelines effect)
    (changes : part.changes? = some task) (absent : scheduler.table.find? task = none) :
    effect = .refusal scheduler (.unknownTask task) := by
  cases settles with
  | unknown other same =>
      cases same.symm.trans changes
      rfl
  | busy other record guards found =>
      cases (changes?_of_guards? guards).symm.trans changes
      cases absent.symm.trans found
  | empty other record startUs deadlineUs inserts found =>
      subst inserts
      cases changes
      cases absent.symm.trans found
  | full newcomer brings =>
      rw [changes?_of_newcomer? brings] at changes
      cases changes
  | done _ answer replies ended lives =>
      obtain ⟨record, found, _⟩ := lives task changes
      cases absent.symm.trans found

theorem Settles.unknown_iff (settles : part.Settles scheduler pipelines effect) (before : Reply)
    (changes : part.changes? = some task) :
    effect.reply.getD before = .failed (.scheduler (.unknownTask task)) ↔
      scheduler.table.find? task = none := by
  constructor
  · intro failed
    cases settles with
    | unknown other same absent =>
        cases failed
        exact absent
    | busy | empty | full => cases failed
    | done _ answer replies =>
        rw [replies] at failed
        cases failed
  · intro absent
    rw [settles.eq_of_absent changes absent]
    rfl

theorem Settles.busy_iff (settles : part.Settles scheduler pipelines effect) (before : Reply)
    (guards : part.guards? = some task) :
    effect.reply.getD before = .failed (.scheduler (.busy task)) ↔
      ∃ record, scheduler.table.find? task = some record ∧ record.state = .running := by
  have changes := changes?_of_guards? guards
  cases settles with
  | unknown other same absent =>
      cases same.symm.trans changes
      simp [Effect.refusal, absent]
  | busy other record same found running =>
      cases same.symm.trans guards
      exact ⟨fun _ => ⟨record, found, running⟩, fun _ => rfl⟩
  | empty other record startUs deadlineUs inserts found idle =>
      subst inserts
      cases guards
      simp [Effect.refusal, found, idle]
  | full newcomer brings =>
      rw [changes?_of_newcomer? brings] at changes
      cases changes
  | done _ answer replies ended lives =>
      obtain ⟨record, found, idle⟩ := lives task changes
      simp [replies, found, idle guards]

theorem Settles.complete_unknown
    (settles : (complete task).Settles scheduler pipelines effect) {before : Reply}
    {failure : Failure} (failed : effect.reply.getD before = .failed failure) :
    failure = .scheduler (.unknownTask task) := by
  cases settles with
  | unknown other same absent =>
      cases same
      cases failed
      rfl
  | busy other record guards => cases guards
  | empty other record startUs deadlineUs inserts => cases inserts
  | full newcomer brings => cases brings
  | done _ answer replies =>
      rw [replies] at failed
      cases failed

theorem Settles.full_iff (settles : part.Settles scheduler pipelines effect) (before : Reply)
    {newcomer : Work × TaskSettings} (brings : part.newcomer? pipelines = some newcomer) :
    ((∃ failure, effect.reply.getD before = .failed failure) ↔
        scheduler.table.liveTasks.length = scheduler.config.maxTasks) ∧
      ∀ failure, effect.reply.getD before = .failed failure →
        failure = .scheduler (.tableFull scheduler.config.maxTasks) := by
  have makes := changes?_of_newcomer? brings
  cases settles with
  | unknown task changes =>
      rw [makes] at changes
      cases changes
  | busy task record guards =>
      rw [changes?_of_guards? guards] at makes
      cases makes
  | empty task record startUs deadlineUs inserts =>
      subst inserts
      cases makes
  | full other same crowded =>
      refine ⟨⟨fun _ => crowded, fun _ => ⟨_, rfl⟩⟩, ?_⟩
      intro failure failed
      cases failed
      rfl
  | done _ answer replies ended lives room =>
      have apart := room newcomer brings
      simp [replies, apart]

theorem Settles.refused (settles : part.Settles scheduler pipelines effect) {before : Reply}
    {failure : Failure} (failed : effect.reply.getD before = .failed failure) :
    ∃ error notices, failure = .scheduler error ∧
      effect = { Effect.refusal scheduler error with notices } := by
  cases settles with
  | unknown | busy | empty | full =>
      cases failed
      exact ⟨_, _, rfl, rfl⟩
  | done _ answer replies =>
      rw [replies] at failed
      cases failed

theorem Settles.next (settles : part.Settles scheduler pipelines effect) : effect.next = [] := by
  cases settles with
  | unknown | busy | empty | full => rfl
  | done _ _ _ ended => exact ended

end Section

theorem Scheduler.refuse_eq {scheduler : Scheduler} (free : scheduler.locked = false)
    (error : SchedulerError) :
    { scheduler.refuse error with locked := false } =
      { scheduler with
        statistics :=
          { scheduler.statistics with
            busyRejections := scheduler.statistics.busyRejections +
              if error.isBusy then 1 else 0 } } := by
  rw [← free]
  cases error <;> simp [refuse, SchedulerError.isBusy]

/-- What stands in the way of a scheduler: a fault in its configuration or, if there is
none, that its line has a handler. -/
inductive SchedulerConfig.Obstacle (config : SchedulerConfig) (irq : Controller Handler) :
    SchedulerError → Prop where
  | fault (fault : ConfigFault) (found : config.fault? = some fault) :
      Obstacle config irq (.invalidConfig fault)
  | taken (valid : config.fault? = none) (handled : (irq.handler? config.line).isSome) :
      Obstacle config irq (.line (.alreadyRegistered config.line))

theorem SchedulerConfig.Obstacle.unique {config : SchedulerConfig} {irq : Controller Handler}
    {error other : SchedulerError} (first : config.Obstacle irq error)
    (second : config.Obstacle irq other) : error = other := by
  cases first with
  | fault fault found =>
      cases second with
      | fault other same =>
          cases found.symm.trans same
          rfl
      | taken valid => cases found.symm.trans valid
  | taken valid =>
      cases second with
      | fault other same => cases valid.symm.trans same
      | taken => rfl

namespace Machine

variable {machine : Machine}

theorem initScheduler_cases (machine : Machine) (config : SchedulerConfig)
    (executor : Executor Call) :
    (∃ error, config.Obstacle machine.irq error ∧
      machine.initScheduler config executor =
        { machine with
          schedulers := machine.schedulers ++ [none]
          reply := .failed (.scheduler error) }) ∨
      (∀ error, ¬ config.Obstacle machine.irq error) ∧
        (machine.initScheduler config executor).reply = .ok (.config config) := by
  cases valid : config.fault? with
  | some fault =>
      refine .inl ⟨.invalidConfig fault, .fault fault valid, ?_⟩
      simp only [initScheduler, valid]
      rfl
  | none =>
      have inside := (valid_config valid).1
      obtain ⟨line, found⟩ := Option.isSome_iff_exists.mp
        ((machine.irq.line?_isSome config.line).trans (decide_eq_true inside))
      have handles : machine.irq.handler? config.line = line.handler := by
        rw [Controller.handler?, found]
        rfl
      by_cases handled : line.handler.isSome = true
      · refine .inl ⟨.line (.alreadyRegistered config.line), .taken valid (handles ▸ handled), ?_⟩
        simp only [initScheduler, valid, Controller.register, found, handled, if_true]
        rfl
      · refine .inr ⟨?_, ?_⟩
        · intro error obstacle
          cases obstacle with
          | fault fault found =>
              rw [valid] at found
              cases found
          | taken _ taken => exact handled (handles ▸ taken)
        · simp only [initScheduler, valid, Controller.register, found, handled]
          rfl

/-- Errors tell exactly what stood in the way, and a call that fails has changed nothing but
the count of refusals, and that only if the task was running: the slots, the queue and the
free slots are as before, and so are the interrupt lines, the mask depth, the timer and
the clock. -/
theorem errors_exact_and_atomic (reachable : Reachable machine) :
    (∀ number scheduler part rest steps, machine.Poised number scheduler part rest steps →
      part.changes?.isSome ∨ (part.newcomer? machine.pipelines.length).isSome →
      (machine.run steps).agenda = rest ∧
      (∀ task, part.changes? = some task →
        ((machine.run steps).reply = .failed (.scheduler (.unknownTask task)) ↔
          scheduler.table.find? task = none)) ∧
      (∀ task, part.guards? = some task →
        ((machine.run steps).reply = .failed (.scheduler (.busy task)) ↔
          ∃ record, scheduler.table.find? task = some record ∧ record.state = .running)) ∧
      (∀ task failure, part = .complete task → (machine.run steps).reply = .failed failure →
        failure = .scheduler (.unknownTask task)) ∧
      (∀ newcomer, part.newcomer? machine.pipelines.length = some newcomer →
        ((∃ failure, (machine.run steps).reply = .failed failure) ↔
            scheduler.table.liveTasks.length = scheduler.config.maxTasks) ∧
          ∀ failure, (machine.run steps).reply = .failed failure →
            failure = .scheduler (.tableFull scheduler.config.maxTasks)) ∧
      ∀ failure, (machine.run steps).reply = .failed failure →
        ∃ error acquisitions notices, failure = .scheduler error ∧
          machine.run steps =
            { machine with
              schedulers := machine.schedulers.set number (some
                { scheduler with
                  statistics :=
                    { scheduler.statistics with
                      busyRejections := scheduler.statistics.busyRejections +
                        if error.isBusy then 1 else 0 } })
              acquisitions
              notices
              reply := .failed failure
              agenda := rest }) ∧
    ∀ current config executor rest,
      machine.agenda = .call current (.init config executor) :: rest →
      (∀ failure, machine.step.reply = .failed failure ↔
        ∃ error, config.Obstacle machine.irq error ∧ failure = .scheduler error) ∧
      ∀ failure, machine.step.reply = .failed failure →
        machine.step =
          { machine with
            schedulers := machine.schedulers ++ [none]
            reply := .failed failure
            agenda := rest } := by
  constructor
  · intro number scheduler part rest steps poised alters
    obtain ⟨acquisitions, ran⟩ := poised.run reachable
    have sound := reachable.tableSound poised.found
    have settles := part.settles sound number machine.clock alters
    -- From here on it only matters how the section ended, not which one it was.
    generalize part.effect scheduler number machine.clock machine.pipelines.length = effect
      at ran settles
    have ended : (machine.run steps).agenda = rest := by
      rw [ran]
      simp only [enact, settles.next, List.nil_append]
    have replies : (machine.run steps).reply = effect.reply.getD machine.reply := by rw [ran]; rfl
    rw [replies]
    refine ⟨ended, fun task => settles.unknown_iff _, fun task => settles.busy_iff _, ?_,
      fun newcomer => settles.full_iff _, ?_⟩
    · rintro task failure rfl failed
      exact settles.complete_unknown failed
    · intro failure failed
      obtain ⟨error, notices, rfl, rfl⟩ := settles.refused failed
      refine ⟨error, acquisitions, machine.notices ++ notices.toArray, rfl, ?_⟩
      have same := Scheduler.refuse_eq (poised.free reachable) error
      rw [ran, ← same]
      simp [enact, Effect.refusal, Effect.quiet]
  · intro current config executor rest agenda
    have stepped := step_cons agenda
    simp only [carryOut, perform] at stepped
    rcases initScheduler_cases { machine with agenda := rest } config executor with
      ⟨error, obstacle, failed⟩ | ⟨clear, replied⟩
    · rw [failed] at stepped
      rw [stepped]
      refine ⟨fun failure => ⟨?_, ?_⟩, ?_⟩
      · intro replies
        cases replies
        exact ⟨error, obstacle, rfl⟩
      · rintro ⟨other, same, rfl⟩
        rw [obstacle.unique same]
      · intro failure replies
        cases replies
        rfl
    · rw [stepped, replied]
      refine ⟨fun failure => ⟨?_, ?_⟩, ?_⟩
      · intro replies
        cases replies
      · rintro ⟨error, obstacle, _⟩
        exact absurd obstacle (clear error)
      · intro failure replies
        cases replies

/-- A machine on which a task that is running is about to ask for its own end. -/
def dismissing : Machine :=
  let alone : Nat → Option Script := fun _ => none
  let turn : Turn Call := ⟨[.scheduler 0 (.retire none)], .done⟩
  let set := (boot 0).exec 1 (.init ⟨1000000, 0, 7, 2⟩ .inline) alone
  let made := set.exec 4 (.scheduler 0 (.create [turn] .default)) alone
  let queued := made.exec 4 (.scheduler 0 (.insert (some ⟨0, 0⟩) 0 1000)) alone
  queued.exec 11 (.scheduler 0 .runPass) alone

theorem dismissing_reachable : Reachable dismissing := by
  unfold dismissing
  refine .exec (.exec (.exec ?_ rfl _ _ _) rfl _ _ _) rfl _ _ _
  exact .exec (.boot 0) rfl _ _ _

/-- It is refused, that is counted, and the slots are as they were. -/
theorem dismissing_refused :
    (dismissing.run 4).reply = .failed (.scheduler (.busy ⟨0, 0⟩)) ∧
      ∃ before after, dismissing.scheduler? 0 = some before ∧
        (dismissing.run 4).scheduler? 0 = some after ∧ after.table = before.table ∧
        after.statistics.busyRejections = before.statistics.busyRejections + 1 := by
  have found : dismissing.scheduler? 0 = some _ := rfl
  have agenda : dismissing.agenda = .call (some ⟨0, 0⟩) (.scheduler 0 (.retire none)) :: _ := rfl
  have poised : dismissing.Poised 0 _ (.retire ⟨0, 0⟩) _ 4 :=
    .asking (some ⟨0, 0⟩) _ found rfl agenda rfl rfl
  obtain ⟨sections, _⟩ := errors_exact_and_atomic dismissing_reachable
  obtain ⟨_, _, busy, _, _, atomic⟩ := sections 0 _ _ _ 4 poised (.inl rfl)
  have refused := (busy ⟨0, 0⟩ rfl).mpr ⟨_, rfl, rfl⟩
  obtain ⟨error, _, _, same, left⟩ := atomic _ refused
  cases same
  have there := congrArg (fun machine => machine.scheduler? 0) left
  have kept := there.trans (scheduler?_setScheduler_self dismissing 0 _ _ found)
  exact ⟨refused, _, _, found, kept, rfl, rfl⟩

end Machine

end EdfKernel
