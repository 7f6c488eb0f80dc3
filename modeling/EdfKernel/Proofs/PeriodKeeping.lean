import EdfKernel.Proofs.GentleRuns
import EdfKernel.Proofs.PeriodicCopies

/-!
A timer-driven pipeline keeps its period. From the first copy on, the clock is moved on by
the distance of the copies, again and again; by induction on the number of moves each finds
the pipeline as the one before left it, one copy later.
-/

namespace EdfKernel

namespace Machine

/-- Calls made one after the other, each with nobody to interpose and run until the machine
is at rest; the copy of pipeline `p` begins at these instants. -/
inductive Session (p : Nat) : Machine → List Call → List Ticks → Machine → Prop where
  | nil (machine : Machine) : Session p machine [] [] machine
  | cons {machine last : Machine} {call : Call} {calls : List Call} {instants : List Ticks}
      (steps : Nat) : machine.agenda = [] →
      ((machine.start call fun _ => none).run steps).agenda = [] →
      Session p ((machine.start call fun _ => none).run steps) calls instants last →
      Session p machine (call :: calls)
        ((machine.start call fun _ => none).copyInstants p steps ++ instants) last

namespace Session

variable {p : Nat} {machine middle last : Machine} {calls more : List Call}
  {instants later : List Ticks}

theorem append (first : Session p machine calls instants middle)
    (second : Session p middle more later last) :
    Session p machine (calls ++ more) (instants ++ later) last := by
  induction first with
  | nil => exact second
  | cons steps idle rest _ ih =>
      rw [List.append_assoc]
      exact .cons steps idle rest (ih second)

end Session

end Machine

namespace Scene

open Machine

variable {number p : Nat} {scene after : Scene} {pipeline : Pipeline} {routine : Routine}
  {record again : TaskRecord Work} {config : SchedulerConfig} {turns : List (Turn Call)}
  {copies start : Nat} {machine : Machine}

theorem Leads.session {call : Call} {instants : List Ticks}
    (leads : Leads number p scene [.call none call] instants after [])
    (shows : machine.Shows number scene []) :
    ∃ next, Session p machine [call] instants next ∧ next.Shows number after [] := by
  have begins : (machine.start call fun _ => none).Shows number scene [.call none call] :=
    ⟨fun _ => rfl, shows.clock, shows.irq, shows.armed, shows.scheduler, shows.pipelines,
      shows.events, rfl⟩
  obtain ⟨steps, arrived, seen⟩ := leads _ begins
  have whole := Session.cons steps shows.agenda arrived.agenda
    (@Session.nil p ((machine.start call fun _ => none).run steps))
  rw [seen, List.append_nil] at whole
  exact ⟨_, whole, arrived⟩

/-- So many copies have been run, and the platform is at rest until the next one starts. -/
structure InPeriod (scene : Scene) (p : Nat) (pipeline : Pipeline) (config : SchedulerConfig)
    (turns : List (Turn Call)) (copies start : Nat) (record : TaskRecord Work) : Prop where
  awaits : scene.Awaits p pipeline ⟨turns, copies⟩ record
  configured : scene.scheduler.config = config
  clock : scene.clock.toNat + (config.stride pipeline.desc.deadlineUs).toNat = start
  starts : record.timing.start.toNat = start
  ends : record.timing.deadline.toNat = start + (config.toTicks pipeline.desc.deadlineUs).toNat
  budget : record.timing.maxRuntime = pipeline.desc.maxRuntime
  misses : record.missedDeadlines = 0
  armed : scene.armed = some ⟨record.timing.start, .scheduler pipeline.scheduler⟩
  lowered : scene.irq.isPending config.line = false
  events : scene.events.toList =
    (List.range copies).map fun k => .copy pipeline.desc.id (k + 1)
  lapses : scene.lapses = (0, 0, 0)

/-- A copy that has been run, with the timer armed for the next, begins another period. -/
theorem Copied.inPeriod (copied : scene.Copied after p pipeline ⟨turns, copies⟩ record again)
    (configured : scene.scheduler.config = config)
    (armed : after.armed = some ⟨again.timing.start, .scheduler pipeline.scheduler⟩)
    (lowered : after.irq.isPending after.scheduler.config.line = false)
    (budget : record.timing.maxRuntime = pipeline.desc.maxRuntime)
    (misses : record.missedDeadlines = 0)
    (events : scene.events.toList =
      (List.range copies).map fun k => .copy pipeline.desc.id (k + 1))
    (lapses : scene.lapses = (0, 0, 0)) :
    after.InPeriod p pipeline config turns (copies + 1)
      (scene.clock.toNat + (config.stride pipeline.desc.deadlineUs).toNat) again := by
  subst configured
  exact
    { awaits := copied.awaits
      configured := copied.config
      clock := by rw [copied.clock]
      starts := copied.window.starts
      ends := by rw [copied.window.ends, copied.window.starts]
      budget := copied.budget.trans budget
      misses := copied.misses.trans misses
      armed := armed
      lowered := by rw [← copied.config]; exact lowered
      events := by
        rw [copied.events, Array.toList_push, events, List.range_succ, List.map_append]
        rfl
      lapses := copied.lapses.trans lapses }

namespace InPeriod

theorem advance (period : scene.InPeriod p pipeline config turns copies start record)
    (cheap : config.scheduleCost < config.toTicks pipeline.desc.deadlineUs)
    (brief : pipeline.desc.maxRuntime < config.toTicks pipeline.desc.deadlineUs)
    (room : start + (config.stride pipeline.desc.deadlineUs).toNat +
      (config.toTicks pipeline.desc.deadlineUs).toNat < Ticks.last.toNat) :
    ∃ after again instant,
      after.InPeriod p pipeline config turns (copies + 1)
        (start + (config.stride pipeline.desc.deadlineUs).toNat) again ∧
      instant.toNat = start ∧
      Leads pipeline.scheduler p scene
        [.call none (.platform (.advance (config.stride pipeline.desc.deadlineUs)))] [instant]
        after [] := by
  have configured := period.configured
  subst configured
  let line := scene.scheduler.config.line
  let instant := scene.clock.satAdd (scene.scheduler.config.stride pipeline.desc.deadlineUs)
  have arrived : instant.toNat = start := by
    have clock := period.clock
    rw [Ticks.toNat_last] at room
    rw [Ticks.toNat_satAdd]
    omega
  have due : record.timing.start ≤ instant :=
    UInt64.le_iff_toNat_le.mpr (Nat.le_of_eq (period.starts.trans arrived.symm))
  -- On arrival the timer is due, and raises the line; the copy is queued as it was.
  let moved : Scene := { scene with clock := instant }
  let woken : Scene := { moved with armed := none, irq := scene.irq.request line }
  have awaits : woken.Awaits p pipeline ⟨turns, copies⟩ record :=
    ⟨⟨period.awaits.inline, period.awaits.free, period.awaits.idle, period.awaits.serves.request,
      period.awaits.found, period.awaits.driven, period.awaits.silent⟩, period.awaits.active,
      period.awaits.lone, period.awaits.queued, period.awaits.work⟩
  have pending : woken.irq.isPending woken.scheduler.config.line = true := by
    change (scene.irq.request line).isPending line = true
    simp [Controller.isPending_request, line, period.awaits.serves.inside]
  have runtime := UInt64.lt_iff_toNat_lt.mp brief
  have ends := period.ends
  have timely : record.timing.isMissed woken.clock = false := by
    apply Timing.isMissed_eq_false
    change instant.toNat + _ < _
    rw [period.budget]
    omega
  obtain ⟨after, again, copied, armed, lowered, leads⟩ :=
    @Awaits.settles p woken pipeline ⟨turns, copies⟩ record [] 61 0 true awaits pending rfl due
      timely (by omega) cheap (by rw [period.budget]; exact brief)
      (by change instant.toNat + _ + _ < _; rw [arrived]; exact room)
  have next := copied.inPeriod rfl armed lowered period.budget period.misses period.events
    period.lapses
  have fires : Leads pipeline.scheduler p moved [.round stepRounds 0] [] woken
      [.dispatch (.round 63 0 true)] :=
    Leads.round_due period.armed due awaits.isAlive
  refine ⟨after, again, instant, ?_, arrived, ?_⟩
  · rw [← arrived]
    exact next
  · exact ((Leads.call_advance none _).trans fires).trans leads

theorem run (period : scene.InPeriod p pipeline config turns copies start record)
    (shows : machine.Shows pipeline.scheduler scene [])
    (cheap : config.scheduleCost < config.toTicks pipeline.desc.deadlineUs)
    (brief : pipeline.desc.maxRuntime < config.toTicks pipeline.desc.deadlineUs) (n : Nat)
    (room : start + n * (config.stride pipeline.desc.deadlineUs).toNat +
      (config.toTicks pipeline.desc.deadlineUs).toNat < Ticks.last.toNat) :
    ∃ instants last after again,
      Session p machine
        (List.replicate n (.platform (.advance (config.stride pipeline.desc.deadlineUs))))
        instants last ∧
      instants.map UInt64.toNat = (List.range n).map (fun k =>
        start + k * (config.stride pipeline.desc.deadlineUs).toNat) ∧
      last.Shows pipeline.scheduler after [] ∧
      after.InPeriod p pipeline config turns (copies + n)
        (start + n * (config.stride pipeline.desc.deadlineUs).toNat) again := by
  induction n with
  | zero =>
      refine ⟨[], machine, scene, record, .nil machine, rfl, shows, ?_⟩
      rw [Nat.zero_mul]
      exact period
  | succ n ih =>
      rw [Nat.succ_mul] at room
      obtain ⟨instants, middle, between, again, before, seen, halfway, still⟩ := ih (by omega)
      obtain ⟨after, last, instant, next, arrived, leads⟩ := still.advance cheap brief (by omega)
      obtain ⟨final, one, shown⟩ := leads.session halfway
      refine ⟨instants ++ [instant], final, after, last, ?_, ?_, shown, ?_⟩
      · rw [List.replicate_succ']
        exact before.append one
      · rw [List.map_append, seen, List.range_succ, List.map_append]
        simp [arrived]
      · rw [Nat.succ_mul, ← Nat.add_assoc start]
        exact next

end InPeriod

def started (scene : Scene) (p : Nat) (table : TaskTable Work) : Scene :=
  { scene with
    irq := scene.irq.request scene.scheduler.config.line
    scheduler := { scene.scheduler with table }
    pipelines := scene.pipelines.modify p Pipeline.activate }

theorem Hosts.awaits_of_start (hosts : scene.Hosts p pipeline routine)
    (empty : scene.scheduler.table.queue = [])
    (found : scene.scheduler.table.find? pipeline.task = some record)
    (idle : record.state ≠ .running) (work : record.work = some (.copy p routine))
    (room : scene.clock <
      scene.clock.satAdd (scene.scheduler.config.toTicks pipeline.desc.deadlineUs)) :
    ∃ table again,
      (scene.started p table).Awaits p pipeline.activate routine again ∧
      again.timing = ⟨scene.clock,
        scene.clock.satAdd (scene.scheduler.config.toTicks pipeline.desc.deadlineUs),
        record.timing.maxRuntime⟩ ∧
      again.missedDeadlines = record.missedDeadlines ∧
      Leads pipeline.scheduler p scene [.call none (.pipeline p (.command .start))] []
        (scene.started p table) [] := by
  have called : Leads pipeline.scheduler p scene [.call none (.pipeline p (.command .start))] []
      { scene with pipelines := scene.pipelines.modify p Pipeline.activate }
      [.acquire pipeline.scheduler (.insert pipeline.task 0 pipeline.desc.deadlineUs)] :=
    Leads.call_start none hosts.found hosts.driven
  obtain ⟨table, lone, inserted⟩ :=
    @Leads.insert pipeline.scheduler p
      { scene with pipelines := scene.pipelines.modify p Pipeline.activate } [] pipeline.task
      record 0 pipeline.desc.deadlineUs scene.clock _ hosts.free empty found idle rfl rfl room
  let queued : TaskRecord Work :=
    { record with
      state := .queued
      timing := ⟨scene.clock,
        scene.clock.satAdd (scene.scheduler.config.toTicks pipeline.desc.deadlineUs),
        record.timing.maxRuntime⟩ }
  refine ⟨table, queued, ?_, rfl, rfl, called.trans inserted⟩
  have there : (scene.pipelines.modify p Pipeline.activate)[p]? = some pipeline.activate := by
    simp [hosts.found]
  exact ⟨⟨hosts.inline, hosts.free, hosts.idle, hosts.serves.request, there, hosts.driven,
    hosts.silent⟩, rfl, lone, rfl, work⟩

theorem Awaits.copied_of_step (awaits : scene.Awaits p pipeline routine record)
    (pending : scene.irq.isPending scene.scheduler.config.line = true)
    (unarmed : scene.armed = none) (due : record.timing.start ≤ scene.clock)
    (timely : record.timing.isMissed scene.clock = false)
    (near : record.timing.deadline.toNat < Ticks.last.toNat)
    (cheap : scene.scheduler.config.scheduleCost <
      scene.scheduler.config.toTicks pipeline.desc.deadlineUs)
    (brief : record.timing.maxRuntime < scene.scheduler.config.toTicks pipeline.desc.deadlineUs)
    (room : scene.clock.toNat + (scene.scheduler.config.stride pipeline.desc.deadlineUs).toNat +
      (scene.scheduler.config.toTicks pipeline.desc.deadlineUs).toNat < Ticks.last.toNat) :
    ∃ after again, scene.Copied after p pipeline routine record again ∧
      after.armed = some ⟨again.timing.start, .scheduler pipeline.scheduler⟩ ∧
      after.irq.isPending after.scheduler.config.line = false ∧
      Leads pipeline.scheduler p scene [.call none (.platform .step)] [scene.clock] after [] := by
  obtain ⟨after, again, copied, armed, lowered, leads⟩ :=
    @settles p scene pipeline routine record [] 61 0 false awaits pending unarmed due timely near
      cheap brief room
  have polled : Leads pipeline.scheduler p scene [.round stepRounds 0] [] scene
      [.dispatch (.round 63 0 false)] :=
    Leads.round_early (by simp [unarmed])
  exact ⟨after, again, copied, armed, lowered, ((Leads.call_step none).trans polled).trans leads⟩

/-! ### From the boot on -/

section Boot

variable (config : SchedulerConfig) (desc : PipelineDesc) (turns : List (Turn Call))
  (instant : Ticks)

def furnished : Scene where
  clock := instant
  irq := (listening config.line).enable config.line
  armed := none
  scheduler := .fresh config .inline
  pipelines := []
  events := #[]

def equipped : Scene :=
  { furnished config instant with
    scheduler :=
      { Scheduler.fresh config .inline with
        table := ⟨[⟨0, some (.fresh (.copy 0 (.ofTurns turns)) desc.settings)⟩], [], [],
          config.maxTasks⟩
        issued := [⟨0, 0⟩] }
    pipelines := [⟨0, ⟨0, 0⟩, desc, false, false⟩] }

variable {config desc turns instant}

theorem furnished_serves (valid : config.fault? = none) :
    (furnished config instant).irq.Serves 0 config.line where
  unmasked := by simp [furnished, Controller.enable, listening, Controller.quiet]
  own := by
    have inside := (valid_config valid).1
    simp [furnished, Controller.enable, Controller.isPending, Controller.line?_modify,
      line?_listening inside]
  others n apart other found := by
    simp only [furnished, Controller.enable, Controller.line?_modify, apart, if_false,
      line?_listening (valid_config valid).1] at found
    split at found
    · cases found
      rfl
    · cases found

theorem session_init (valid : config.fault? = none) :
    ∃ machine, Session p (boot instant) [.init config .inline] [] machine ∧
      machine.Shows 0 (furnished config instant) [] := by
  -- Setting a scheduler up is one step, so the machine at rest is known outright.
  have equal := @alone_eq instant config .inline valid
  have settled : (((boot instant).start (.init config .inline) fun _ => none).run 1) =
      alone instant config .inline := rfl
  have rest : (alone instant config .inline).agenda = [] := by
    rw [equal]
    rfl
  have whole := Session.cons 1 rfl (settled ▸ rest)
    (@Session.nil p (((boot instant).start (.init config .inline) fun _ => none).run 1))
  refine ⟨_, whole, ?_⟩
  rw [settled, equal]
  exact ⟨fun _ => rfl, rfl, rfl, rfl, rfl, rfl, rfl, rfl⟩

theorem session_createPipeline (valid : config.fault? = none) :
    Leads 0 p (furnished config instant) [.call none (.scheduler 0 (.createPipeline desc turns))]
      [] (equipped config desc turns instant) [] := by
  have room := (valid_config valid).2
  have made : (Section.createPipeline desc (.ofTurns turns)).effect (.fresh config .inline) 0
      instant 0 =
      { Effect.answer
          { Scheduler.fresh config .inline with
            table := ⟨[⟨0, some (.fresh (.copy 0 (.ofTurns turns)) desc.settings)⟩], [], [],
              config.maxTasks⟩
            issued := [⟨0, 0⟩] } (.handle ⟨0, 0⟩) with
        notices := [.registered ⟨0, 0⟩ 1 config.maxTasks desc.settings,
          .pipelineCreated desc.id ⟨0, 0⟩]
        attaches := some ⟨0, ⟨0, 0⟩, desc, false, false⟩ } := by
    simp [Section.effect, Effect.createPipeline, Effect.create, Scheduler.create, Scheduler.fresh,
      TaskTable.alloc, TaskTable.empty, Effect.answer, Effect.quiet, TaskTable.size,
      Nat.not_le.mpr room]
  have called : Leads 0 p (furnished config instant)
      [.call none (.scheduler 0 (.createPipeline desc turns))] [] (furnished config instant)
      [.acquire 0 (.createPipeline desc (.ofTurns turns))] :=
    Leads.call_scheduler none rfl rfl
  have carried : Leads 0 p (furnished config instant)
      [.acquire 0 (.createPipeline desc (.ofTurns turns))] [] (equipped config desc turns instant)
      [] := @Leads.carry 0 p (furnished config instant) [] _ rfl _ made
  exact called.trans carried

theorem equipped_hosts (valid : config.fault? = none) (driven : desc.timerDriven = true)
    (silent : ∀ turn ∈ turns, turn.calls = []) :
    (equipped config desc turns instant).Hosts 0 ⟨0, ⟨0, 0⟩, desc, false, false⟩
      (.ofTurns turns) where
  inline := rfl
  free := rfl
  idle := rfl
  serves := @furnished_serves config instant valid
  found := rfl
  driven := driven
  silent := silent

theorem session_first_copy (valid : config.fault? = none) (driven : desc.timerDriven = true)
    (silent : ∀ turn ∈ turns, turn.calls = [])
    (cheap : config.scheduleCost < config.toTicks desc.deadlineUs)
    (brief : desc.maxRuntime < config.toTicks desc.deadlineUs)
    (room : instant.toNat + (config.stride desc.deadlineUs).toNat +
      (config.toTicks desc.deadlineUs).toNat < Ticks.last.toNat) :
    ∃ machine scene record,
      Session 0 (boot instant)
        [.init config .inline, .scheduler 0 (.createPipeline desc turns),
          .pipeline 0 (.command .start), .platform .step] [instant] machine ∧
      machine.Shows 0 scene [] ∧
      scene.InPeriod 0 ⟨0, ⟨0, 0⟩, desc, true, false⟩ config turns 1
        (instant.toNat + (config.stride desc.deadlineUs).toNat) record := by
  have runtime := UInt64.lt_iff_toNat_lt.mp brief
  have closes : (instant.satAdd (config.toTicks desc.deadlineUs)).toNat =
      instant.toNat + (config.toTicks desc.deadlineUs).toNat := by
    rw [Ticks.toNat_last] at room
    rw [Ticks.toNat_satAdd]
    omega
  have opens : instant < instant.satAdd (config.toTicks desc.deadlineUs) := by
    rw [UInt64.lt_iff_toNat_lt]
    omega
  obtain ⟨platform, booted, bare⟩ := @session_init 0 config instant valid
  obtain ⟨ready, made, shown⟩ :=
    (@session_createPipeline 0 config desc turns instant valid).session bare
  obtain ⟨table, record, awaits, timing, misses, starts⟩ :=
    (@equipped_hosts config desc turns instant valid driven silent).awaits_of_start rfl rfl nofun
      rfl opens
  obtain ⟨active, commanded, seen⟩ := starts.session shown
  replace timing : record.timing =
      ⟨instant, instant.satAdd (config.toTicks desc.deadlineUs), desc.maxRuntime⟩ := timing
  have pending : ((equipped config desc turns instant).irq.request config.line).isPending
      config.line = true := by
    simp [Controller.isPending_request, (valid_config valid).1]
  have timely : record.timing.isMissed instant = false := by
    apply Timing.isMissed_eq_false
    rw [timing]
    dsimp only
    omega
  obtain ⟨after, again, copied, armed, lowered, steps⟩ :=
    awaits.copied_of_step pending rfl (by rw [timing]; exact UInt64.le_refl instant) timely
      (by rw [timing]; dsimp only; omega) cheap (by rw [timing]; exact brief) room
  obtain ⟨settled, stepped, rested⟩ := steps.session seen
  refine ⟨settled, after, again, ((booted.append made).append commanded).append stepped, rested,
    ?_⟩
  exact copied.inPeriod rfl armed lowered (by rw [timing]; rfl) misses rfl rfl

end Boot

end Scene

namespace Machine

open Scene

/-- A timer-driven pipeline keeps its period for any number of periods. It is started at
`start` on a platform of its own, with a copy that calls nothing; then there is one step, and
`n` times the clock is moved on by the distance of two copies. -/
theorem timerDriven_keeps_period (config : SchedulerConfig) (desc : PipelineDesc)
    (turns : List (Turn Call)) (start : Ticks) (n : Nat) (valid : config.fault? = none)
    (driven : desc.timerDriven = true) (silent : ∀ turn ∈ turns, turn.calls = [])
    (cheap : config.scheduleCost < config.toTicks desc.deadlineUs)
    (brief : desc.maxRuntime < config.toTicks desc.deadlineUs)
    (room : start.toNat + (n + 1) * (config.stride desc.deadlineUs).toNat +
      (config.toTicks desc.deadlineUs).toNat < Ticks.last.toNat) :
    ∃ instants last scheduler record,
      Session 0 (boot start)
        ([.init config .inline, .scheduler 0 (.createPipeline desc turns),
          .pipeline 0 (.command .start), .platform .step] ++
          List.replicate n (.platform (.advance (config.stride desc.deadlineUs))))
        instants last ∧
      instants.map UInt64.toNat = (List.range (n + 1)).map (fun k =>
        start.toNat + k * (config.stride desc.deadlineUs).toNat) ∧
      last.events.toList = (List.range (n + 1)).map (fun k => .copy desc.id (k + 1)) ∧
      last.scheduler? 0 = some scheduler ∧
      scheduler.table.queue = [⟨0, 0⟩] ∧ scheduler.table.find? ⟨0, 0⟩ = some record ∧
      record.state = .queued ∧
      record.timing.start.toNat = start.toNat + (n + 1) * (config.stride desc.deadlineUs).toNat ∧
      record.timing.deadline.toNat =
        record.timing.start.toNat + (config.toTicks desc.deadlineUs).toNat ∧
      last.timer.slot = some ⟨record.timing.start, .scheduler 0⟩ ∧
      last.irq.isPending config.line = false ∧
      record.missedDeadlines = 0 ∧ scheduler.statistics.deadlineMisses = 0 ∧
      scheduler.statistics.repairs = 0 ∧ scheduler.statistics.exhaustedRepairs = 0 ∧
      last.pipelines[0]? = some ⟨0, ⟨0, 0⟩, desc, true, false⟩ := by
  -- The first copy begins in the step of the session, each of the others in one advance.
  rw [Nat.succ_mul] at room ⊢
  obtain ⟨begun, scene, first, copied, shown, period⟩ :=
    @session_first_copy config desc turns start valid driven silent cheap brief (by omega)
  obtain ⟨instants, last, final, record, moved, times, rested, kept⟩ :=
    period.run shown cheap brief n (by dsimp only; omega)
  dsimp only at kept
  obtain ⟨missed, rest⟩ := Prod.mk.inj kept.lapses
  obtain ⟨repaired, exhausted⟩ := Prod.mk.inj rest
  refine ⟨start :: instants, last, final.scheduler, record, copied.append moved, ?_, ?_,
    rested.scheduler, kept.awaits.lone.queue, kept.awaits.lone.found, kept.awaits.queued, ?_, ?_,
    rested.armed.trans kept.armed, ?_, kept.misses, missed, repaired, exhausted, ?_⟩
  · rw [List.map_cons, times, List.range_succ_eq_map, List.map_cons, List.map_map, Nat.zero_mul]
    refine congrArg (List.cons _) (List.map_congr_left fun k _ => ?_)
    rw [Function.comp_apply, Nat.succ_mul]
    dsimp only
    omega
  · rw [rested.events, kept.events, Nat.add_comm 1 n]
  · rw [kept.starts]
    omega
  · rw [kept.ends, kept.starts]
  · rw [rested.irq]
    exact kept.lowered
  · rw [rested.pipelines]
    exact kept.awaits.found

/-- A megahertz clock, and 200 ticks for a decision. -/
def costly : SchedulerConfig := ⟨1000000, 200, 7, 2⟩

/-- A copy every 1000 ticks, less the decision, with a budget of 100. -/
def metronome : PipelineDesc := ⟨1, 1000, 100, 0, 0, true⟩

theorem metronome_keeps_period :
    ∃ instants last,
      Session 0 (boot 500)
        [.init costly .inline, .scheduler 0 (.createPipeline metronome []),
          .pipeline 0 (.command .start), .platform .step, .platform (.advance 800),
          .platform (.advance 800)] instants last ∧
      instants.map UInt64.toNat = [500, 1300, 2100] ∧
      last.events.toList = [.copy 1 1, .copy 1 2, .copy 1 3] := by
  obtain ⟨instants, last, _, _, session, times, copies, _⟩ :=
    timerDriven_keeps_period costly metronome [] 500 2 (by decide) rfl nofun (by decide)
      (by decide) (by decide)
  have stride : costly.stride metronome.deadlineUs = 800 := by decide
  rw [stride] at session times
  exact ⟨instants, last, session, times, copies⟩

end Machine

end EdfKernel
