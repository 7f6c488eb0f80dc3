import EdfKernel.Proofs.LonePasses

/-!
A timer-driven pipeline on a platform of its own. Each copy queues the next one a period
later, less what deciding costs, and the run that follows in the same step arms the timer
for it; so the copies follow each other at one distance for as long as the clock is moved
on by it, and nothing is ever late.
-/

namespace EdfKernel

namespace SchedulerConfig

/-- How far apart the turns of a task start that asks for each a period of `us` after the
last. -/
def stride (config : SchedulerConfig) (us : UInt64) : Ticks :=
  config.toTicks us - config.scheduleCost

theorem toNat_stride {config : SchedulerConfig} {us : UInt64}
    (cheap : config.scheduleCost < config.toTicks us) :
    (config.stride us).toNat + config.scheduleCost.toNat = (config.toTicks us).toNat := by
  rw [stride, UInt64.toNat_sub_of_le _ _ (UInt64.le_of_lt cheap)]
  exact Nat.sub_add_cancel (UInt64.le_iff_toNat_le.mp (UInt64.le_of_lt cheap))

end SchedulerConfig

/-- The window that a periodic task is given at `now` for its next turn. -/
structure NextWindow (config : SchedulerConfig) (us : UInt64) (now start deadline : Ticks) :
    Prop where
  made : TaskTable.startAfter config now now us = start
  closed : start.satAdd (config.toTicks us) = deadline
  starts : start.toNat = now.toNat + (config.stride us).toNat
  ends : deadline.toNat = start.toNat + (config.toTicks us).toNat

namespace NextWindow

variable {config : SchedulerConfig} {us : UInt64} {now start deadline : Ticks}

theorem exists_of_room (cheap : config.scheduleCost < config.toTicks us)
    (room : now.toNat + (config.stride us).toNat + (config.toTicks us).toNat <
      Ticks.last.toNat) :
    ∃ start deadline, NextWindow config us now start deadline := by
  have less : config.scheduleCost.toNat < (config.toTicks us).toNat :=
    UInt64.lt_iff_toNat_lt.mp cheap
  have some' : us ≠ 0 := by
    rintro rfl
    have none : (config.toTicks 0).toNat = 0 := by
      simp [SchedulerConfig.toTicks, Ticks.toNat_ofMicros]
    omega
  have stride := SchedulerConfig.toNat_stride cheap
  rw [Ticks.toNat_last] at room
  have starts : (TaskTable.startAfter config now now us).toNat =
      now.toNat + (config.stride us).toNat := by
    rw [TaskTable.startAfter, if_neg some', Ticks.toNat_satSub, Ticks.toNat_satAdd]
    omega
  refine ⟨_, _, rfl, rfl, starts, ?_⟩
  rw [Ticks.toNat_satAdd]
  omega

theorem later (next : NextWindow config us now start deadline)
    (cheap : config.scheduleCost < config.toTicks us) : now < start := by
  have stride := SchedulerConfig.toNat_stride cheap
  have less := UInt64.lt_iff_toNat_lt.mp cheap
  have starts := next.starts
  rw [UInt64.lt_iff_toNat_lt]
  omega

theorem wide (next : NextWindow config us now start deadline)
    (cheap : config.scheduleCost < config.toTicks us) : start < deadline := by
  have less := UInt64.lt_iff_toNat_lt.mp cheap
  have ends := next.ends
  rw [UInt64.lt_iff_toNat_lt]
  omega

end NextWindow

namespace Timing

variable {timing : Timing} {current : Ticks}

theorem isMissed_eq_false
    (before : current.toNat + timing.maxRuntime.toNat < timing.deadline.toNat) :
    timing.isMissed current = false := by
  rw [← Bool.not_eq_true, isMissed_iff]
  omega

theorem slack_lt_last (timely : timing.isMissed current = false)
    (near : timing.deadline.toNat < Ticks.last.toNat) :
    timing.effectiveDeadline - current < Ticks.last := by
  have after : current ≤ timing.effectiveDeadline :=
    UInt64.le_of_lt (UInt64.not_le.mp (of_decide_eq_false timely))
  rw [UInt64.lt_iff_toNat_lt, UInt64.toNat_sub_of_le _ _ after, toNat_effectiveDeadline]
  omega

end Timing

namespace Routine

def IsSilent (routine : Routine) : Prop := ∀ turn ∈ routine.turns, turn.calls = []

theorem IsSilent.turn_calls {routine : Routine} (silent : routine.IsSilent) :
    routine.turn.calls = [] := by
  unfold turn
  split
  case h_1 turn found => exact silent turn (List.mem_of_getElem? found)
  case h_2 =>
    have member : routine.turns.getLastD ⟨[], .done⟩ ∈ ⟨[], .done⟩ :: routine.turns :=
      List.getLastD_mem_cons
    rcases List.mem_cons.mp member with none | last
    · rw [none]
    · exact silent _ last

theorem IsSilent.advance {routine : Routine} (silent : routine.IsSilent) :
    routine.advance.IsSilent := silent

end Routine

namespace Scene

open Machine

variable {p : Nat} {scene after : Scene} {pipeline : Pipeline} {routine : Routine}
  {record again : TaskRecord Work} {rest : List Activity}

structure Hosts (scene : Scene) (p : Nat) (pipeline : Pipeline) (routine : Routine) : Prop where
  inline : scene.scheduler.executor = .inline
  free : scene.scheduler.locked = false
  idle : scene.scheduler.inPass = false
  serves : scene.irq.Serves pipeline.scheduler scene.scheduler.config.line
  found : scene.pipelines[p]? = some pipeline
  driven : pipeline.desc.timerDriven = true
  silent : routine.IsSilent

theorem Hosts.isAlive (hosts : scene.Hosts p pipeline routine) :
    scene.IsAlive pipeline.scheduler rest := by
  have carries : scene.pipelines.any (·.scheduler = pipeline.scheduler) = true :=
    List.any_eq_true.mpr ⟨pipeline, List.mem_of_getElem? hosts.found, by simp⟩
  rw [IsAlive, carries, Bool.or_true, Bool.true_or]

structure Awaits (scene : Scene) (p : Nat) (pipeline : Pipeline) (routine : Routine)
    (record : TaskRecord Work) : Prop extends scene.Hosts p pipeline routine where
  active : pipeline.active = true
  lone : scene.scheduler.table.Lone pipeline.task record
  queued : record.state = .queued
  work : record.work = some (.copy p routine)

def lapses (scene : Scene) : UInt64 × UInt64 × UInt64 :=
  (scene.scheduler.statistics.deadlineMisses, scene.scheduler.statistics.repairs,
    scene.scheduler.statistics.exhaustedRepairs)

structure Copied (scene after : Scene) (p : Nat) (pipeline : Pipeline) (routine : Routine)
    (record again : TaskRecord Work) : Prop where
  awaits : after.Awaits p pipeline routine.advance again
  clock : after.clock = scene.clock
  config : after.scheduler.config = scene.scheduler.config
  events : after.events = scene.events.push (.copy pipeline.desc.id (routine.runs + 1))
  lapses : after.lapses = scene.lapses
  window : NextWindow scene.scheduler.config pipeline.desc.deadlineUs scene.clock
    again.timing.start again.timing.deadline
  budget : again.timing.maxRuntime = record.timing.maxRuntime
  misses : again.missedDeadlines = record.missedDeadlines

def waiting (scene : Scene) (number : Nat) (instant : Ticks) : Scene :=
  { scene with
    irq := scene.irq.clear scene.scheduler.config.line
    armed := some ⟨instant, .scheduler number⟩
    scheduler := scene.scheduler.beginPass.endPass }

namespace Awaits

variable {rounds delivered : Nat} {fired : Bool}

theorem copies (awaits : scene.Awaits p pipeline routine record)
    (pending : scene.irq.isPending scene.scheduler.config.line = true)
    (due : record.timing.start ≤ scene.clock)
    (timely : record.timing.isMissed scene.clock = false)
    (near : record.timing.deadline.toNat < Ticks.last.toNat)
    (cheap : scene.scheduler.config.scheduleCost <
      scene.scheduler.config.toTicks pipeline.desc.deadlineUs)
    {start deadline : Ticks}
    (next : NextWindow scene.scheduler.config pipeline.desc.deadlineUs scene.clock start deadline) :
    ∃ after again, scene.Copied after p pipeline routine record again ∧
      again.timing = ⟨start, deadline, record.timing.maxRuntime⟩ ∧ after.armed = scene.armed ∧
      after.irq.isPending after.scheduler.config.line = true ∧
      Leads pipeline.scheduler p scene (.dispatch (.round rounds delivered fired) :: rest)
        [scene.clock] after (.round rounds (delivered + 1) :: rest) := by
  have again : pipeline.status =
      .reschedule pipeline.desc.deadlineUs pipeline.desc.deadlineUs := by
    simp [Pipeline.status, awaits.driven, awaits.active]
  obtain ⟨table, lone, copied⟩ :=
    @Leads.pass_copies pipeline.scheduler p
      { scene with
        irq := scene.irq.clear scene.scheduler.config.line
        scheduler := scene.scheduler.beginPass }
      (.sweep (scene.scheduler.config.line + 1) 1 (.round rounds delivered fired) :: rest)
      pipeline.task record true awaits.inline awaits.free awaits.lone awaits.queued timely
      (Timing.slack_lt_last timely near) due routine awaits.work awaits.silent.turn_calls pipeline
      awaits.found _ _ again start deadline next.made next.closed (next.wide cheap)
  have served := awaits.serves.clear.request
  have leads := Leads.round_of_pass awaits.serves pending awaits.isAlive awaits.idle copied
    rfl served
  have raised : ((scene.irq.clear scene.scheduler.config.line).request
      scene.scheduler.config.line).isPending scene.scheduler.config.line = true := by
    simp [Controller.isPending_request, awaits.serves.inside]
  have inline : (scene.scheduler.beginPass.countDispatch.endPass).executor = .inline :=
    congrArg Executor.advance awaits.inline
  let requeued : TaskRecord Work :=
    { record with
      state := .queued
      timing := ⟨start, deadline, record.timing.maxRuntime⟩
      work := some (.copy p routine.advance) }
  refine ⟨_, requeued, ?_, rfl, ?_, ?_, leads⟩
  · exact ⟨⟨⟨inline, awaits.free, rfl, served, awaits.found, awaits.driven,
      awaits.silent.advance⟩, awaits.active, lone, rfl, rfl⟩, rfl, rfl, rfl, rfl, next, rfl, rfl⟩
  · rfl
  · exact raised

theorem arms (awaits : scene.Awaits p pipeline routine record)
    (pending : scene.irq.isPending scene.scheduler.config.line = true)
    (timely : record.timing.isMissed scene.clock = false)
    (near : record.timing.deadline.toNat < Ticks.last.toNat)
    (early : scene.clock < record.timing.start) :
    (scene.waiting pipeline.scheduler record.timing.start).Awaits p pipeline routine record ∧
      Leads pipeline.scheduler p scene (.dispatch (.round rounds delivered fired) :: rest) []
        (scene.waiting pipeline.scheduler record.timing.start)
        (.round rounds (delivered + 1) :: rest) := by
  have served := awaits.serves.clear
  have pass := @Leads.pass_early pipeline.scheduler p
    { scene with
      irq := scene.irq.clear scene.scheduler.config.line
      scheduler := scene.scheduler.beginPass }
    (.sweep (scene.scheduler.config.line + 1) 1 (.round rounds delivered fired) :: rest)
    pipeline.task record awaits.free awaits.lone awaits.queued timely
    (Timing.slack_lt_last timely near) early
  exact ⟨⟨⟨awaits.inline, awaits.free, rfl, served, awaits.found, awaits.driven, awaits.silent⟩,
    awaits.active, awaits.lone, awaits.queued, awaits.work⟩,
    Leads.round_of_pass awaits.serves pending awaits.isAlive awaits.idle pass rfl served⟩

theorem settles (awaits : scene.Awaits p pipeline routine record)
    (pending : scene.irq.isPending scene.scheduler.config.line = true)
    (unarmed : scene.armed = none) (due : record.timing.start ≤ scene.clock)
    (timely : record.timing.isMissed scene.clock = false)
    (near : record.timing.deadline.toNat < Ticks.last.toNat)
    (cheap : scene.scheduler.config.scheduleCost <
      scene.scheduler.config.toTicks pipeline.desc.deadlineUs)
    (brief : record.timing.maxRuntime < scene.scheduler.config.toTicks pipeline.desc.deadlineUs)
    (room : scene.clock.toNat + (scene.scheduler.config.stride pipeline.desc.deadlineUs).toNat +
      (scene.scheduler.config.toTicks pipeline.desc.deadlineUs).toNat < Ticks.last.toNat) :
    ∃ after again, scene.Copied after p pipeline routine record again ∧
      after.armed = some ⟨again.timing.start, .scheduler pipeline.scheduler⟩ ∧
      after.irq.isPending after.scheduler.config.line = false ∧
      Leads pipeline.scheduler p scene
        (.dispatch (.round (rounds + 2) delivered fired) :: rest) [scene.clock] after rest := by
  -- Three rounds: the first runs the copy and finds the line raised again by its insertion,
  -- the second comes early and arms the timer, the third finds nothing to do.
  obtain ⟨start, deadline, next⟩ := NextWindow.exists_of_room cheap room
  obtain ⟨between, again, copied, timing, armed, raised, copies⟩ :=
    @copies p scene pipeline routine record rest (rounds + 2) delivered fired awaits pending due
      timely near cheap start deadline next
  have early : between.clock < again.timing.start := by
    rw [copied.clock, timing]
    exact next.later cheap
  have timely' : again.timing.isMissed between.clock = false := by
    apply Timing.isMissed_eq_false
    have ends := copied.window.ends
    have runtime := UInt64.lt_iff_toNat_lt.mp brief
    have later := UInt64.lt_iff_toNat_lt.mp early
    rw [copied.budget]
    omega
  have near' : again.timing.deadline.toNat < Ticks.last.toNat := by
    rw [copied.window.ends, copied.window.starts]
    exact room
  obtain ⟨awaits', arms⟩ :=
    @arms p between pipeline routine.advance again rest (rounds + 1) (delivered + 1) false
      copied.awaits raised timely' near' early
  let after := between.waiting pipeline.scheduler again.timing.start
  have lowered : after.irq.isPending after.scheduler.config.line = false := by
    change (between.irq.clear between.scheduler.config.line).isPending
      between.scheduler.config.line = false
    simp [Controller.isPending_clear]
  have second : Leads pipeline.scheduler p between
      (.round (rounds + 2) (delivered + 1) :: rest) [] after
      (.round (rounds + 1) (delivered + 1 + 1) :: rest) :=
    (Leads.round_early (by simp [armed, unarmed])).trans arms
  have third : Leads pipeline.scheduler p after
      (.round (rounds + 1) (delivered + 1 + 1) :: rest) [] after rest := by
    refine (Leads.round_early fun arming armed => ?_).trans
      (Leads.dispatch_idle awaits'.serves lowered)
    cases armed
    exact UInt64.not_le.mpr early
  refine ⟨after, again, ?_, rfl, lowered, (copies.trans second).trans third⟩
  exact
    { awaits := awaits'
      clock := copied.clock
      config := copied.config
      events := copied.events
      lapses := copied.lapses
      window := copied.window
      budget := copied.budget
      misses := copied.misses }

end Awaits

end Scene

end EdfKernel
