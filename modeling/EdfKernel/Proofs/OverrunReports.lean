import EdfKernel.Proofs.PipelinePersistence

/-!
What a pipeline that was started makes known. It remembers whether an overrun was reported
since its last start; so when the selector has given its task up, asking for the deadline
reports that, once. With its persistence this leaves no way to fall silent: at rest its task is
queued, or what happened to it is there to be told.
-/

namespace EdfKernel

namespace Machine

variable {machine : Machine} {p number : Nat} {task : TaskHandle} {past : List Machine}
  {pipeline : Pipeline} {scheduler : Scheduler} {record : TaskRecord Work} {period : UInt64}

def ReportsNext (p : Nat) (machine : Machine) : Prop :=
  machine.agenda.head?.bind Activity.reports? = some p ∧
    ∃ pipeline bytes, machine.pipelines[p]? = some pipeline ∧
      machine.step.events = machine.events.push (.xrun pipeline.desc.id bytes)

theorem reportXrun_tells (machine : Machine) (p : Nat) (pipeline : Pipeline) (bytes : UInt32) :
    (machine.reportXrun p pipeline bytes).agenda = machine.agenda ∧
      (machine.reportXrun p pipeline bytes).reply = .ok (.flag pipeline.mayReport) ∧
      (machine.reportXrun p pipeline bytes).events =
        if pipeline.mayReport then machine.events.push (.xrun pipeline.desc.id bytes)
        else machine.events := by
  unfold reportXrun
  cases pipeline.mayReport <;> exact ⟨rfl, rfl, rfl⟩

theorem step_xrun {bytes : UInt32} {below : List Activity}
    (agenda : machine.agenda = .xrun p bytes :: below)
    (found : machine.pipelines[p]? = some pipeline) :
    machine.step = ({ machine with agenda := below } : Machine).reportXrun p pipeline bytes := by
  have here : ({ machine with agenda := below } : Machine).pipelines[p]? = some pipeline := found
  rw [step_cons agenda]
  simp only [carryOut, here, Option.map_some, Option.getD_some]

theorem step_reports {activity : Activity} {below : List Activity}
    (agenda : machine.agenda = activity :: below) (reports : activity.reports? = some p)
    (found : machine.pipelines[p]? = some pipeline) :
    ∃ bytes, machine.step = ({ machine with agenda := below } : Machine).reportXrun p pipeline
      bytes := by
  cases activity with
  | call current call =>
      cases call with
      | pipeline other call =>
          cases call with
          | xrun bytes =>
              cases reports
              have here : ({ machine with agenda := below } : Machine).pipelines[p]? =
                  some pipeline := found
              rw [step_cons agenda]
              exact ⟨bytes, by simp only [carryOut, perform, here, performPipeline]⟩
          | _ => cases reports
      | _ => cases reports
  | xrun other bytes =>
      cases reports
      exact ⟨bytes, step_xrun agenda found⟩
  | _ => cases reports

theorem reportsNext_iff {activity : Activity} {below : List Activity}
    (agenda : machine.agenda = activity :: below)
    (found : machine.pipelines[p]? = some pipeline) :
    machine.ReportsNext p ↔ activity.reports? = some p ∧ pipeline.mayReport = true := by
  have first : machine.agenda.head?.bind Activity.reports? = activity.reports? := by
    rw [agenda]
    rfl
  unfold ReportsNext
  rw [first]
  refine and_congr_right fun reports => ?_
  obtain ⟨bytes, stepped⟩ := step_reports agenda reports found
  rw [stepped, (reportXrun_tells _ p pipeline bytes).2.2]
  constructor
  · rintro ⟨other, size, _, told⟩
    by_contra silent
    rw [if_neg silent] at told
    have longer := congrArg Array.size told
    simp at longer
  · intro may
    exact ⟨pipeline, bytes, found, if_pos may⟩

theorem step_xrunReported (machine : Machine) (p : Nat) :
    (machine.step.pipelines[p]?).any (·.xrunReported) = true ↔
      machine.ReportsNext p ∨
        ¬ StartsNext p machine ∧ (machine.pipelines[p]?).any (·.xrunReported) = true := by
  cases found : machine.pipelines[p]? with
  | none =>
      have silent : ¬ machine.ReportsNext p := by
        rintro ⟨_, pipeline, _, there, _⟩
        cases found.symm.trans there
      have unmarked : (machine.step.pipelines[p]?).any (·.xrunReported) = false := by
        cases there : machine.step.pipelines[p]? with
        | none => rfl
        | some made =>
            obtain ⟨_, _, _, _, _, _, _, _, attaches⟩ := step_attaches found there
            obtain ⟨_, _, rfl⟩ := Section.attaches_cases attaches
            obtain ⟨_, _, rfl⟩ := Effect.reply_of_attaches attaches
            rfl
      simp [silent, unmarked]
  | some pipeline =>
      cases agenda : machine.agenda with
      | nil =>
          rw [step_of_isIdle machine (by simp [isIdle, agenda]), found]
          simp [ReportsNext, StartsNext, agenda]
      | cons activity below =>
          rw [step_alters agenda found, reportsNext_iff agenda found, StartsNext, agenda]
          exact activity.xrunReported_alters p pipeline

/-- A pipeline remembers whether an overrun was reported since its last start. -/
theorem Trail.xrunReported_iff (trail : Trail past machine) :
    (machine.pipelines[p]?).any (·.xrunReported) = true ↔
      Since (ReportsNext p) (StartsNext p) past := by
  induction trail with
  | boot start =>
      constructor
      · intro marked
        cases marked
      · intro since
        cases since
  | start _ _ _ _ ih => exact ih
  | @step past machine _ ih => rw [step_xrunReported, ih, since_cons]

theorem step_checkDeadline {current : Option TaskHandle} {below : List Activity}
    (agenda : machine.agenda = .call current (.pipeline p .checkDeadline) :: below)
    (there : machine.pipelines[p]? = some pipeline) :
    machine.step =
      { machine with
        agenda := .acquire pipeline.scheduler (.checkDeadline p pipeline.task) :: below } := by
  have here : ({ machine with agenda := below } : Machine).pipelines[p]? = some pipeline := there
  rw [step_cons agenda]
  simp only [carryOut, perform, here, performPipeline]
  rfl

theorem Reachable.run_checkDeadline (reachable : Reachable machine)
    {current : Option TaskHandle} {below : List Activity}
    (agenda : machine.agenda = .call current (.pipeline p .checkDeadline) :: below)
    (alone : machine.interposed = fun _ => none) (there : machine.pipelines[p]? = some pipeline)
    (held : machine.scheduler? pipeline.scheduler = some scheduler)
    (found : scheduler.table.find? pipeline.task = some record)
    (missed : record.state = .cancelled .deadlineMissed) :
    (machine.run 4).agenda = .xrun p 0 :: below ∧ (machine.run 4).pipelines = machine.pipelines ∧
      (machine.run 4).events = machine.events := by
  have asked : machine.run 2 =
      { machine with
        acquisitions := machine.acquisitions + 1
        agenda := .enter pipeline.scheduler (.checkDeadline p pipeline.task) :: below } := by
    rw [run_succ, run_succ, Machine.run, step_checkDeadline agenda there]
    exact step_acquire_alone rfl (congrFun alone _)
  have waiting := reachable.run 2
  have entering : (machine.run 2).agenda =
      .enter pipeline.scheduler (.checkDeadline p pipeline.task) :: below := by rw [asked]
  have holds : (machine.run 2).scheduler? pipeline.scheduler = some scheduler := by
    rw [asked]
    exact held
  have late : (Section.checkDeadline p pipeline.task).effect scheduler pipeline.scheduler
      (machine.run 2).clock (machine.run 2).pipelines.length =
        { Effect.quiet scheduler with next := [.xrun p 0] } := by
    simp only [Section.effect, Effect.checkDeadline, TaskTable.check, found, missed, if_true]
  have free := waiting.free_of_agenda holds entering fun leaves => by cases leaves
  have checked := run_section entering holds free
  rw [late, ← run_add] at checked
  rw [checked, asked]
  simp [enact, Effect.quiet]

structure Tells (machine : Machine) (p : Nat) (id : UInt32) (told : Bool) : Prop where
  returned : (machine.exec 5 (.pipeline p .checkDeadline) fun _ => none).agenda = []
  replied :
    (machine.exec 5 (.pipeline p .checkDeadline) fun _ => none).reply = .ok (.flag told)
  reported : (machine.exec 5 (.pipeline p .checkDeadline) fun _ => none).events =
    if told then machine.events.push (.xrun id 0) else machine.events

theorem Reachable.tells (reachable : Reachable machine) (rest : machine.agenda = [])
    (there : machine.pipelines[p]? = some pipeline)
    (held : machine.scheduler? pipeline.scheduler = some scheduler)
    (found : scheduler.table.find? pipeline.task = some record)
    (missed : record.state = .cancelled .deadlineMissed) :
    machine.Tells p pipeline.desc.id pipeline.mayReport := by
  have called := reachable.start (.pipeline p .checkDeadline) (fun _ => none) rest
  obtain ⟨agenda, pipelines, events⟩ := called.run_checkDeadline rfl rfl there held found missed
  have reports := step_xrun agenda (pipelines ▸ there)
  obtain ⟨back, replies, tells⟩ := reportXrun_tells _ p pipeline 0
  have checked : (machine.exec 5 (.pipeline p .checkDeadline) fun _ => none) = _ :=
    (run_add _ 4 1).trans ((run_succ _ 0).trans reports)
  constructor
  · rw [checked, back]
  · rw [checked, replies]
  · rw [checked, tells, events]
    rfl

theorem GoesOn.waits (goes : machine.GoesOn p number task period scheduler)
    (held : machine.scheduler? number = some scheduler) (rest : machine.agenda = []) :
    ∃ record, scheduler.table.find? task = some record ∧ record.state.Waits := by
  have idle (link : Activity) : link ∉ machine.duties number := by
    intro member
    rw [duties, rest] at member
    cases member
  cases goes.sustains with
  | waiting record found waits =>
      rw [record?_of_scheduler? held] at found
      exact ⟨record, found, waits⟩
  | running _ _ _ link member => exact absurd member (idle link)
  | returning _ _ _ link member => exact absurd member (idle link)

/-- A timer-driven pipeline does not fall silent. On the inline executor, while its task is
touched by passes and by its own operations only, nobody interposes and no start computed for
the task is the last instant: if a start or release has returned without an error, and no pause
or stop came after it, then at rest the pipeline is active and its task is queued, or was given
up as late; and of the latter the pipeline tells when it is asked, unless an overrun was
reported since the last start or release. -/
theorem started_never_falls_silent (trail : Trail past machine) (rest : machine.agenda = [])
    (undisturbed : Undisturbed p number task past)
    (plays : machine.Plays p number task pipeline scheduler)
    (since : Since (StartsWell p) (StopsNext p) past) :
    pipeline.active = true ∧ ∃ record, scheduler.table.find? task = some record ∧
      (record.state = .queued ∨
        record.state = .cancelled .deadlineMissed ∧
          ∃ told : Bool, (told = true ↔ ¬ Since (ReportsNext p) (StartsNext p) past) ∧
            machine.Tells p pipeline.desc.id told) := by
  have persists := trail.persists undisturbed since
  have active := persists.active pipeline scheduler plays
  rcases persists.goes pipeline scheduler plays with ⟨_, _, _, agenda, _⟩ | goes
  · cases rest.symm.trans agenda
  · obtain ⟨record, found, waits⟩ := goes.waits plays.held rest
    refine ⟨active, record, found, ?_⟩
    generalize state : record.state = now at waits
    cases waits with
    | queued => exact .inl rfl
    | missed =>
        obtain ⟨there, held, rfl, rfl, _⟩ := plays
        refine .inr ⟨rfl, pipeline.mayReport, ?_,
          trail.reachable.tells rest there held found state⟩
        rw [← trail.xrunReported_iff, there]
        simp [Pipeline.mayReport, active]

/-- A copy stops its own pipeline and starts it again while its task is running; the window that
it is given then passes before the next pass comes. -/
def remiss : List (Nat × Call) :=
  let turn : Turn Call := ⟨[.pipeline 0 (.command .stop), .pipeline 0 (.command .start)], .done⟩
  [(5, .scheduler 0 .runPass), (1, .platform (.setClock 5000)), (29, .scheduler 0 .runPass),
    (4, .pipeline 0 (.command .start)),
    (4, .scheduler 0 (.createPipeline ⟨1, 1000, 0, 0, 0, true⟩ [turn])),
    (1, .init ⟨1000000, 0, 7, 2⟩ .inline)]

/-- The overrun is told of. -/
theorem remiss_told :
    ∃ scheduler record, (session remiss).2.scheduler? 0 = some scheduler ∧
      scheduler.table.find? ⟨0, 0⟩ = some record ∧
      record.state = .cancelled .deadlineMissed ∧
      ¬ Since (ReportsNext 0) (StartsNext 0) (session remiss).1 ∧
      (session remiss).2.Tells 0 1 true := by
  have trail : Trail (session remiss).1 (session remiss).2 := session_trail remiss (by decide)
  have undisturbed : Undisturbed 0 0 ⟨0, 0⟩ (session remiss).1 :=
    ⟨by decide, by decide, by decide⟩
  have plays : (session remiss).2.Plays 0 0 ⟨0, 0⟩
      ⟨0, ⟨0, 0⟩, ⟨1, 1000, 0, 0, 0, true⟩, true, false⟩ _ :=
    ⟨rfl, rfl, rfl, rfl, rfl, rfl, by decide⟩
  have since : Since (StartsWell 0) (StopsNext 0) (session remiss).1 := by
    have starts : StartsWell 0 (((session (remiss.drop 3)).2.start (.scheduler 0 .runPass)
        fun _ => none).run 17) :=
      ⟨_, _, 4, rfl, rfl, ⟨rfl, by decide⟩, rfl⟩
    exact .run (.run (.passed (by decide : 17 < 29) starts (by decide)) (by decide)) (by decide)
  obtain ⟨_, record, found, queued | ⟨missed, told, silent, tells⟩⟩ :=
    started_never_falls_silent trail rfl undisturbed plays since
  · cases found
    cases queued
  · have same : Reply.ok (.flag told) = .ok (.flag true) := tells.replied.symm
    cases same
    exact ⟨_, record, rfl, found, missed, silent.mp rfl, tells⟩

end Machine

end EdfKernel
