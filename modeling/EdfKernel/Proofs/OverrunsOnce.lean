import EdfKernel.Proofs.CallControl
import EdfKernel.Proofs.CallerSections
import EdfKernel.Proofs.OverrunReports
import EdfKernel.Proofs.StepOutcomes

/-!
Overruns are told once per start. Whoever is to be told of them sees them in the order in which
they are emitted, and only a report emits one. An attempt to report counts if it is made while
the pipeline is active; the first one since a start is the one that is told.
-/

namespace EdfKernel

namespace Activity

theorem active_alters_iff (p : Nat) (activity : Activity) (pipeline : Pipeline) :
    (activity.alters p pipeline).active = true ↔
      activity.starts? = some p ∨ activity.stops? ≠ some p ∧ pipeline.active = true := by
  by_cases starts : activity.starts? = some p
  · simp [alters, starts, Pipeline.activate]
  · by_cases stops : activity.stops? = some p
    · simp [alters, starts, stops, Pipeline.deactivate]
    · by_cases reports : activity.reports? = some p
      · simp [alters, starts, stops, reports, pipeline.report_fixed.2.2.2]
      · simp [alters, starts, stops, reports]

end Activity

namespace Machine

variable {machine : Machine} {p : Nat} {past : List Machine} {pipeline : Pipeline}
  {current : Option TaskHandle} {below : List Activity} {bytes : UInt32} {steps : Nat}

inductive Told (machine : Machine) : List (UInt32 × UInt32) → Prop where
  | nothing (silent : ∀ p, ¬ machine.ReportsNext p) : Told machine []
  | overrun (p : Nat) (pipeline : Pipeline) (bytes : UInt32) (reports : machine.ReportsNext p)
      (found : machine.pipelines[p]? = some pipeline) : Told machine [(pipeline.desc.id, bytes)]

theorem ReportsNext.reports {activity : Activity} (reports : machine.ReportsNext p)
    (agenda : machine.agenda = activity :: below) : activity.reports? = some p := by
  have first := reports.1
  rw [agenda] at first
  exact first

theorem overruns_reportXrun (machine : Machine) (p : Nat) (pipeline : Pipeline) (bytes : UInt32) :
    (machine.reportXrun p pipeline bytes).overruns =
      machine.overruns ++ if pipeline.mayReport then [(pipeline.desc.id, bytes)] else [] := by
  unfold reportXrun
  split
  · exact overruns_emit _ _
  · exact (List.append_nil _).symm

theorem overruns_absent {activity : Activity} (agenda : machine.agenda = activity :: below)
    (reports : activity.reports? = some p) (absent : machine.pipelines[p]? = none) :
    machine.step.overruns = machine.overruns := by
  have gone : ({ machine with agenda := below } : Machine).pipelines[p]? = none := absent
  rw [step_cons agenda]
  cases activity with
  | call current call =>
      cases call with
      | pipeline number call =>
          cases call with
          | xrun bytes =>
              cases reports
              simp only [carryOut, perform, gone]
              rfl
          | _ => cases reports
      | _ => cases reports
  | xrun number bytes =>
      cases reports
      simp only [carryOut, gone]
      rfl
  | _ => cases reports

theorem step_overruns (machine : Machine) :
    ∃ told, machine.step.overruns = machine.overruns ++ told ∧ machine.Told told := by
  cases agenda : machine.agenda with
  | nil =>
      refine ⟨[], ?_, .nothing fun p reports => ?_⟩
      · rw [step_of_isIdle machine (by simp [isIdle, agenda]), List.append_nil]
      · have first := reports.1
        rw [agenda] at first
        cases first
  | cons activity below =>
      cases reports : activity.reports? with
      | none =>
          refine ⟨[], ?_, .nothing fun p may => ?_⟩
          · rw [step_silent agenda reports, List.append_nil]
          · cases reports.symm.trans (may.reports agenda)
      | some p =>
          cases found : machine.pipelines[p]? with
          | none =>
              refine ⟨[], ?_, .nothing fun q may => ?_⟩
              · rw [overruns_absent agenda reports found, List.append_nil]
              · cases reports.symm.trans (may.reports agenda)
                obtain ⟨_, pipeline, _, there, _⟩ := may
                cases found.symm.trans there
          | some pipeline =>
              obtain ⟨bytes, stepped⟩ := step_reports agenda reports found
              refine ⟨_, by rw [stepped]; exact overruns_reportXrun _ p pipeline bytes, ?_⟩
              cases may : pipeline.mayReport with
              | true =>
                  exact .overrun p pipeline bytes ((reportsNext_iff agenda found).mpr
                    ⟨reports, may⟩) found
              | false =>
                  refine .nothing fun q reporting => ?_
                  cases reports.symm.trans (reporting.reports agenda)
                  cases may.symm.trans ((reportsNext_iff agenda found).mp reporting).2

/-! When a pipeline is active, and what its attempts to report come to. -/

def ActivatesNext (p : Nat) (machine : Machine) : Prop :=
  StartsNext p machine ∧ (machine.pipelines[p]?).isSome = true

/-- Pipeline `p` is active, and an overrun of it is to be reported next. -/
def AttemptsNext (p : Nat) (machine : Machine) : Prop :=
  machine.agenda.head?.bind Activity.reports? = some p ∧
    (machine.pipelines[p]?).any (·.active) = true

theorem step_active (machine : Machine) (p : Nat) :
    (machine.step.pipelines[p]?).any (·.active) = true ↔
      ActivatesNext p machine ∨
        ¬ StopsNext p machine ∧ (machine.pipelines[p]?).any (·.active) = true := by
  cases found : machine.pipelines[p]? with
  | none =>
      have idle : (machine.step.pipelines[p]?).any (·.active) = false := by
        cases there : machine.step.pipelines[p]? with
        | none => rfl
        | some made =>
            obtain ⟨_, _, _, _, _, _, _, _, attaches⟩ := step_attaches found there
            obtain ⟨_, _, rfl⟩ := Section.attaches_cases attaches
            obtain ⟨_, _, rfl⟩ := Effect.reply_of_attaches attaches
            rfl
      simp [ActivatesNext, found, idle]
  | some pipeline =>
      cases agenda : machine.agenda with
      | nil =>
          rw [step_of_isIdle machine (by simp [isIdle, agenda]), found]
          simp [ActivatesNext, StartsNext, StopsNext, agenda]
      | cons activity below =>
          rw [step_alters agenda found, ActivatesNext, StartsNext, StopsNext, agenda, found]
          simpa using activity.active_alters_iff p pipeline

theorem Trail.active_iff (trail : Trail past machine) :
    (machine.pipelines[p]?).any (·.active) = true ↔
      Since (ActivatesNext p) (StopsNext p) past := by
  induction trail with
  | boot start =>
      constructor
      · intro active
        cases active
      · intro since
        cases since
  | start _ _ _ _ ih => exact ih
  | @step past machine _ ih => rw [step_active, ih, since_cons]

theorem reportsNext_iff_attempts (machine : Machine) (p : Nat) :
    machine.ReportsNext p ↔
      machine.AttemptsNext p ∧ ¬ (machine.pipelines[p]?).any (·.xrunReported) = true := by
  cases agenda : machine.agenda with
  | nil => simp [ReportsNext, AttemptsNext, agenda]
  | cons activity below =>
      cases found : machine.pipelines[p]? with
      | none => simp [ReportsNext, AttemptsNext, found]
      | some pipeline =>
          rw [reportsNext_iff agenda found]
          simp [AttemptsNext, agenda, found, Pipeline.mayReport, and_assoc]

/-- There was an attempt since the last start if and only if an overrun was reported. -/
theorem Trail.attempts_iff (trail : Trail past machine) :
    Since (AttemptsNext p) (StartsNext p) past ↔ Since (ReportsNext p) (StartsNext p) past := by
  induction trail with
  | boot start =>
      constructor <;>
        · intro since
          cases since
  | start _ _ _ _ ih => exact ih
  | @step past machine trail ih =>
      -- An attempt that is not told finds that an overrun was, and it is no start.
      rw [since_cons, since_cons, ih, reportsNext_iff_attempts, trail.xrunReported_iff]
      have apart : AttemptsNext p machine → ¬ StartsNext p machine := by
        rintro ⟨reports, _⟩ starts
        obtain ⟨activity, first, reporting⟩ := Option.bind_eq_some_iff.mp reports
        have starting : activity.starts? = some p := by
          rw [StartsNext, first] at starts
          exact starts
        rw [(Activity.commands_nothing_of_reports? reporting).1] at starting
        cases starting
      tauto

/-! What the two calls that report answer. -/

/-- What was reported in the step that comes next, and the answer to it. -/
structure AnswersReport (machine : Machine) (p : Nat) (pipeline : Pipeline) (bytes : UInt32)
    (below : List Activity) (told : Bool) : Prop where
  returns : machine.Returns below 1
  replied : machine.step.reply = .ok (.flag told)
  emitted : machine.step.overruns =
    machine.overruns ++ if told then [(pipeline.desc.id, bytes)] else []
  made : told = true ↔ machine.ReportsNext p

theorem AnswersReport.of_reportXrun {activity : Activity}
    (agenda : machine.agenda = activity :: below) (reports : activity.reports? = some p)
    (found : machine.pipelines[p]? = some pipeline)
    (stepped : machine.step =
      ({ machine with agenda := below } : Machine).reportXrun p pipeline bytes) :
    machine.AnswersReport p pipeline bytes below pipeline.mayReport := by
  obtain ⟨back, replies, _⟩ := reportXrun_tells { machine with agenda := below } p pipeline bytes
  constructor
  · exact .succ (.of_back (by rw [stepped, back])) (length_below agenda)
  · rw [stepped, replies]
  · rw [stepped]
    exact overruns_reportXrun _ p pipeline bytes
  · rw [reportsNext_iff agenda found]
    exact ⟨fun may => ⟨reports, may⟩, And.right⟩

theorem answers_call (agenda : machine.agenda = .call current (.pipeline p (.xrun bytes)) :: below)
    (found : machine.pipelines[p]? = some pipeline) :
    machine.AnswersReport p pipeline bytes below pipeline.mayReport := by
  refine .of_reportXrun agenda rfl found ?_
  have here : ({ machine with agenda := below } : Machine).pipelines[p]? = some pipeline := found
  rw [step_cons agenda]
  simp only [carryOut, perform, here, performPipeline]

theorem answers_missed (agenda : machine.agenda = .xrun p bytes :: below)
    (found : machine.pipelines[p]? = some pipeline) :
    machine.AnswersReport p pipeline bytes below pipeline.mayReport :=
  .of_reportXrun agenda rfl found (step_xrun agenda found)

/-- The task of the pipeline reads as given up for a missed deadline. -/
def ReadsMissed (machine : Machine) (pipeline : Pipeline) : Prop :=
  ∃ scheduler record, machine.scheduler? pipeline.scheduler = some scheduler ∧
    scheduler.table.find? pipeline.task = some record ∧
    record.state = .cancelled .deadlineMissed

section Reading

variable (reachable : Reachable machine)
  (agenda : machine.agenda =
    .enter pipeline.scheduler (.checkDeadline p pipeline.task) :: below)

include reachable agenda

theorem Reachable.run_reading (missed : machine.ReadsMissed pipeline) :
    (machine.run 2).agenda = .xrun p 0 :: below ∧
      (machine.run 2).pipelines = machine.pipelines ∧
      machine.step.agenda = .leave pipeline.scheduler :: .xrun p 0 :: below := by
  obtain ⟨scheduler, record, held, found, cancelled⟩ := missed
  have late : (Section.checkDeadline p pipeline.task).effect scheduler pipeline.scheduler
      machine.clock machine.pipelines.length =
        { Effect.quiet scheduler with next := [.xrun p 0] } := by
    simp only [Section.effect, Effect.checkDeadline, TaskTable.check, found, cancelled, if_true]
  have stepped := reachable.step_enter_agenda agenda held
  have ran := reachable.run_enter agenda held
  rw [late] at stepped ran
  refine ⟨?_, ?_, stepped⟩
  · rw [ran]
    rfl
  · rw [ran]
    exact List.append_nil _

theorem Reachable.returns_missed (there : machine.pipelines[p]? = some pipeline)
    (missed : machine.ReadsMissed pipeline) :
    machine.Returns below 3 ∧
      (machine.run 2).AnswersReport p pipeline 0 below pipeline.mayReport := by
  obtain ⟨reporting, kept, leaving⟩ := reachable.run_reading agenda missed
  have answers := answers_missed reporting (kept ▸ there)
  have returns := answers.returns
  rw [run_succ, run_one] at returns
  refine ⟨.succ (.succ returns ?_) (length_below agenda), answers⟩
  rw [leaving]
  exact Nat.lt_succ_of_lt (Nat.lt_succ_self _)

theorem Reachable.returns_reading (there : machine.pipelines[p]? = some pipeline)
    (timely : ¬ machine.ReadsMissed pipeline) :
    machine.Returns below 2 ∧ (machine.run 2).reply = .ok (.flag false) ∧
      machine.step.agenda = .leave pipeline.scheduler :: below := by
  obtain ⟨scheduler, held⟩ := reachable.scheduler_of_pipeline there
  have fine : (Section.checkDeadline p pipeline.task).effect scheduler pipeline.scheduler
      machine.clock machine.pipelines.length = Effect.answer scheduler (.flag false) := by
    simp only [Section.effect, Effect.checkDeadline, TaskTable.check]
    cases found : scheduler.table.find? pipeline.task with
    | none => rfl
    | some record =>
        have other : record.state ≠ .cancelled .deadlineMissed := fun missed =>
          timely ⟨scheduler, record, held, found, missed⟩
        simp only [other, if_false]
  have returns := reachable.returns_enter agenda held (by rw [fine]; rfl)
  have stepped := reachable.step_enter_agenda agenda held
  have ran := reachable.run_enter agenda held
  rw [fine] at stepped ran
  refine ⟨returns, ?_, stepped⟩
  rw [ran]
  rfl

end Reading

theorem Returns.comes_to_reading (returns : machine.Returns below steps)
    (agenda : machine.agenda = .call current (.pipeline p .checkDeadline) :: below)
    (found : machine.pipelines[p]? = some pipeline) :
    ∃ k fewer reader, steps = k + fewer ∧ (machine.run k).pipelines[p]? = some reader ∧
      (machine.run k).agenda =
        .enter reader.scheduler (.checkDeadline p reader.task) :: below ∧
      (machine.run k).Returns below fewer := by
  obtain ⟨_, rfl, after⟩ := returns.step (length_below agenda)
  obtain ⟨k, fewer, rfl, entering, back⟩ :=
    after.of_acquire (by rw [step_checkDeadline agenda found])
  rw [← run_succ] at entering back
  have home : machine.IsHome p pipeline.scheduler pipeline.task := ⟨pipeline, found, rfl, rfl⟩
  obtain ⟨reader, there, own, named⟩ := home.run (k + 1)
  rw [← own, ← named] at entering
  exact ⟨k + 1, fewer, reader, by omega, there, entering, back⟩

def TellsOnTheWay (machine : Machine) (p : Nat) (below : List Activity) (steps : Nat) : Prop :=
  ∃ k < steps, (machine.run k).agenda = .xrun p 0 :: below ∧ (machine.run k).ReportsNext p

theorem TellsOnTheWay.last (tells : machine.TellsOnTheWay p below steps)
    (returns : machine.Returns below steps) :
    ∃ k, steps = k + 1 ∧ (machine.run k).agenda = .xrun p 0 :: below ∧
      (machine.run k).ReportsNext p := by
  obtain ⟨k, before, reporting, reports⟩ := tells
  obtain ⟨reader, _, there, _⟩ := reports.2
  have back : (machine.run (k + 1)).agenda = below := by
    rw [run_add]
    exact (answers_missed reporting there).returns.back
  exact ⟨k, returns.ends before back, reporting, reports⟩

theorem Reachable.checkDeadline_answers (reachable : Reachable machine)
    (agenda : machine.agenda = .call current (.pipeline p .checkDeadline) :: below)
    (found : machine.pipelines[p]? = some pipeline) (returns : machine.Returns below steps) :
    ∃ told, (machine.run steps).reply = .ok (.flag told) ∧
      (told = true ↔ machine.TellsOnTheWay p below steps) := by
  obtain ⟨k, fewer, reader, rfl, there, entering, back⟩ := returns.comes_to_reading agenda found
  have waiting := reachable.run k
  by_cases missed : (machine.run k).ReadsMissed reader
  · obtain ⟨reporting, _⟩ := waiting.run_reading entering missed
    obtain ⟨ends, answers⟩ := waiting.returns_missed entering there missed
    cases back.unique ends
    rw [← run_add] at reporting answers
    refine ⟨reader.mayReport, ?_, ?_⟩
    · rw [show k + 3 = k + 2 + 1 by omega, run_add, run_one]
      exact answers.replied
    · rw [answers.made]
      constructor
      · exact fun reports => ⟨k + 2, by omega, reporting, reports⟩
      · intro tells
        obtain ⟨_, same, _, reports⟩ := tells.last returns
        cases same
        exact reports
  · obtain ⟨ends, silent, leaving⟩ := waiting.returns_reading entering there missed
    cases back.unique ends
    refine ⟨false, by rw [run_add]; exact silent, Bool.false_ne_true.elim, fun tells => ?_⟩
    obtain ⟨_, same, reporting, _⟩ := tells.last returns
    cases same
    rw [run_add, run_one, leaving] at reporting
    cases reporting

theorem Reachable.checkDeadline_returns (reachable : Reachable machine)
    (agenda : machine.agenda = .call current (.pipeline p .checkDeadline) :: below)
    (found : machine.pipelines[p]? = some pipeline)
    (alone : machine.interposed (machine.acquisitions + 1) = none) :
    ∃ steps ≤ 5, machine.Returns below steps := by
  have asked := step_checkDeadline agenda found
  have acquiring : machine.step.agenda =
      .acquire pipeline.scheduler (.checkDeadline p pipeline.task) :: below := by rw [asked]
  have entered := step_acquire_alone acquiring (by rw [asked]; exact alone)
  have entering : machine.step.step.agenda =
      .enter pipeline.scheduler (.checkDeadline p pipeline.task) :: below := by rw [entered]
  have there : machine.step.step.pipelines[p]? = some pipeline := by
    rw [entered, asked]
    exact found
  have waiting := reachable.step.step
  -- Two steps lead to the section, whatever it reads.
  have from_section {left : Nat} (returns : machine.step.step.Returns below left) :
      machine.Returns below (left + 1 + 1) :=
    .succ (.succ returns (length_below acquiring)) (length_below agenda)
  by_cases missed : machine.step.step.ReadsMissed pipeline
  · exact ⟨5, Nat.le_refl 5, from_section (waiting.returns_missed entering there missed).1⟩
  · exact ⟨4, by decide, from_section (waiting.returns_reading entering there missed).1⟩

/-- How overruns are told, in a state with this past. -/
structure TellsOnce (past : List Machine) (machine : Machine) : Prop where
  told : ∃ told, machine.step.overruns = machine.overruns ++ told ∧ machine.Told told
  active : ∀ p, (machine.pipelines[p]?).any (·.active) = true ↔
    Since (ActivatesNext p) (StopsNext p) past
  /-- A report is made while the pipeline is active, and no other one since its last start. -/
  once : ∀ p, machine.ReportsNext p →
    Since (ActivatesNext p) (StopsNext p) past ∧ ¬ Since (ReportsNext p) (StartsNext p) past
  /-- The first attempt since the last start is the one that is told. -/
  first : ∀ p, machine.AttemptsNext p →
    (machine.ReportsNext p ↔ ¬ Since (AttemptsNext p) (StartsNext p) past)
  /-- To read that the deadline was missed leads to an attempt if the pipeline is active. -/
  missed : ∀ p pipeline below,
    machine.agenda = .enter pipeline.scheduler (.checkDeadline p pipeline.task) :: below →
    machine.pipelines[p]? = some pipeline → machine.ReadsMissed pipeline →
    (machine.run 2).agenda = .xrun p 0 :: below ∧
      ((machine.run 2).ReportsNext p ↔
        pipeline.active = true ∧ ¬ Since (AttemptsNext p) (StartsNext p) past)
  reported : ∀ p pipeline current bytes below,
    machine.agenda = .call current (.pipeline p (.xrun bytes)) :: below →
    machine.pipelines[p]? = some pipeline →
    ∃ told, machine.AnswersReport p pipeline bytes below told
  checked : ∀ p pipeline current below steps,
    machine.agenda = .call current (.pipeline p .checkDeadline) :: below →
    machine.pipelines[p]? = some pipeline → machine.Returns below steps →
    ∃ told, (machine.run steps).reply = .ok (.flag told) ∧
      (told = true ↔ machine.TellsOnTheWay p below steps)
  answered : ∀ p pipeline current below,
    machine.agenda = .call current (.pipeline p .checkDeadline) :: below →
    machine.pipelines[p]? = some pipeline →
    machine.interposed (machine.acquisitions + 1) = none →
    ∃ steps ≤ 5, machine.Returns below steps

/-- Overruns are told exactly once per start: while the pipeline is active, at most once
between two starts or releases and never before the first, at the first report, or first reading
of a missed deadline, since then; and both calls answer true exactly if they have told. -/
theorem overruns_told_once_per_start (trail : Trail past machine) : machine.TellsOnce past where
  told := step_overruns machine
  active p := trail.active_iff
  once p reports := by
    obtain ⟨attempts, unreported⟩ := (reportsNext_iff_attempts machine p).mp reports
    rw [trail.xrunReported_iff] at unreported
    exact ⟨trail.active_iff.mp attempts.2, unreported⟩
  first p attempts := by
    rw [reportsNext_iff_attempts, trail.xrunReported_iff, trail.attempts_iff]
    exact ⟨And.right, fun unreported => ⟨attempts, unreported⟩⟩
  missed p pipeline below agenda found missed := by
    obtain ⟨reporting, kept, _⟩ := trail.reachable.run_reading agenda missed
    refine ⟨reporting, ?_⟩
    rw [reportsNext_iff reporting (kept ▸ found), trail.attempts_iff, ← trail.xrunReported_iff,
      found]
    simp [Activity.reports?, Pipeline.mayReport]
  reported p pipeline current bytes below agenda found := ⟨_, answers_call agenda found⟩
  checked p pipeline current below steps agenda found returns :=
    trail.reachable.checkDeadline_answers agenda found returns
  answered p pipeline current below agenda found alone :=
    trail.reachable.checkDeadline_returns agenda found alone

/-- A copy that stopped its pipeline and started it again has missed its deadline, and somebody
asks. -/
def missing : Machine := ((session remiss).2.start (.pipeline 0 .checkDeadline) fun _ => none).run 4

/-- The miss is told of, for the first time since the last start. -/
theorem missing_told :
    missing.ReportsNext 0 ∧
      Since (ActivatesNext 0) (StopsNext 0)
        (passed (session remiss).1 ((session remiss).2.start (.pipeline 0 .checkDeadline)
          fun _ => none) 4) ∧
      ¬ Since (ReportsNext 0) (StartsNext 0)
        (passed (session remiss).1 ((session remiss).2.start (.pipeline 0 .checkDeadline)
          fun _ => none) 4) := by
  have rests : Trail (session remiss).1 (session remiss).2 := session_trail remiss (by decide)
  have trail := (Trail.start (.pipeline 0 .checkDeadline) (fun _ => none) rests rfl).run 4
  have reports : missing.ReportsNext 0 := ⟨rfl, _, _, rfl, rfl⟩
  exact ⟨reports, (overruns_told_once_per_start trail).once 0 reports⟩

end Machine

end EdfKernel
