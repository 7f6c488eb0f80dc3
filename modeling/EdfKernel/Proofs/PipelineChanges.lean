import EdfKernel.Proofs.LockedSections

/-!
What a step makes of a pipeline. A start or release activates it and lets it report again, a
pause or stop deactivates it, a report is noted, and nothing else changes it; a new one comes
only from the section that makes its task.
-/

namespace EdfKernel

namespace Pipeline

/-- An overrun was seen, and is not to be reported again if it was now. -/
def report (pipeline : Pipeline) : Pipeline :=
  if pipeline.mayReport then { pipeline with xrunReported := true } else pipeline

theorem report_fixed (pipeline : Pipeline) :
    pipeline.report.scheduler = pipeline.scheduler ∧ pipeline.report.task = pipeline.task ∧
      pipeline.report.desc = pipeline.desc ∧ pipeline.report.active = pipeline.active := by
  unfold report
  split <;> exact ⟨rfl, rfl, rfl, rfl⟩

end Pipeline

namespace Activity

def stops? : Activity → Option Nat
  | call _ (.pipeline number (.command .pause)) | call _ (.pipeline number (.command .stop)) =>
      some number
  | _ => none

def reports? : Activity → Option Nat
  | call _ (.pipeline number (.xrun _)) | xrun number _ => some number
  | _ => none

def alters (p : Nat) (activity : Activity) (pipeline : Pipeline) : Pipeline :=
  if activity.starts? = some p then pipeline.activate
  else if activity.stops? = some p then pipeline.deactivate
  else if activity.reports? = some p then pipeline.report
  else pipeline

theorem alters_fixed (p : Nat) (activity : Activity) (pipeline : Pipeline) :
    (activity.alters p pipeline).scheduler = pipeline.scheduler ∧
      (activity.alters p pipeline).task = pipeline.task ∧
      (activity.alters p pipeline).desc = pipeline.desc := by
  unfold alters
  split
  · exact ⟨rfl, rfl, rfl⟩
  · split
    · exact ⟨rfl, rfl, rfl⟩
    · split
      · obtain ⟨scheduler, task, desc, _⟩ := pipeline.report_fixed
        exact ⟨scheduler, task, desc⟩
      · exact ⟨rfl, rfl, rfl⟩

theorem active_alters {p : Nat} {activity : Activity} {pipeline : Pipeline}
    (active : pipeline.active = true) (unstopped : activity.stops? ≠ some p) :
    (activity.alters p pipeline).active = true := by
  unfold alters
  rw [if_neg unstopped]
  split
  · rfl
  · split
    · exact pipeline.report_fixed.2.2.2.trans active
    · exact active

theorem commands_nothing_of_reports? {p : Nat} {activity : Activity}
    (reports : activity.reports? = some p) : activity.starts? = none ∧ activity.stops? = none := by
  cases activity with
  | call current call =>
      cases call with
      | pipeline number call =>
          cases call with
          | xrun bytes => exact ⟨rfl, rfl⟩
          | _ => cases reports
      | _ => cases reports
  | _ => exact ⟨rfl, rfl⟩

theorem xrunReported_alters (p : Nat) (activity : Activity) (pipeline : Pipeline) :
    (activity.alters p pipeline).xrunReported = true ↔
      (activity.reports? = some p ∧ pipeline.mayReport = true) ∨
        (activity.starts? ≠ some p ∧ pipeline.xrunReported = true) := by
  by_cases reports : activity.reports? = some p
  · obtain ⟨unstarting, unstopping⟩ := commands_nothing_of_reports? reports
    simp only [alters, unstarting, unstopping, reports, Pipeline.report]
    cases may : pipeline.mayReport <;> simp
  · by_cases starts : activity.starts? = some p
    · simp [alters, starts, reports, Pipeline.activate]
    · by_cases stops : activity.stops? = some p <;>
        simp [alters, starts, stops, reports, Pipeline.deactivate]

end Activity

namespace Machine

variable {machine after : Machine} {activity : Activity} {p : Nat} {pipeline : Pipeline}

theorem alters_of_ne {number : Nat} (apart : number ≠ p) (current : Option TaskHandle)
    (call : PipelineCall) :
    (Activity.call current (.pipeline number call)).alters p pipeline = pipeline := by
  cases call with
  | command command =>
      cases command <;>
        simp [Activity.alters, Activity.starts?, Activity.stops?, Activity.reports?, apart]
  | _ => simp [Activity.alters, Activity.starts?, Activity.stops?, Activity.reports?, apart]

theorem alters_of_plain {call : PipelineCall} (plain : call.isQuery = true ∨ call = .unknown)
    (current : Option TaskHandle) (number : Nat) :
    (Activity.call current (.pipeline number call)).alters p pipeline = pipeline := by
  rcases plain with query | rfl
  · cases call <;> first | rfl | cases query
  · rfl

theorem alters_of_reports {number : Nat} {bytes : UInt32}
    (reports : Reporting activity number bytes) :
    activity.alters p pipeline = if number = p then pipeline.report else pipeline := by
  cases reports <;>
    simp [Activity.alters, Activity.starts?, Activity.stops?, Activity.reports?]

theorem Counting.alters {count : Nat} {tally : Tally}
    (counts : machine.Counting activity count tally) : activity.alters p pipeline = pipeline := by
  cases counts with
  | masked _ _ dispatches => cases dispatches <;> rfl
  | swept => rfl

theorem Answering.alters (answers : machine.Answering activity)
    (found : machine.pipelines[p]? = some pipeline) : activity.alters p pipeline = pipeline := by
  cases answers with
  | unpiped current number call absent =>
      refine alters_of_ne ?_ current call
      rintro rfl
      cases absent.symm.trans found
  | commanded current number command idle => rcases idle with rfl | rfl <;> rfl
  | unasked current number call plain => exact alters_of_plain plain current number
  | unreported _ number bytes reports mute =>
      rw [alters_of_reports reports]
      split
      case isTrue own =>
        subst own
        simp [Pipeline.report, mute pipeline found]
      case isFalse => rfl
  | counted _ _ _ counts => exact counts.alters
  | _ => rfl

namespace Deed

theorem alters (deed : machine.Deed activity after)
    (found : machine.pipelines[p]? = some pipeline) :
    after.pipelines[p]? = some (activity.alters p pipeline) := by
  have same (untouched : activity.alters p pipeline = pipeline) :
      machine.pipelines[p]? = some (activity.alters p pipeline) := by rw [found, untouched]
  have modified {number : Nat} {f : Pipeline → Pipeline}
      (own : number = p → activity.alters p pipeline = f pipeline)
      (others : number ≠ p → activity.alters p pipeline = pipeline) :
      (machine.pipelines.modify number f)[p]? = some (activity.alters p pipeline) := by
    rw [List.getElem?_modify, found]
    by_cases here : number = p
    · simp [here, own here]
    · simp [here, others here]
  cases deed with
  | answered _ answers => exact same (answers.alters found)
  | early _ _ _ polls | rang _ _ _ polls | woke _ _ _ polls | wokeNobody _ _ _ polls =>
      exact same (by cases polls <;> rfl)
  | dispatched _ _ dispatches => exact same (by cases dispatches <;> rfl)
  | wentOn _ _ _ _ _ counts => exact same counts.alters
  | putOff _ _ _ _ passes | begun _ _ _ _ passes => exact same (by cases passes <;> rfl)
  | entered =>
      have inside := (List.getElem?_eq_some_iff.mp found).1
      exact (List.getElem?_append_left inside).trans found
  | pipeAsked current number call query => exact same (alters_of_plain (.inl query) current number)
  | started current number command starts | startedDriven current number command starts =>
      refine modified ?_ fun apart => alters_of_ne apart current _
      rintro rfl
      rcases starts with rfl | rfl <;> simp [Activity.alters, Activity.starts?]
  | stopped current number command stops =>
      refine modified ?_ fun apart => alters_of_ne apart current _
      rintro rfl
      rcases stops with rfl | rfl <;>
        simp [Activity.alters, Activity.starts?, Activity.stops?]
  | told _ number bytes reports held there may =>
      refine modified ?_ fun apart => ?_
      · rintro rfl
        cases there.symm.trans found
        simp [alters_of_reports reports, Pipeline.report, may]
      · rw [alters_of_reports reports, if_neg apart]
  | _ => exact same rfl

/-- A pipeline that was not there before is what a section has made. -/
theorem attaches (deed : machine.Deed activity after) (absent : machine.pipelines[p]? = none)
    (found : after.pipelines[p]? = some pipeline) :
    p = machine.pipelines.length ∧
      ∃ number part scheduler, activity = .enter number part ∧
        machine.scheduler? number = some scheduler ∧ scheduler.locked = false ∧
        (part.effect scheduler number machine.clock machine.pipelines.length).attaches =
          some pipeline := by
  have gone {P : Prop} (same : machine.pipelines[p]? = some pipeline) : P := by
    cases absent.symm.trans same
  have modified {P : Prop} {number : Nat} {f : Pipeline → Pipeline}
      (made : (machine.pipelines.modify number f)[p]? = some pipeline) : P := by
    rw [List.getElem?_modify, absent] at made
    cases made
  cases deed with
  | entered number part scheduler effect held free made =>
      subst made
      have outside : machine.pipelines.length ≤ p := List.getElem?_eq_none_iff.mp absent
      dsimp only at found
      rw [List.getElem?_append_right outside] at found
      cases attaches : (part.effect scheduler number machine.clock
          machine.pipelines.length).attaches with
      | none =>
          rw [attaches] at found
          cases found
      | some made =>
          rw [attaches] at found
          have last : p - machine.pipelines.length = 0 :=
            Nat.lt_one_iff.mp (List.getElem?_eq_some_iff.mp found).1
          rw [last] at found
          cases found
          exact ⟨by omega, number, part, scheduler, rfl, held, free, attaches⟩
  | started | startedDriven | stopped | told => exact modified found
  | _ => exact gone found

end Deed

variable {below : List Activity}

theorem step_alters (agenda : machine.agenda = activity :: below)
    (found : machine.pipelines[p]? = some pipeline) :
    machine.step.pipelines[p]? = some (activity.alters p pipeline) :=
  (step_deed agenda).alters found

theorem step_attaches (absent : machine.pipelines[p]? = none)
    (found : machine.step.pipelines[p]? = some pipeline) :
    p = machine.pipelines.length ∧
      ∃ number part below scheduler, machine.agenda = .enter number part :: below ∧
        machine.scheduler? number = some scheduler ∧ scheduler.locked = false ∧
        (part.effect scheduler number machine.clock machine.pipelines.length).attaches =
          some pipeline := by
  cases agenda : machine.agenda with
  | nil =>
      rw [step_of_isIdle machine (by simp [isIdle, agenda]), absent] at found
      cases found
  | cons activity below =>
      obtain ⟨last, number, part, scheduler, rfl, held⟩ := (step_deed agenda).attaches absent found
      exact ⟨last, number, part, below, scheduler, rfl, held⟩

end Machine

end EdfKernel
