import EdfKernel.Proofs.Deliveries

/-!
What is run when, whatever else is seen meanwhile. One scene performs some runs on its way
to another if each machine that shows it comes to show the other, and the works that begin
on the way are these, in this order. A work may read the platform and report to a pipeline.
What it is told is among the events but not among the runs, and of the pipelines a pass can
only tell what neither of the two bears on.
-/

namespace EdfKernel

def Event.isRun : Event → Bool
  | work _ _ | copy _ _ => true
  | _ => false

/-- The works that began, in order. -/
def workRuns (events : Array Event) : List Event := events.toList.filter Event.isRun

theorem workRuns_push (events : Array Event) (event : Event) :
    workRuns (events.push event) =
      workRuns events ++ if event.isRun then [event] else [] := by
  simp only [workRuns, Array.toList_push, List.filter_append, List.filter_cons, List.filter_nil]

/-- What a pass can tell of a pipeline: whether it is active only if a timer drives it, and
not whether it has reported an overrun. -/
def Pipeline.face (pipeline : Pipeline) : Pipeline :=
  { pipeline with
    active := pipeline.desc.timerDriven && pipeline.active
    xrunReported := false }

theorem Pipeline.status_face (pipeline : Pipeline) : pipeline.face.status = pipeline.status := by
  simp only [status, face, ← Bool.and_assoc, Bool.and_self]

/-- A pass can tell no difference. -/
def Alike (pipelines others : List Pipeline) : Prop :=
  pipelines.map Pipeline.face = others.map Pipeline.face

namespace Alike

variable {pipelines others more : List Pipeline} {α : Type}

theorem refl (pipelines : List Pipeline) : Alike pipelines pipelines := rfl

theorem trans (first : Alike pipelines others) (second : Alike others more) :
    Alike pipelines more := Eq.trans first second

theorem getElem?_map (alike : Alike pipelines others) {f : Pipeline → α}
    (faced : ∀ pipeline : Pipeline, f pipeline.face = f pipeline) (p : Nat) :
    pipelines[p]?.map f = others[p]?.map f := by
  have same : (pipelines.map Pipeline.face)[p]?.map f = (others.map Pipeline.face)[p]?.map f :=
    congrArg (fun faces : List Pipeline => faces[p]?.map f) alike
  simp only [List.getElem?_map, Option.map_map, Function.comp_def, faced] at same
  exact same

theorem any_scheduler (alike : Alike pipelines others) (number : Nat) :
    pipelines.any (·.scheduler = number) = others.any (·.scheduler = number) := by
  have same : (pipelines.map Pipeline.face).any (·.scheduler = number) =
      (others.map Pipeline.face).any (·.scheduler = number) :=
    congrArg (fun faces : List Pipeline => faces.any (·.scheduler = number)) alike
  simp only [List.any_map] at same
  exact same

theorem modify (pipelines : List Pipeline) (p : Nat) {f : Pipeline → Pipeline}
    (hidden : ∀ pipeline, (f pipeline).face = pipeline.face) :
    Alike (pipelines.modify p f) pipelines := by
  apply List.ext_getElem?
  intro n
  rw [List.getElem?_map, List.getElem?_map, List.getElem?_modify]
  cases pipelines[n]? with
  | none => rfl
  | some pipeline =>
      simp only [Option.map_eq_map, Option.map_some]
      split
      · rw [hidden]
      · rfl

end Alike

def Call.Spares (call : Call) (pipelines : List Pipeline) : Prop :=
  ∀ (machine : Machine) (current : Option TaskHandle), Alike machine.pipelines pipelines →
    ∃ reply events notices changed,
      machine.perform current call =
        { machine with reply, events, notices, pipelines := changed } ∧
      Alike changed pipelines ∧ workRuns events = workRuns machine.events

theorem Call.spares_xrun (p : Nat) (bytes : UInt32) (pipelines : List Pipeline) :
    (Call.pipeline p (.xrun bytes)).Spares pipelines := by
  intro machine current alike
  rw [Machine.perform]
  cases machine.pipelines[p]? with
  | none => exact ⟨_, _, _, _, rfl, alike, rfl⟩
  | some pipeline =>
      change ∃ reply events notices changed, machine.reportXrun p pipeline bytes = _ ∧ _
      rw [Machine.reportXrun]
      by_cases may : pipeline.mayReport = true
      · rw [if_pos may]
        have hidden : Alike (machine.pipelines.modify p fun pipeline =>
            { pipeline with xrunReported := true }) machine.pipelines :=
          .modify _ p fun _ => rfl
        have reported := workRuns_push machine.events (.xrun pipeline.desc.id bytes)
        exact ⟨_, _, _, _, rfl, hidden.trans alike, reported.trans (List.append_nil _)⟩
      · rw [if_neg may]
        exact ⟨_, _, _, _, rfl, alike, rfl⟩

def Verdict.status? (pipelines : List Pipeline) : Verdict → Option WorkStatus
  | fixed status => some status
  | pipeline p => pipelines[p]?.map Pipeline.status

namespace Work

def nextRun? (pipelines : List Pipeline) (task : TaskHandle) : Work → Option Event
  | .task routine => some (.work task (routine.runs + 1))
  | .copy p routine =>
      pipelines[p]?.map fun pipeline => .copy pipeline.desc.id (routine.runs + 1)

def verdict : Work → Verdict
  | .task routine => .fixed routine.turn.status
  | .copy p _ => .pipeline p

structure Finishes (work : Work) (pipelines : List Pipeline) : Prop where
  spares : ∀ call ∈ work.routine.turn.calls, call.Spares pipelines
  done : work.verdict.status? pipelines = some .done

end Work

namespace Alike

variable {pipelines others : List Pipeline}

theorem status? (alike : Alike pipelines others) (verdict : Verdict) :
    verdict.status? pipelines = verdict.status? others := by
  cases verdict with
  | fixed status => rfl
  | pipeline p => exact alike.getElem?_map Pipeline.status_face p

theorem nextRun? (alike : Alike pipelines others) (task : TaskHandle) (work : Work) :
    work.nextRun? pipelines task = work.nextRun? others task := by
  cases work with
  | task routine => rfl
  | copy p routine => exact alike.getElem?_map (fun _ => rfl) p

theorem isAlive {scene : Scene} {number : Nat} {rest : List Activity}
    (alike : Alike pipelines scene.pipelines) (alive : scene.IsAlive number rest) :
    ({ scene with pipelines } : Scene).IsAlive number rest := by
  rw [Scene.IsAlive] at alive ⊢
  rw [alike.any_scheduler]
  exact alive

end Alike

def Machine.Resembles (machine : Machine) (number : Nat) (scene : Scene) (events : Array Event)
    (agenda : List Activity) : Prop :=
  ∃ pipelines, Alike pipelines scene.pipelines ∧
    machine.Shows number { scene with pipelines, events } agenda

namespace Scene

open Machine

variable {number : Nat} {scene middle after : Scene} {agenda halfway rest ends : List Activity}
  {runs early late : List Event}

/-- Every machine that resembles the one scene with the one agenda comes to resemble the
other, and these works begin meanwhile. -/
def Performs (number : Nat) (scene : Scene) (agenda : List Activity) (runs : List Event)
    (after : Scene) (ends : List Activity) : Prop :=
  ∀ (machine : Machine) (events : Array Event), machine.Resembles number scene events agenda →
    ∃ steps later, (machine.run steps).Resembles number after later ends ∧
      workRuns later = workRuns events ++ runs

namespace Performs

theorem trans (first : Performs number scene agenda early middle halfway)
    (second : Performs number middle halfway late after ends) :
    Performs number scene agenda (early ++ late) after ends := by
  intro machine events shows
  obtain ⟨few, soon, between, begun⟩ := first machine events shows
  obtain ⟨more, later, arrived, ran⟩ := second _ soon between
  refine ⟨few + more, later, by rwa [run_add], ?_⟩
  rw [ran, begun, List.append_assoc]

/-- What leads on whatever the events, and with pipelines that are alike, performs nothing. -/
theorem of_leads (same : after.pipelines = scene.pipelines)
    (leads : ∀ pipelines events, Alike pipelines scene.pipelines →
      Leads number 0 { scene with pipelines, events } agenda []
        { after with pipelines, events } ends) :
    Performs number scene agenda [] after ends := by
  rintro machine events ⟨pipelines, alike, shows⟩
  obtain ⟨steps, arrived, _⟩ := leads pipelines events alike machine shows
  exact ⟨steps, events, ⟨pipelines, same ▸ alike, arrived⟩, (List.append_nil _).symm⟩

theorem step {activity : Activity}
    (carries : ∀ (machine : Machine) (events : Array Event),
      machine.Resembles number scene events rest →
      ∃ later, (machine.carryOut activity).Resembles number after later ends ∧
        workRuns later = workRuns events ++ runs) :
    Performs number scene (activity :: rest) runs after ends := by
  rintro machine events ⟨pipelines, alike, shows⟩
  have agenda : machine.agenda = activity :: rest := shows.agenda
  obtain ⟨later, arrived, ran⟩ :=
    carries { machine with agenda := rest } events ⟨pipelines, alike, { shows with agenda := rfl }⟩
  refine ⟨1, later, ?_, ran⟩
  rw [run_succ, step_cons agenda]
  exact arrived

theorem answer {current : Option TaskHandle} {call : Call}
    (spares : call.Spares scene.pipelines) :
    Performs number scene (.call current call :: .report :: rest) [] scene rest := by
  have called : Performs number scene (.call current call :: .report :: rest) [] scene
      (.report :: rest) := by
    apply step
    rintro machine events ⟨pipelines, alike, shows⟩
    obtain ⟨reply, later, notices, changed, made, still, ran⟩ :=
      spares machine current (shows.pipelines ▸ alike)
    refine ⟨later, ⟨changed, still, ?_⟩, ?_⟩
    · rw [carryOut, made]
      exact { shows with pipelines := rfl, events := rfl }
    · rw [ran, shows.events, List.append_nil]
  have reported : Performs number scene (.report :: rest) [] scene rest := by
    apply step
    rintro machine events ⟨pipelines, alike, shows⟩
    refine ⟨events.push (.returned machine.reply), ⟨pipelines, alike, shows.emit _⟩, ?_⟩
    rw [workRuns_push]
    rfl
  exact called.trans reported

theorem script (current : Option TaskHandle) (calls : Script)
    (spares : ∀ call ∈ calls, call.Spares scene.pipelines) :
    Performs number scene (.script current calls :: rest) [] scene rest := by
  induction calls with
  | nil => exact of_leads rfl fun _ _ _ => Leads.script current
  | cons call calls ih =>
      have begun : Performs number scene (.script current (call :: calls) :: rest) [] scene
          (.call current call :: .report :: .script current calls :: rest) :=
        of_leads rfl fun _ _ _ => Leads.step fun _ shows => shows.push _
      have answered : Performs number scene
          (.call current call :: .report :: .script current calls :: rest) [] scene
          (.script current calls :: rest) := answer (spares call List.mem_cons_self)
      have later := ih fun other member => spares other (List.mem_cons_of_mem _ member)
      exact (begun.trans answered).trans later

theorem returned (run : Dispatch) (work : Work) {verdict : Verdict} {status : WorkStatus}
    (returns : verdict.status? scene.pipelines = some status) :
    Performs number scene (.returned number run work verdict [] :: rest) [] scene
      (.acquire number (.finish run (some work) status) :: rest) := by
  have back : Performs number scene (.returned number run work verdict [] :: rest) [] scene
      (.script (some run.task) [] :: .acquire number (.finish run (some work) status) :: rest) := by
    refine of_leads rfl fun pipelines events alike => Leads.step fun machine shows => ?_
    have pushed := shows.push
      [.script (some run.task) [], .acquire number (.finish run (some work) status)]
    rw [← alike.status?] at returns
    cases verdict with
    | fixed given =>
        cases returns
        exact pushed
    | pipeline p =>
        have told : machine.pipelines[p]?.map Pipeline.status = some status :=
          shows.pipelines ▸ returns
        simp only [carryOut, Machine.returned, told, Option.getD_some]
        exact pushed
  exact back.trans (script _ [] (List.forall_mem_nil _))

theorem begins (run : Dispatch) {work : Work} {event : Event}
    (next : work.nextRun? scene.pipelines run.task = some event) :
    ∃ current, Performs number scene (.engage number run work ⟨[], true, [], none⟩ :: rest) [event]
      scene (.script current work.routine.turn.calls ::
        .returned number run work.advance work.verdict [] :: rest) := by
  cases work with
  | task routine =>
      cases next
      refine ⟨some run.task, step ?_⟩
      rintro machine events ⟨pipelines, alike, shows⟩
      have pushed := (shows.emit (.work run.task (routine.runs + 1))).push
        [.script (some run.task) routine.turn.calls,
          .returned number run (.task routine.advance) (.fixed routine.turn.status) []]
      exact ⟨_, ⟨pipelines, alike, pushed⟩, workRuns_push _ _⟩
  | copy p routine =>
      refine ⟨none, step ?_⟩
      rintro machine events ⟨pipelines, alike, shows⟩
      rw [← alike.nextRun?] at next
      obtain ⟨pipeline, found, rfl⟩ := Option.map_eq_some_iff.mp next
      have there : machine.pipelines[p]? = some pipeline := shows.pipelines ▸ found
      have pushed := (shows.emit (.copy pipeline.desc.id (routine.runs + 1))).push
        [.script none routine.turn.calls,
          .returned number run (.copy p routine.advance) (.pipeline p) []]
      refine ⟨events.push (.copy pipeline.desc.id (routine.runs + 1)), ⟨pipelines, alike, ?_⟩,
        workRuns_push _ _⟩
      simp only [carryOut, Machine.engage, runWork, there, if_true, Option.map_some,
        Option.getD_some, Option.map_none, Option.getD_none]
      exact pushed

theorem engage (run : Dispatch) {work : Work} (finishes : work.Finishes scene.pipelines)
    {event : Event} (next : work.nextRun? scene.pipelines run.task = some event) :
    Performs number scene (.engage number run work ⟨[], true, [], none⟩ :: rest) [event] scene
      (.acquire number (.finish run (some work.advance) .done) :: rest) := by
  obtain ⟨current, begun⟩ := @begins number scene rest run work event next
  exact (begun.trans (script current _ finishes.spares)).trans (returned run _ finishes.done)

end Performs

end Scene

end EdfKernel
