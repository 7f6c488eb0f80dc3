import EdfKernel.Proofs.CopyHomes

/-!
The kernel at work while nobody interposes. A scene is what one scheduler can tell of the
machine apart from what is left to do; it leaves out the replies, the log and the count of
acquisitions, on which nothing that follows depends. One scene leads to another when every
machine of the first comes to be one of the second, and each activity leads from the scene
before it to the scene after.
-/

namespace EdfKernel

/-- The machine as one scheduler sees it. -/
structure Scene where
  clock : Ticks
  irq : Controller Handler
  armed : Option (Arming WakeUp)
  scheduler : Scheduler
  pipelines : List Pipeline
  events : Array Event

namespace Machine

structure Shows (machine : Machine) (number : Nat) (scene : Scene) (agenda : List Activity) :
    Prop where
  quiet : ∀ moment, machine.interposed moment = none
  clock : machine.clock = scene.clock
  irq : machine.irq = scene.irq
  armed : machine.timer.slot = scene.armed
  scheduler : machine.scheduler? number = some scene.scheduler
  pipelines : machine.pipelines = scene.pipelines
  events : machine.events = scene.events
  agenda : machine.agenda = agenda

namespace Shows

variable {machine : Machine} {number : Nat} {scene : Scene} {agenda : List Activity}

theorem push (shows : machine.Shows number scene agenda) (activities : List Activity) :
    (machine.push activities).Shows number scene (activities ++ agenda) :=
  { shows with agenda := congrArg (activities ++ ·) shows.agenda }

theorem emit (shows : machine.Shows number scene agenda) (event : Event) :
    (machine.emit event).Shows number { scene with events := scene.events.push event } agenda :=
  { shows with events := congrArg (Array.push · event) shows.events }

theorem notify (shows : machine.Shows number scene agenda) (notice : Notice) :
    (machine.notify notice).Shows number scene agenda := { shows with }

theorem respond (shows : machine.Shows number scene agenda) (reply : Reply) :
    (machine.respond reply).Shows number scene agenda := { shows with }

theorem withIrq (shows : machine.Shows number scene agenda)
    (f : Controller Handler → Controller Handler) :
    ({ machine with irq := f machine.irq } : Machine).Shows number
      { scene with irq := f scene.irq } agenda :=
  { shows with irq := congrArg f shows.irq }

theorem setScheduler (shows : machine.Shows number scene agenda) (scheduler : Scheduler) :
    (machine.setScheduler number scheduler).Shows number { scene with scheduler } agenda :=
  { shows with
    scheduler := scheduler?_setScheduler_self machine number _ scheduler shows.scheduler }

end Shows

/-- What the clock reads each time that the copy of pipeline `p` begins, in so many steps. -/
def copyInstants (p : Nat) : (steps : Nat) → Machine → List Ticks
  | 0, _ => []
  | steps + 1, machine =>
      (if machine.startsCopy p then [machine.clock] else []) ++ copyInstants p steps machine.step

theorem copyInstants_add (machine : Machine) (p first second : Nat) :
    machine.copyInstants p (first + second) =
      machine.copyInstants p first ++ (machine.run first).copyInstants p second := by
  induction first generalizing machine with
  | zero => rw [Nat.zero_add]; rfl
  | succ first ih =>
      rw [Nat.succ_add, copyInstants, copyInstants, ih, run_succ, List.append_assoc]

end Machine

namespace Scene

open Machine

variable {number p : Nat} {scene middle after : Scene} {rest agenda halfway ends : List Activity}

/-- Every machine that shows the one scene with the one agenda comes to show the other, and
the copy of pipeline `p` begins at these instants meanwhile. -/
def Leads (number p : Nat) (scene : Scene) (agenda : List Activity) (instants : List Ticks)
    (after : Scene) (ends : List Activity) : Prop :=
  ∀ machine : Machine, machine.Shows number scene agenda →
    ∃ steps, (machine.run steps).Shows number after ends ∧
      machine.copyInstants p steps = instants

def within (scene : Scene) (number : Nat) (effect : Effect) : Scene :=
  { scene with
    irq :=
      if effect.requests then scene.irq.mask.request scene.scheduler.config.line
      else scene.irq.mask
    armed := (effect.arms.map fun instant => ⟨instant, .scheduler number⟩).or scene.armed
    scheduler := { effect.scheduler with locked := true }
    pipelines := scene.pipelines ++ effect.attaches.toList }

def enact (scene : Scene) (number : Nat) (effect : Effect) : Scene :=
  { scene with
    irq := if effect.requests then scene.irq.request scene.scheduler.config.line else scene.irq
    armed := (effect.arms.map fun instant => ⟨instant, .scheduler number⟩).or scene.armed
    scheduler := { effect.scheduler with locked := false }
    pipelines := scene.pipelines ++ effect.attaches.toList }

namespace Leads

theorem refl (scene : Scene) (agenda : List Activity) :
    Leads number p scene agenda [] scene agenda :=
  fun _ shows => ⟨0, shows, rfl⟩

theorem trans {early late : List Ticks} (first : Leads number p scene agenda early middle halfway)
    (second : Leads number p middle halfway late after ends) :
    Leads number p scene agenda (early ++ late) after ends := by
  intro machine shows
  obtain ⟨few, between, soon⟩ := first machine shows
  obtain ⟨more, arrived, later⟩ := second _ between
  exact ⟨few + more, by rwa [run_add], by rw [copyInstants_add, soon, later]⟩

theorem step {activity : Activity}
    (carries : ∀ machine : Machine, machine.Shows number scene rest →
      (machine.carryOut activity).Shows number after ends) :
    Leads number p scene (activity :: rest)
      (if activity.beginsCopy p then [scene.clock] else []) after ends := by
  intro machine shows
  have agenda : machine.agenda = activity :: rest := shows.agenda
  refine ⟨1, ?_, ?_⟩
  · rw [run_succ, step_cons agenda]
    exact carries { machine with agenda := rest } { shows with agenda := rfl }
  · rw [copyInstants, startsCopy, agenda, shows.clock, copyInstants, List.append_nil]
    rfl

/-! ### Sections -/

theorem acquire (part : Section) :
    Leads number p scene (.acquire number part :: rest) [] scene (.enter number part :: rest) := by
  apply step
  intro machine shows
  simp only [carryOut, Machine.acquire, push, shows.quiet]
  exact { shows with agenda := congrArg (List.cons _) shows.agenda }

theorem enter (part : Section) (free : scene.scheduler.locked = false) {effect : Effect}
    (made : part.effect scene.scheduler number scene.clock scene.pipelines.length = effect) :
    Leads number p scene (.enter number part :: rest) [] (scene.within number effect)
      (.leave number :: (effect.next ++ rest)) := by
  apply step
  intro machine shows
  have holds := shows.scheduler
  have entered := scheduler?_setScheduler_self machine number _
    { effect.scheduler with locked := true } holds
  simp only [carryOut, Machine.enter, holds, free, Bool.false_eq_true, if_false, shows.clock,
    shows.pipelines, shows.irq, made]
  refine ⟨shows.quiet, rfl, rfl, ?_, entered, rfl, shows.events, ?_⟩
  · simp only [within]
    cases effect.arms with
    | some instant => rfl
    | none => exact shows.armed
  · exact congrArg (fun behind => _ :: (_ ++ behind)) shows.agenda

theorem leave :
    Leads number p scene (.leave number :: rest) []
      { scene with
        irq := scene.irq.unmask
        scheduler := { scene.scheduler with locked := false } } rest := by
  apply step
  intro machine shows
  have holds := shows.scheduler
  simp only [carryOut, Machine.leave, holds]
  exact (shows.setScheduler _).withIrq Controller.unmask

theorem carry (part : Section) (free : scene.scheduler.locked = false) {effect : Effect}
    (made : part.effect scene.scheduler number scene.clock scene.pipelines.length = effect) :
    Leads number p scene (.acquire number part :: rest) [] (scene.enact number effect)
      (effect.next ++ rest) := by
  -- The mask that the section put on is off again.
  have irq (requests : Bool) (line : Nat) :
      (if requests then scene.irq.mask.request line else scene.irq.mask).unmask =
        if requests then scene.irq.request line else scene.irq := by
    cases requests
    · exact scene.irq.unmask_mask
    · change (scene.irq.mask.request line).unmask = scene.irq.request line
      rw [Controller.request, Controller.modify_mask, Controller.unmask_mask]
      rfl
  have left : Leads number p (scene.within number effect) (.leave number :: (effect.next ++ rest))
      [] (scene.enact number effect) (effect.next ++ rest) := by
    have leaves := @leave number p (scene.within number effect) (effect.next ++ rest)
    simp only [within, irq] at leaves
    exact leaves
  exact ((acquire part).trans (enter part free made)).trans left

/-! ### The executor and the end of a pass -/

theorem script (current : Option TaskHandle) :
    Leads number p scene (.script current [] :: rest) [] scene rest :=
  step fun _ shows => shows

theorem execute (run : Dispatch) (work : Work) (inline : scene.scheduler.executor = .inline) :
    Leads number p scene (.execute number run (some work) :: rest) []
      { scene with scheduler := scene.scheduler.countDispatch }
      (.engage number run work ⟨[], true, [], none⟩ :: rest) := by
  have handed : Leads number p scene (.execute number run (some work) :: rest) []
      { scene with scheduler := scene.scheduler.countDispatch }
      (.script (some run.task) [] :: .engage number run work ⟨[], true, [], none⟩ :: rest) := by
    apply step
    intro machine shows
    have holds := shows.scheduler
    simp only [carryOut, Machine.execute, holds, inline, Executor.isInline, Executor.turn, if_true]
    exact ((shows.setScheduler _).notify _).push _
  exact handed.trans (script _)

theorem engage_copy (run : Dispatch) {routine : Routine} (silent : routine.turn.calls = [])
    {pipeline : Pipeline} (found : scene.pipelines[p]? = some pipeline) :
    Leads number p scene (.engage number run (.copy p routine) ⟨[], true, [], none⟩ :: rest)
      [scene.clock]
      { scene with events := scene.events.push (.copy pipeline.desc.id (routine.runs + 1)) }
      (.returned number run (.copy p routine.advance) (.pipeline p) [] :: rest) := by
  have begun : Leads number p scene
      (.engage number run (.copy p routine) ⟨[], true, [], none⟩ :: rest) [scene.clock]
      { scene with events := scene.events.push (.copy pipeline.desc.id (routine.runs + 1)) }
      (.script none [] ::
        .returned number run (.copy p routine.advance) (.pipeline p) [] :: rest) := by
    have once : (Activity.engage number run (.copy p routine) ⟨[], true, [], none⟩).beginsCopy p =
        true := by simp [Activity.beginsCopy]
    rw [show [scene.clock] = if (Activity.engage number run (.copy p routine)
      ⟨[], true, [], none⟩).beginsCopy p then [scene.clock] else [] by rw [once]; rfl]
    apply step
    intro machine shows
    have there : machine.pipelines[p]? = some pipeline := shows.pipelines ▸ found
    simp only [carryOut, Machine.engage, runWork, there, silent, if_true, Option.map_some,
      Option.getD_some, Option.map_none, Option.getD_none]
    exact (shows.emit _).push _
  exact begun.trans (script _)

theorem returned_copy (run : Dispatch) (work : Work) {pipeline : Pipeline}
    (found : scene.pipelines[p]? = some pipeline) :
    Leads number p scene (.returned number run work (.pipeline p) [] :: rest) [] scene
      (.acquire number (.finish run (some work) pipeline.status) :: rest) := by
  have back : Leads number p scene (.returned number run work (.pipeline p) [] :: rest) [] scene
      (.script (some run.task) [] ::
        .acquire number (.finish run (some work) pipeline.status) :: rest) := by
    apply step
    intro machine shows
    have there : machine.pipelines[p]? = some pipeline := shows.pipelines ▸ found
    simp only [carryOut, Machine.returned, there, Option.map_some, Option.getD_some]
    exact shows.push _
  exact back.trans (script _)

theorem conclude (wakes : Bool) {outcome : PassOutcome} (last : outcome.next = none) :
    Leads number p scene (.conclude number wakes outcome :: rest) []
      { scene with scheduler := scene.scheduler.endPass } rest := by
  apply step
  intro machine shows
  have holds := shows.scheduler
  simp only [carryOut, Machine.conclude, holds, last]
  exact (shows.setScheduler _).respond _

theorem conclude_next {outcome : PassOutcome} {task : TaskHandle}
    (next : outcome.next = some task) :
    Leads number p scene (.conclude number true outcome :: rest) []
      { scene with scheduler := scene.scheduler.endPass }
      (.acquire number (.wake outcome task) :: rest) := by
  apply step
  intro machine shows
  have holds := shows.scheduler
  simp only [carryOut, Machine.conclude, holds, next, if_true]
  exact ((shows.setScheduler _).respond _).push _

end Leads

end Scene

end EdfKernel
