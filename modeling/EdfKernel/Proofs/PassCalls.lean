import EdfKernel.Proofs.SectionCounts

/-!
Who calls for a pass of a scheduler: whoever runs one, and the interrupt of the scheduler when
it is delivered. What is done on the platform, by pipelines or for other schedulers leaves
a scheduler as it is.
-/

namespace EdfKernel

namespace Activity

/-- The scheduler of which an activity calls for a pass: somebody runs one, or an interrupt of
the scheduler is delivered. -/
def passes? (machine : Machine) : Activity → Option Nat
  | call _ (.scheduler number .run) | call _ (.scheduler number .runPass) =>
      if (machine.scheduler? number).any (·.owned) then some number else none
  | sweep line _ _ =>
      ((machine.irq.line? line).filter Line.isReady).bind fun state =>
        match state.handler with
        | some (.scheduler number) => if machine.isAlive number then some number else none
        | _ => none
  | _ => none

/-- A pass that is called for so arms the timer, once it is over, for what it found to come. -/
def wakes : Activity → Bool
  | call _ (.scheduler _ .runPass) => false
  | _ => true

def resumes : Activity → List Activity
  | sweep line delivered tally => [.sweep (line + 1) (delivered + 1) tally]
  | _ => []

end Activity

namespace Machine

variable {machine : Machine} {number : Nat} {scheduler : Scheduler}

theorem scheduler?_beginPass (machine : Machine) (number : Nat) (wakes : Bool) :
    (machine.beginPass number wakes).scheduler? number =
      (machine.scheduler? number).map fun scheduler =>
        if scheduler.inPass then scheduler.coalesce else scheduler.beginPass := by
  cases found : machine.scheduler? number with
  | none => simp only [beginPass, found, Option.map_none]
  | some scheduler =>
      have set (after : Scheduler) :=
        scheduler?_setScheduler_self machine number scheduler after found
      cases busy : scheduler.inPass with
      | true =>
          simp only [beginPass, found, busy, if_true, Option.map_some]
          exact set _
      | false =>
          simp only [beginPass, found, busy, Bool.false_eq_true, if_false, Option.map_some]
          exact set _

theorem isAlive_push_sweep (line delivered : Nat) (tally : Tally) :
    (machine.push [.sweep line delivered tally]).isAlive number = machine.isAlive number := by
  simp only [isAlive, push, scheduler?, List.cons_append, List.nil_append, List.any_cons,
    Activity.scheduler?, reduceCtorEq, decide_false, Bool.false_or]

namespace Passing

variable {activity : Activity} {wakes : Bool} {resumes : List Activity}

theorem passes? (passes : machine.Passing number activity wakes resumes) :
    activity.passes? machine = some number := by
  cases passes with
  | run current scheduler found owned | runPass current scheduler found owned =>
      simp [Activity.passes?, found, owned]
  | interrupt line delivered tally state looked ready handles alive =>
      simp [Activity.passes?, looked, Option.filter, ready, handles, alive]

theorem of_passes? (calls : activity.passes? machine = some number) :
    machine.Passing number activity activity.wakes activity.resumes := by
  cases activity with
  | call current call =>
      cases call with
      | scheduler other call =>
          have owned (called : (if (machine.scheduler? other).any (·.owned) then some other
              else none) = some number) :
              other = number ∧ ∃ scheduler, machine.scheduler? number = some scheduler ∧
                scheduler.owned = true := by
            split at called
            case isTrue owns =>
              cases called
              exact ⟨rfl, Option.any_eq_true _ _ |>.mp owns⟩
            case isFalse => cases called
          cases call with
          | run =>
              obtain ⟨rfl, scheduler, found, owns⟩ := owned calls
              exact .run current scheduler found owns
          | runPass =>
              obtain ⟨rfl, scheduler, found, owns⟩ := owned calls
              exact .runPass current scheduler found owns
          | _ => cases calls
      | _ => cases calls
  | sweep line delivered tally =>
      obtain ⟨state, ready, handles⟩ := Option.bind_eq_some_iff.mp calls
      obtain ⟨looked, raised⟩ := Option.filter_eq_some_iff.mp ready
      split at handles
      case h_1 other handler =>
        split at handles
        case isTrue alive =>
          cases handles
          exact .interrupt line delivered tally state looked raised handler alive
        case isFalse => cases handles
      case h_2 => cases handles
  | _ => cases calls

theorem isSome_scheduler? (passes : machine.Passing number activity wakes resumes) :
    (machine.scheduler? number).isSome = true := by
  cases passes with
  | run current scheduler found owned | runPass current scheduler found owned =>
      rw [found, Option.isSome_some]
  | interrupt line delivered tally state looked ready handles alive =>
      obtain ⟨scheduler, found, _⟩ := (Option.any_eq_true _ _).mp alive
      rw [found, Option.isSome_some]

theorem carryOut (passes : machine.Passing number activity wakes resumes) :
    machine.carryOut activity = (machine.push resumes).beginPass number wakes := by
  cases passes with
  | run current scheduler found owned | runPass current scheduler found owned =>
      simp only [Machine.carryOut, perform, found, owned, if_true, performScheduler]
      rfl
  | interrupt line delivered tally state looked ready handles alive =>
      have lives : (machine.push [.sweep (line + 1) (delivered + 1) tally]).isAlive number =
          true := (isAlive_push_sweep _ _ _).trans alive
      simp only [Machine.carryOut, sweep, looked, ready, handles, if_true, deliver, lives]

end Passing

theorem carryOut_of_passes {activity : Activity} (calls : activity.passes? machine = some number) :
    machine.carryOut activity =
      (machine.push activity.resumes).beginPass number activity.wakes :=
  (Passing.of_passes? calls).carryOut

theorem step_of_passes {activity : Activity} {rest : List Activity}
    (agenda : machine.agenda = activity :: rest)
    (calls : activity.passes? { machine with agenda := rest } = some number)
    (found : machine.scheduler? number = some scheduler) (idle : scheduler.inPass = false) :
    machine.step =
      { machine with
        irq := machine.irq.clear scheduler.config.line
        schedulers := machine.schedulers.set number (some scheduler.beginPass)
        agenda := .acquire number (.select activity.wakes) :: (activity.resumes ++ rest) } := by
  have here : (({ machine with agenda := rest } : Machine).push activity.resumes).scheduler?
      number = some scheduler := found
  rw [step_cons agenda, carryOut_of_passes calls]
  simp only [beginPass, here, idle, Bool.false_eq_true, if_false]
  rfl

/-- Whatever else is done than for a scheduler itself leaves it as it is, but for its owner
giving it up. -/
def Spared (scheduler : Scheduler) (after : Option Scheduler) : Prop :=
  ∃ owned, after = some { scheduler with owned }

theorem Spared.of_scheduler? {after : Option Scheduler}
    (found : machine.scheduler? number = some scheduler)
    (same : after = machine.scheduler? number) :
    Spared scheduler after :=
  ⟨scheduler.owned, same.trans found⟩

/-- What is neither for the scheduler nor a call for a pass of it spares the scheduler. -/
theorem Deed.spares {activity : Activity} {after : Machine} (deed : machine.Deed activity after)
    (found : machine.scheduler? number = some scheduler)
    (foreign : activity.scheduler? ≠ some number)
    (calls : activity.passes? machine ≠ some number) :
    Spared scheduler (after.scheduler? number) := by
  have apart {other : Nat} (own : activity.scheduler? = some other) : number ≠ other :=
    fun same => foreign (own.trans (by rw [same]))
  have uncalled {other : Nat} {wakes : Bool} {resumes : List Activity}
      (passes : machine.Passing other activity wakes resumes) : number ≠ other :=
    fun same => calls (passes.passes?.trans (by rw [same]))
  have kept {other : Nat} (apart : number ≠ other) (later : Option Scheduler) :
      Spared scheduler (machine.schedulers.set other later)[number]?.join :=
    .of_scheduler? found (scheduler?_set_of_ne machine number apart later)
  have appended (added : Option Scheduler) :
      Spared scheduler (machine.schedulers ++ [added])[number]?.join := by
    have inside := length_of_scheduler? machine number scheduler found
    apply Spared.of_scheduler? found
    rw [scheduler?_append, if_neg (Nat.ne_of_lt inside)]
  cases deed with
  | putOff _ _ _ _ passes | begun _ _ _ _ passes => exact kept (uncalled passes) _
  | skipped | handed | concluded | lookedUp | entered | left => exact kept (apart rfl) _
  | initFailed | setUp => exact appended _
  | dropped current other given there =>
      by_cases own : number = other
      · subst own
        cases found.symm.trans there
        exact ⟨false, scheduler?_set_self found _⟩
      · exact kept own _
  | _ => exact .of_scheduler? found rfl

end Machine

end EdfKernel
