import Mathlib.Tactic.FinCases
import Mathlib.Tactic.IntervalCases
import EdfKernel.Proofs.CallControl
import EdfKernel.Proofs.LockedSections

/-!
Interrupts are masked for as long as a table is locked and no longer. Of everything that the
kernel does, a section masks them as it takes the lock and lifts the mask as it frees it,
and nothing happens in between; a guard does so around its script. So a call ends with
interrupts masked as deeply as it found them, unless a callback of it does not, and it makes
every callback as it was itself made: no deeper masked, and with no table locked.
-/

namespace EdfKernel

namespace Activity

/-- An activity that neither masks interrupts for longer nor lifts a mask. -/
def isPlain : Activity → Bool
  | call _ _ | leave _ | unguard | unlock _ => false
  | _ => true

def isRelease : Activity → Bool
  | unguard | unlock _ => true
  | _ => false

end Activity

namespace Call

def setsMask : Call → Bool
  | .platform .mask | .platform .unmask => true
  | _ => false

def isGuard : Call → Bool
  | .platform (.guarded _) | .platform (.locked _ _ _) => true
  | _ => false

end Call

/-- An activity that leaves interrupts masked as deeply, and is no callback. -/
def Activity.isLevel : Activity → Bool
  | call _ op => !op.setsMask && !op.isGuard
  | script _ _ | enter _ _ | leave _ | unguard | unlock _ => false
  | _ => true

theorem Controller.maskDepth_register {η : Type} {controller after : Controller η} {line : Nat}
    {handler : η} (registered : controller.register line handler = .ok after) :
    after.maskDepth = controller.maskDepth := by
  unfold register at registered
  split at registered
  · cases registered
  · split at registered
    · cases registered
    · cases registered
      exact maskDepth_modify ..

theorem Section.next_plain (part : Section) (scheduler : Scheduler) (number : Nat)
    (clock : Ticks) (pipelines : Nat) :
    ∀ duty ∈ (part.effect scheduler number clock pipelines).next, duty.isPlain = true := by
  intro duty member
  rcases part.next_duties scheduler number clock pipelines duty member with
    mine | ⟨pipeline, rfl⟩
  · have worked := (part.effect_done scheduler number clock pipelines).worked
    have made : duty ∈ (part.effect scheduler number clock pipelines).next.filter
        fun activity => activity.isDuty number :=
      List.mem_filter.mpr ⟨member, by simp [Activity.isDuty, mine]⟩
    generalize (part.effect scheduler number clock pipelines).next.filter
      (fun activity => activity.isDuty number) = next at worked made
    generalize (part.effect scheduler number clock pipelines).scheduler.table = after at worked
    cases worked with
    | call | looked => cases made
    | _ =>
        cases List.mem_singleton.mp made
        rfl
  · rfl

namespace Machine

def Unlocked (machine : Machine) : Prop :=
  ∀ (number : Nat) (scheduler : Scheduler),
    machine.scheduler? number = some scheduler → scheduler.locked = false

/-- A callback is about to run, or an event is about to be seen outside. -/
def CallsOut (machine : Machine) : Prop :=
  (∃ current script below, machine.agenda = .script current script :: below) ∨
    machine.step.events ≠ machine.events

variable {machine after : Machine}

/-- What neither masks interrupts nor lifts a mask, and is no callback, leaves them masked as
deeply, and puts only what is plain on the stack. -/
theorem Deed.level {activity : Activity} (deed : machine.Deed activity after)
    (level : activity.isLevel = true) :
    after.irq.maskDepth = machine.irq.maskDepth ∧
      ∃ added, after.agenda = added ++ machine.agenda ∧ ∀ duty ∈ added, duty.isPlain = true := by
  have plain (added : List Activity) (stacked : after.agenda = added ++ machine.agenda)
      (plain : added.all (·.isPlain) = true) :
      ∃ added, after.agenda = added ++ machine.agenda ∧ ∀ duty ∈ added, duty.isPlain = true :=
    ⟨added, stacked, List.all_eq_true.mp plain⟩
  cases deed with
  | masked | unmasked | guarded | locked | unguarded | unlocked | called | waited | entered
  | left => cases level
  | early _ _ _ polls | wokeNobody _ _ _ polls => cases polls <;> exact ⟨rfl, plain [_] rfl rfl⟩
  | rang _ _ _ polls => cases polls <;> exact ⟨rfl, plain [_, _] rfl rfl⟩
  | woke _ _ _ polls =>
      cases polls <;> exact ⟨Controller.maskDepth_modify .., plain [_] rfl rfl⟩
  | putOff _ _ _ _ passes =>
      refine ⟨Controller.maskDepth_modify .., ?_⟩
      cases passes with
      | run | runPass => exact plain [] rfl rfl
      | interrupt => exact plain [_] rfl rfl
  | begun _ _ _ _ passes =>
      refine ⟨Controller.maskDepth_modify .., ?_⟩
      cases passes with
      | run | runPass => exact plain [_] rfl rfl
      | interrupt => exact plain [_, _] rfl rfl
  | registered current line scripts irq registers =>
      exact ⟨Controller.maskDepth_register registers, plain [] rfl rfl⟩
  | setUp current config executor valid irq registers =>
      exact ⟨(Controller.maskDepth_modify ..).trans (Controller.maskDepth_register registers),
        plain [] rfl rfl⟩
  | enabled | disabled | requested | cleared | passRequested =>
      exact ⟨Controller.maskDepth_modify .., plain [] rfl rfl⟩
  | spurious => exact ⟨Controller.maskDepth_modify .., plain [_] rfl rfl⟩
  | interrupted => exact ⟨Controller.maskDepth_modify .., plain [_, _] rfl rfl⟩
  | handed | ranTask | ranCopy | spared | returned | interposed =>
      exact ⟨rfl, plain [_, _] rfl rfl⟩
  | stepped | advanced | dispatched | wentOn | passedOver | unheard | skipped | lookedUp
  | acquired | asked | pipeAsked | startedDriven | stopped => exact ⟨rfl, plain [_] rfl rfl⟩
  | _ => exact ⟨rfl, plain [] rfl rfl⟩

/-- What is left to do of the call `op`, which found interrupts masked to `depth`. -/
inductive Held (op : Call) (depth : UInt32) (machine : Machine) : List Activity → Prop where
  | asked (current : Option TaskHandle) (level : machine.irq.maskDepth = depth) :
      Held op depth machine [.call current op]
  | free (own : List Activity) (plain : ∀ duty ∈ own, duty.isPlain = true)
      (level : machine.irq.maskDepth = depth) : Held op depth machine own
  | inside (number : Nat) (scheduler : Scheduler) (own : List Activity)
      (found : machine.scheduler? number = some scheduler)
      (plain : ∀ duty ∈ own, duty.isPlain = true)
      (level : machine.irq.maskDepth = depth + 1) : Held op depth machine (.leave number :: own)
  | guarding (current : Option TaskHandle) (script : Script) (last : Activity)
      (guards : op.isGuard = true) (lifts : last.isRelease = true)
      (level : machine.irq.maskDepth = depth + 1) :
      Held op depth machine [.script current script, last]
  | lifting (last : Activity) (guards : op.isGuard = true) (lifts : last.isRelease = true)
      (level : machine.irq.maskDepth = depth + 1) : Held op depth machine [last]

namespace Held

variable {op : Call} {depth : UInt32} {activity : Activity} {own rest : List Activity}

theorem step_release (agenda : machine.agenda = activity :: rest)
    (lifts : activity.isRelease = true) :
    machine.step.agenda = rest ∧ machine.step.irq.maskDepth = machine.irq.maskDepth - 1 := by
  rw [step_cons agenda]
  cases activity with
  | unguard | unlock => exact ⟨rfl, rfl⟩
  | _ => cases lifts

theorem step_plain (reachable : Reachable machine)
    (agenda : machine.agenda = activity :: (own ++ rest)) (direct : activity.isScript = false)
    (plain : ∀ duty ∈ activity :: own, duty.isPlain = true)
    (level : machine.irq.maskDepth = depth) :
    ∃ left, machine.step.agenda = left ++ rest ∧ Held op depth machine.step left := by
  have remain : ∀ duty ∈ own, duty.isPlain = true := fun duty member =>
    plain duty (List.mem_cons_of_mem _ member)
  -- A section masks interrupts for one step; all that is plain besides leaves the depth alone.
  by_cases enters : ∃ number part, activity = .enter number part
  · obtain ⟨number, part, rfl⟩ := enters
    cases found : machine.scheduler? number with
    | none =>
        rw [step_enter_gone agenda found]
        exact ⟨own, rfl, .free own remain level⟩
    | some scheduler =>
        have free := reachable.free_of_agenda found agenda fun leaves => by cases leaves
        have held := (step_enter machine number part _ scheduler agenda found free).1
        rw [step_enter_eq agenda found free rfl] at held ⊢
        refine ⟨.leave number ::
          ((part.effect scheduler number machine.clock machine.pipelines.length).next ++ own),
          by simp, .inside number _ _ held (fun duty member => ?_) ?_⟩
        · rcases List.mem_append.mp member with made | before
          · exact part.next_plain scheduler number machine.clock machine.pipelines.length duty made
          · exact remain duty before
        · dsimp only
          split
          · exact (Controller.maskDepth_modify ..).trans (congrArg (· + 1) level)
          · exact congrArg (· + 1) level
  · have steady : activity.isLevel = true := by
      have itself := plain activity List.mem_cons_self
      cases activity with
      | script => cases direct
      | enter number part => exact absurd ⟨number, part, rfl⟩ enters
      | _ => first | rfl | cases itself
    obtain ⟨same, added, here, bare⟩ := (step_deed agenda).level steady
    refine ⟨added ++ own, by rw [here, List.append_assoc],
      .free _ (fun duty member => ?_) (same.trans level)⟩
    rcases List.mem_append.mp member with new | before
    · exact bare duty new
    · exact remain duty before

theorem step_call {current : Option TaskHandle}
    (agenda : machine.agenda = .call current op :: rest) (steady : op.setsMask = false)
    (level : machine.irq.maskDepth = depth) :
    ∃ left, machine.step.agenda = left ++ rest ∧ Held op depth machine.step left := by
  cases guards : op.isGuard with
  | false =>
      obtain ⟨same, added, here, plain⟩ :=
        (step_deed agenda).level (by simp [Activity.isLevel, steady, guards])
      exact ⟨added, here, .free added plain (same.trans level)⟩
  | true =>
      rw [step_cons agenda]
      cases op with
      | platform call =>
          cases call with
          | guarded script =>
              exact ⟨[.script current script, .unguard], rfl,
                .guarding current script .unguard guards rfl (congrArg (· + 1) level)⟩
          | locked value add script =>
              exact ⟨[.script current script, .unlock (value + add)], rfl,
                .guarding current script _ guards rfl (congrArg (· + 1) level)⟩
          | _ => cases guards
      | _ => cases guards

theorem act (reachable : Reachable machine) (held : Held op depth machine (activity :: own))
    (agenda : machine.agenda = activity :: (own ++ rest)) (direct : activity.isScript = false)
    (steady : op.setsMask = false) :
    ∃ left, machine.step.agenda = left ++ rest ∧ Held op depth machine.step left := by
  cases held with
  | asked current level => exact step_call agenda steady level
  | free _ plain level => exact step_plain reachable agenda direct plain level
  | inside number scheduler _ found plain level =>
      rw [step_leave agenda found]
      refine ⟨own, rfl, .free own plain ?_⟩
      change machine.irq.maskDepth - 1 = depth
      rw [level, UInt32.add_sub_cancel]
  | guarding => cases direct
  | lifting _ guards lifts level =>
      obtain ⟨gone, lower⟩ := step_release agenda lifts
      refine ⟨[], gone, .free [] (List.forall_mem_nil _) ?_⟩
      rw [lower, level, UInt32.add_sub_cancel]

theorem back {current : Option TaskHandle} {script : Script}
    (held : Held op depth machine (.script current script :: own))
    (same : after.irq.maskDepth = machine.irq.maskDepth) : Held op depth after own := by
  cases held with
  | free _ plain level =>
      exact .free own (fun duty member => plain duty (List.mem_cons_of_mem _ member))
        (same.trans level)
  | guarding _ _ last guards lifts level => exact .lifting last guards lifts (same.trans level)
  | lifting _ guards lifts => cases lifts

end Held

namespace InControl

variable {op : Call} {current : Option TaskHandle} {rest : List Activity} {k : Nat}

theorem held (control : machine.InControl rest k) (reachable : Reachable machine)
    (agenda : machine.agenda = .call current op :: rest) (steady : op.setsMask = false)
    (balanced : machine.CallbacksBalanced rest) :
    ∃ own, (machine.run k).agenda = own ++ rest ∧
      Held op machine.irq.maskDepth (machine.run k) own := by
  induction control with
  | entry => exact ⟨[.call current op], agenda, .asked current rfl⟩
  | @act k activity below _ front longer direct ih =>
      obtain ⟨own, here, held⟩ := ih
      obtain ⟨more, rfl, rfl⟩ := above_of_cons (here.symm.trans front) longer
      rw [run_add, run_succ]
      exact held.act (reachable.run k) front direct steady
  | @back k length task script below control front longer returns ih =>
      obtain ⟨own, here, held⟩ := ih
      obtain ⟨more, rfl, rfl⟩ := above_of_cons (here.symm.trans front) longer
      refine ⟨more, ?_, held.back (balanced k length task script _ control front longer returns)⟩
      rw [run_add]
      exact returns.back

end InControl

variable {op : Call} {current : Option TaskHandle} {rest : List Activity}

theorem Reachable.unlocked (reachable : Reachable machine)
    (outside : ∀ number below, machine.agenda ≠ .leave number :: below) : machine.Unlocked := by
  intro number scheduler found
  rw [← Bool.not_eq_true]
  intro locked
  obtain ⟨below, agenda⟩ := reachable.leave_of_locked found locked
  exact outside number below agenda

theorem CallsOut.outside (calls : machine.CallsOut) (number : Nat) (below : List Activity) :
    machine.agenda ≠ .leave number :: below := by
  intro agenda
  rcases calls with ⟨task, script, under, front⟩ | emits
  · rw [agenda] at front
    cases front
  · apply emits
    rw [step_cons agenda]
    simp only [carryOut, leave]
    split <;> rfl

/-- Masking is balanced, and nothing is called under the lock. A call that does not set the
mask returns with interrupts masked as deeply as it found them, on every path, if the
callbacks that it makes do so. If it is not itself a guard, it makes every callback and
shows every event with interrupts masked as deeply as at its entry and, as there, no table
locked. And whoever comes to enter a section finds the lock of its table free. -/
theorem masking_balanced (reachable : Reachable machine)
    (agenda : machine.agenda = .call current op :: rest) (steady : op.setsMask = false)
    (balanced : machine.CallbacksBalanced rest) :
    (∀ steps, machine.Returns rest steps →
      (machine.run steps).irq.maskDepth = machine.irq.maskDepth) ∧
    (op.isGuard = false → machine.Unlocked ∧
      ∀ k, machine.InControl rest k → rest.length < (machine.run k).agenda.length →
        (machine.run k).CallsOut →
          (machine.run k).irq.maskDepth = machine.irq.maskDepth ∧ (machine.run k).Unlocked) ∧
    ∀ k number part below scheduler, (machine.run k).agenda = .enter number part :: below →
      (machine.run k).scheduler? number = some scheduler → scheduler.locked = false := by
  refine ⟨fun steps returns => ?_, fun unguarded => ⟨?_, fun k control longer calls => ?_⟩,
    fun k number part below scheduler front found => ?_⟩
  · have alone : machine.agenda = [.call current op] ++ rest := agenda
    have control := InControl.entry.returns alone returns
    rw [Nat.zero_add] at control
    obtain ⟨own, here, held⟩ := control.held reachable agenda steady balanced
    have nothing : own = [] := by
      have same := congrArg List.length (here.symm.trans returns.back)
      rw [List.length_append] at same
      exact List.eq_nil_of_length_eq_zero (by omega)
    subst nothing
    cases held with
    | free _ _ level => exact level
  · apply reachable.unlocked
    intro number below leaves
    rw [agenda] at leaves
    cases leaves
  · obtain ⟨own, here, held⟩ := control.held reachable agenda steady balanced
    refine ⟨?_, (reachable.run k).unlocked calls.outside⟩
    cases held with
    | asked _ level | free _ _ level => exact level
    | inside number => exact absurd here (calls.outside number _)
    | guarding _ _ _ guards | lifting _ guards =>
        rw [unguarded] at guards
        cases guards
  · exact (reachable.run k).free_of_agenda found front fun leaves => by cases leaves

/-- A machine on which a task is about to be made, and before that somebody else masks
interrupts for a moment. -/
def intruded : Machine :=
  ((boot 0).exec 1 (.init ⟨1000000, 0, 7, 1⟩ .inline) fun _ => none).start
    (.scheduler 0 (.create [] .default)) (interposeAt 1 [.platform .mask, .platform .unmask])

theorem intruded_reachable : Reachable intruded :=
  .start _ _ (.exec (.boot 0) rfl _ _ _) rfl

theorem intruded_returns (below : List Activity) (agenda : (intruded.run 2).agenda =
    .script none [.platform .mask, .platform .unmask] :: below) :
    (intruded.run 2).Returns below 7 := by
  obtain ⟨-, rfl⟩ := List.cons.inj agenda
  refine ⟨rfl, fun k less => ?_⟩
  interval_cases k <;> decide

theorem intruded_control {k : Nat} (control : intruded.InControl [] k) :
    k ∈ [0, 1, 2, 9, 10, 11] := by
  induction control with
  | entry => decide
  | @act k activity below _ front _ direct ih =>
      fin_cases ih
      · decide
      · decide
      · obtain ⟨rfl, -⟩ := List.cons.inj front
        cases direct
      · decide
      · decide
      · cases front
  | @back k length current script below _ front _ returns ih =>
      fin_cases ih
      · cases front
      · cases front
      · obtain ⟨same, -⟩ := List.cons.inj front
        cases same
        rw [returns.unique (intruded_returns below front)]
        decide
      · cases front
      · cases front
      · cases front

theorem intruded_balanced : intruded.CallbacksBalanced [] := by
  intro k length current script below control front _ returns
  have moment := intruded_control control
  fin_cases moment
  · cases front
  · cases front
  · obtain ⟨same, -⟩ := List.cons.inj front
    cases same
    rw [returns.unique (intruded_returns below front)]
    rfl
  · cases front
  · cases front
  · cases front

/-- The task is made, and interrupts are as open as before; whoever came first was called with
no lock held. -/
theorem intruded_masking :
    intruded.CallbacksBalanced [] ∧ intruded.Returns [] 11 ∧
      (intruded.run 11).irq.maskDepth = intruded.irq.maskDepth ∧ (intruded.run 2).CallsOut ∧
      (intruded.run 2).Unlocked := by
  have returns : intruded.Returns [] 11 := by
    refine ⟨rfl, fun k less => ?_⟩
    interval_cases k <;> decide
  have control : intruded.InControl [] 2 :=
    .act (.act .entry rfl (Nat.zero_le _) rfl) rfl (Nat.zero_le _) rfl
  have calls : (intruded.run 2).CallsOut := .inl ⟨_, _, _, rfl⟩
  obtain ⟨level, outside, _⟩ :=
    masking_balanced intruded_reachable rfl rfl intruded_balanced
  obtain ⟨_, made⟩ := outside rfl
  exact ⟨intruded_balanced, returns, level 11 returns, calls,
    (made 2 control (by decide) calls).2⟩

end Machine

end EdfKernel
