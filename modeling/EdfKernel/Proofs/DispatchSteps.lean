import EdfKernel.Proofs.StepOutcomes

/-!
A dispatch step by step. It is over at once if interrupts are masked; else it comes to the lines
one by one. One that is open, raised and has a handler has that started; one that is open and
raised in vain is lowered; and behind the last line the count is handed on.
-/

namespace EdfKernel

namespace Controller

variable {η : Type} (irq : Controller η) (n : Nat)

/-- A sweep that comes to this line starts its handler. -/
def startsHandler : Bool :=
  (irq.line? n).any fun line => line.isReady && line.handler.isSome

def passOver : Controller η :=
  if (irq.line? n).any (·.isReady) then irq.clear n else irq

@[simp] theorem maskDepth_passOver : (irq.passOver n).maskDepth = irq.maskDepth := by
  unfold passOver
  split
  · exact maskDepth_modify ..
  · rfl

variable {irq n}

theorem line?_of_le (outside : lineCount ≤ n) : irq.line? n = none := by
  have absent := irq.line?_isSome n
  rw [decide_eq_false (Nat.not_lt.mpr outside), Option.isSome_eq_false_iff,
    Option.isNone_iff_eq_none] at absent
  exact absent

theorem startsHandler_iff :
    irq.startsHandler n = true ↔ ∃ line handler, irq.line? n = some line ∧
      line.isReady = true ∧ line.handler = some handler := by
  simp only [startsHandler, Option.any_eq_true, Bool.and_eq_true, Option.isSome_iff_exists]
  constructor
  · rintro ⟨line, found, ready, handler, handles⟩
    exact ⟨line, handler, found, ready, handles⟩
  · rintro ⟨line, handler, found, ready, handles⟩
    exact ⟨line, found, ready, handler, handles⟩

end Controller

namespace Machine

variable {machine : Machine} {tally : Tally} {rest : List Activity} {line delivered : Nat}

inductive Dispatches (machine : Machine) (tally : Tally) (rest : List Activity) : Prop where
  | round (agenda : machine.agenda = .dispatch tally :: rest)
  | call (current : Option TaskHandle) (own : tally = .caller)
      (agenda : machine.agenda = .call current (.platform .dispatch) :: rest)

theorem Dispatches.step (dispatches : machine.Dispatches tally rest) :
    machine.step = ({ machine with agenda := rest } : Machine).dispatch tally := by
  cases dispatches with
  | round agenda => exact step_cons agenda
  | call current own agenda =>
      subst own
      exact step_cons agenda

theorem Dispatches.step_masked (dispatches : machine.Dispatches tally rest)
    (masked : machine.irq.isMasked = true) :
    machine.step = ({ machine with agenda := rest } : Machine).tally 0 tally := by
  rw [dispatches.step, dispatch]
  simp only [masked, if_true]

theorem Dispatches.step_open (dispatches : machine.Dispatches tally rest)
    (unmasked : machine.irq.isMasked = false) :
    machine.step = { machine with agenda := .sweep 0 0 tally :: rest } := by
  rw [dispatches.step, dispatch]
  simp only [unmasked, Bool.false_eq_true, if_false]
  rfl

theorem deliver_unswept (machine : Machine) (line : Nat) (handler : Handler) :
    ∃ front, (machine.deliver line handler).agenda = front ++ machine.agenda ∧
      ∀ duty ∈ front, duty.isSweep = false := by
  have nothing : ∀ duty ∈ ([] : List Activity), duty.isSweep = false := List.forall_mem_nil _
  cases handler with
  | scripts turns => exact ⟨[.script none _], rfl, by simp [Activity.isSweep]⟩
  | scheduler number =>
      simp only [deliver]
      split
      case isFalse => exact ⟨[], rfl, nothing⟩
      case isTrue =>
        unfold beginPass
        split
        · exact ⟨[], rfl, nothing⟩
        · split
          · exact ⟨[], rfl, nothing⟩
          · exact ⟨[.acquire number _], rfl, by simp [Activity.isSweep]⟩

section Sweep

variable (agenda : machine.agenda = .sweep line delivered tally :: rest)

include agenda

theorem step_swept (outside : lineCount ≤ line) :
    machine.step = ({ machine with agenda := rest } : Machine).tally delivered tally := by
  rw [step_cons agenda]
  simp only [carryOut, sweep, Controller.line?_of_le outside]

theorem step_over (inside : line < lineCount) (passes : machine.irq.startsHandler line = false) :
    machine.step =
      { machine with
        irq := machine.irq.passOver line
        agenda := .sweep (line + 1) delivered tally :: rest } := by
  have present := machine.irq.line?_isSome line
  rw [decide_eq_true inside] at present
  obtain ⟨state, found⟩ := Option.isSome_iff_exists.mp present
  rw [step_cons agenda]
  simp only [carryOut, sweep, found, Controller.passOver, Option.any_some]
  cases ready : state.isReady with
  | false => rfl
  | true =>
      cases handles : state.handler with
      | none => rfl
      | some handler =>
          rw [Controller.startsHandler_iff.mpr ⟨state, handler, found, ready, handles⟩] at passes
          cases passes

theorem step_serve (starts : machine.irq.startsHandler line = true) :
    ∃ front, machine.step.agenda = front ++ .sweep (line + 1) (delivered + 1) tally :: rest ∧
      ∀ duty ∈ front, duty.isSweep = false := by
  obtain ⟨state, handler, found, ready, handles⟩ := Controller.startsHandler_iff.mp starts
  rw [step_cons agenda]
  simp only [carryOut, sweep, found, ready, handles, if_true]
  exact deliver_unswept _ line handler

end Sweep

theorem tally_unswept (machine : Machine) (count : Nat) (tally : Tally) :
    ∃ front, (machine.tally count tally).agenda = front ++ machine.agenda ∧
      ∀ duty ∈ front, duty.isSweep = false := by
  have nothing : ∀ duty ∈ ([] : List Activity), duty.isSweep = false := List.forall_mem_nil _
  cases tally with
  | caller => exact ⟨[], rfl, nothing⟩
  | round rounds delivered fired =>
      simp only [Machine.tally]
      split
      · exact ⟨[], rfl, nothing⟩
      · exact ⟨[.round rounds _], rfl, by simp [Activity.isSweep]⟩

end Machine

end EdfKernel
