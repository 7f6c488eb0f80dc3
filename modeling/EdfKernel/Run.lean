import EdfKernel.Step

/-!
Running the kernel: a call is put on an idle machine and its activities are
carried out until none is left. `Reachable` holds of every state in between,
whatever calls are made and whatever is interposed.
-/

namespace EdfKernel

namespace Machine

def isIdle (machine : Machine) : Bool := machine.agenda.isEmpty

/-- A script that comes first at one moment, and nothing at any other. -/
def interposeAt (moment : Nat) (script : Script) : Nat → Option Script :=
  fun n => if n = moment then some script else none

def start (machine : Machine) (call : Call) (interposed : Nat → Option Script) : Machine :=
  { machine with agenda := [.call none call], interposed, acquisitions := 0 }

def run : (fuel : Nat) → Machine → Machine
  | 0, machine => machine
  | fuel + 1, machine => if machine.isIdle then machine else run fuel machine.step

def exec (machine : Machine) (fuel : Nat) (call : Call) (interposed : Nat → Option Script) :
    Machine :=
  (machine.start call interposed).run fuel

/-- The states between the first boot and the end of any sequence of calls. -/
inductive Reachable : Machine → Prop where
  | boot (start : Ticks) : Reachable (boot start)
  | start {machine : Machine} (call : Call) (interposed : Nat → Option Script) :
      Reachable machine → machine.agenda = [] → Reachable (machine.start call interposed)
  | step {machine : Machine} : Reachable machine → Reachable machine.step

theorem run_of_isIdle (machine : Machine) (fuel : Nat) (rest : machine.isIdle = true) :
    machine.run fuel = machine := by
  cases fuel with
  | zero => rfl
  | succ fuel => simp [run, rest]

theorem step_of_isIdle (machine : Machine) (rest : machine.isIdle = true) :
    machine.step = machine := by
  simp only [isIdle, List.isEmpty_iff] at rest
  simp [step, rest]

theorem run_succ (machine : Machine) (fuel : Nat) :
    machine.run (fuel + 1) = machine.step.run fuel := by
  by_cases rest : machine.isIdle = true
  · rw [run_of_isIdle machine _ rest, step_of_isIdle machine rest, run_of_isIdle machine _ rest]
  · simp [run, rest]

theorem run_add (machine : Machine) (first second : Nat) :
    machine.run (first + second) = (machine.run first).run second := by
  induction first generalizing machine with
  | zero => simp [run]
  | succ first ih => rw [Nat.succ_add, run_succ, run_succ, ih]

theorem Reachable.run {machine : Machine} (reachable : Reachable machine) (fuel : Nat) :
    Reachable (machine.run fuel) := by
  induction fuel generalizing machine with
  | zero => exact reachable
  | succ fuel ih =>
      rw [run_succ]
      exact ih reachable.step

theorem Reachable.exec {machine : Machine} (reachable : Reachable machine)
    (rest : machine.agenda = []) (fuel : Nat) (call : Call) (interposed : Nat → Option Script) :
    Reachable (machine.exec fuel call interposed) :=
  .run (.start call interposed reachable rest) fuel

end Machine

end EdfKernel
