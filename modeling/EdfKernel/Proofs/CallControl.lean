import EdfKernel.Proofs.Stack

/-!
What a call does itself, and what it has others do. A call is over when the stack is back to
what was below it. Until then it is in control, except while a script runs that it had run:
one that comes to the front of the stack belongs to a callback, and the call is in control
again once the callback has returned.
-/

namespace EdfKernel

namespace Activity

/-- A callback is about to run, or to go on. -/
def isScript : Activity → Bool
  | script _ _ => true
  | _ => false

end Activity

namespace Machine

variable {machine : Machine} {rest : List Activity} {steps : Nat}

theorem Returns.passes {below later above : List Activity} (returns : machine.Returns below steps)
    (agenda : machine.agenda = above ++ (later ++ below)) :
    ∃ length ≤ steps, machine.Returns (later ++ below) length := by
  -- By induction on the steps: each may put more above, but takes nothing from what is below.
  induction steps generalizing machine above with
  | zero =>
      have longer := congrArg List.length (returns.back.symm.trans agenda)
      simp only [List.length_append] at longer
      have nothing : above = [] := List.eq_nil_of_length_eq_zero (by omega)
      exact ⟨0, Nat.le_refl 0, by rw [run, agenda, nothing, List.nil_append],
        fun k less => absurd less (Nat.not_lt_zero k)⟩
  | succ steps ih =>
      cases above with
      | nil => exact ⟨0, Nat.zero_le _, agenda, fun k less => absurd less (Nat.not_lt_zero k)⟩
      | cons activity above =>
          have longer : (later ++ below).length < machine.agenda.length := by
            rw [agenda]
            simp only [List.length_append, List.length_cons]
            omega
          have more : below.length < machine.agenda.length := by
            rw [List.length_append] at longer
            omega
          obtain ⟨fewer, same, there⟩ := returns.step more
          cases same
          obtain ⟨left, stepped⟩ := step_above agenda (List.cons_ne_nil activity above)
          obtain ⟨length, less, passed⟩ := ih there stepped
          refine ⟨length + 1, Nat.succ_le_succ less, ?_, fun k before => ?_⟩
          · rw [run_succ]
            exact passed.back
          · cases k with
            | zero => exact longer
            | succ k =>
                rw [run_succ]
                exact passed.above k (Nat.lt_of_succ_lt_succ before)

theorem Returns.unique {below : List Activity} {fewer : Nat} (first : machine.Returns below steps)
    (second : machine.Returns below fewer) : steps = fewer := by
  have not_less {one other : Nat} (returns : machine.Returns below one)
      (again : machine.Returns below other) : ¬one < other := by
    intro less
    have above := again.above one less
    rw [returns.back] at above
    exact Nat.lt_irrefl _ above
  exact Nat.le_antisymm (Nat.le_of_not_lt (not_less second first))
    (Nat.le_of_not_lt (not_less first second))

/-- So many steps from here what is above `rest` is carried out itself, and no callback of it. -/
inductive InControl (machine : Machine) (rest : List Activity) : Nat → Prop where
  | entry : InControl machine rest 0
  | act {k : Nat} {activity : Activity} {below : List Activity} :
      InControl machine rest k → (machine.run k).agenda = activity :: below →
      rest.length ≤ below.length → activity.isScript = false → InControl machine rest (k + 1)
  | back {k length : Nat} {current : Option TaskHandle} {script : Script}
      {below : List Activity} :
      InControl machine rest k → (machine.run k).agenda = .script current script :: below →
      rest.length ≤ below.length → (machine.run k).Returns below length →
      InControl machine rest (k + length)

/-- Every callback that is made directly returns with interrupts masked as deeply as it
found them. -/
def CallbacksBalanced (machine : Machine) (rest : List Activity) : Prop :=
  ∀ (k length : Nat) (current : Option TaskHandle) (script : Script) (below : List Activity),
    machine.InControl rest k → (machine.run k).agenda = .script current script :: below →
    rest.length ≤ below.length → (machine.run k).Returns below length →
    (machine.run (k + length)).irq.maskDepth = (machine.run k).irq.maskDepth

theorem above_of_cons {activity : Activity} {above below : List Activity}
    (agenda : above ++ rest = activity :: below) (longer : rest.length ≤ below.length) :
    ∃ more, above = activity :: more ∧ below = more ++ rest := by
  cases above with
  | nil =>
      have same : rest = activity :: below := agenda
      rw [same, List.length_cons] at longer
      omega
  | cons first more =>
      obtain ⟨rfl, rfl⟩ := List.cons.inj agenda
      exact ⟨more, rfl, rfl⟩

namespace InControl

variable {k : Nat} {own : List Activity}

theorem above (control : machine.InControl rest k) (agenda : machine.agenda = own ++ rest) :
    ∃ left, (machine.run k).agenda = left ++ rest := by
  induction control with
  | entry => exact ⟨own, agenda⟩
  | @act k activity below _ front longer _ ih =>
      obtain ⟨left, here⟩ := ih
      obtain ⟨more, rfl, rfl⟩ := above_of_cons (here.symm.trans front) longer
      obtain ⟨later, there⟩ := step_above here (List.cons_ne_nil activity more)
      exact ⟨later, by rw [run_add, run_succ]; exact there⟩
  | @back k length current script below _ front longer returns ih =>
      obtain ⟨left, here⟩ := ih
      obtain ⟨more, rfl, rfl⟩ := above_of_cons (here.symm.trans front) longer
      exact ⟨more, by rw [run_add]; exact returns.back⟩

theorem returns (control : machine.InControl rest k) (agenda : machine.agenda = own ++ rest)
    (returns : (machine.run k).Returns rest steps) : machine.InControl rest (k + steps) := by
  -- Each stage, an own step or a whole callback, is a part of the steps that are left.
  induction steps using Nat.strongRecOn generalizing k with
  | ind steps ih =>
      cases steps with
      | zero => exact control
      | succ steps =>
          obtain ⟨left, here⟩ := control.above agenda
          have longer := returns.above 0 (Nat.succ_pos steps)
          change rest.length < (machine.run k).agenda.length at longer
          cases front : (machine.run k).agenda with
          | nil =>
              rw [front] at longer
              exact absurd longer (Nat.not_lt_zero _)
          | cons activity below =>
              rw [front, List.length_cons] at longer
              have kept : rest.length ≤ below.length := Nat.le_of_lt_succ longer
              have stages (first second : Nat) (sum : first + second = steps + 1)
                  (stage : machine.InControl rest (k + first)) (progress : 0 < first) :
                  machine.InControl rest (k + (steps + 1)) := by
                have there : (machine.run (k + first)).Returns rest second := by
                  refine ⟨?_, fun j less => ?_⟩
                  · rw [← run_add, Nat.add_assoc, sum, run_add]
                    exact returns.back
                  · rw [← run_add, Nat.add_assoc, run_add]
                    exact returns.above (first + j) (by omega)
                have ended := ih second (by omega) stage there
                rwa [Nat.add_assoc, sum] at ended
              cases scripted : activity.isScript with
              | false =>
                  exact stages 1 steps (by omega) (.act control front kept scripted) Nat.one_pos
              | true =>
                  cases activity with
                  | script current script =>
                      obtain ⟨more, rfl, rfl⟩ := above_of_cons (here.symm.trans front) kept
                      have split : (machine.run k).agenda =
                          [.script current script] ++ (more ++ rest) := front
                      obtain ⟨length, less, passed⟩ := returns.passes split
                      have progress : 0 < length := by
                        cases length with
                        | zero =>
                            have back : (machine.run k).agenda = more ++ rest := passed.back
                            have longer := congrArg List.length (front.symm.trans back)
                            simp at longer
                        | succ length => exact Nat.succ_pos length
                      exact stages length (steps + 1 - length) (by omega)
                        (.back control front kept passed) progress
                  | _ => cases scripted

end InControl

end Machine

end EdfKernel
