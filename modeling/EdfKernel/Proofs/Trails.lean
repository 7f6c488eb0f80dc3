import EdfKernel.Run
import Mathlib.Data.List.Defs

/-!
What lies behind a state. A trail is a run from the first boot together with the states in
which its steps were taken, so that what happened on the way can be counted and dated.
-/

namespace EdfKernel

namespace Machine

/-- A run and the states in which its steps were taken, the latest in front. -/
inductive Trail : List Machine → Machine → Prop where
  | boot (start : Ticks) : Trail [] (boot start)
  | start {past : List Machine} {machine : Machine} (call : Call)
      (interposed : Nat → Option Script) :
      Trail past machine → machine.agenda = [] → Trail past (machine.start call interposed)
  | step {past : List Machine} {machine : Machine} :
      Trail past machine → Trail (machine :: past) machine.step

/-- At some moment there was such an event, and no reset came after it. -/
inductive Since (event reset : Machine → Prop) : List Machine → Prop where
  | now {past : List Machine} {machine : Machine} :
      event machine → Since event reset (machine :: past)
  | later {past : List Machine} {machine : Machine} :
      ¬ reset machine → Since event reset past → Since event reset (machine :: past)

theorem since_cons {event reset : Machine → Prop} {past : List Machine} {machine : Machine} :
    Since event reset (machine :: past) ↔
      event machine ∨ ¬ reset machine ∧ Since event reset past := by
  constructor
  · intro since
    cases since with
    | now happens => exact .inl happens
    | later unreset before => exact .inr ⟨unreset, before⟩
  · rintro (happens | ⟨unreset, before⟩)
    · exact .now happens
    · exact .later unreset before

variable {past : List Machine} {machine : Machine}

theorem Trail.reachable (trail : Trail past machine) : Reachable machine := by
  induction trail with
  | boot start => exact .boot start
  | start call interposed _ rest ih => exact .start call interposed ih rest
  | step _ ih => exact .step ih

theorem Reachable.trail (reachable : Reachable machine) : ∃ past, Trail past machine := by
  induction reachable with
  | boot start => exact ⟨[], .boot start⟩
  | start call interposed _ rest ih =>
      obtain ⟨past, trail⟩ := ih
      exact ⟨past, .start call interposed trail rest⟩
  | @step machine _ ih =>
      obtain ⟨past, trail⟩ := ih
      exact ⟨machine :: past, .step trail⟩

/-- The states in which the first steps from a machine are taken, on top of its past. -/
def passed (past : List Machine) (machine : Machine) : (steps : Nat) → List Machine
  | 0 => past
  | steps + 1 => machine.run steps :: passed past machine steps

theorem Since.passed {event reset : Machine → Prop} {steps moment : Nat} (less : moment < steps)
    (happens : event (machine.run moment))
    (kept : ∀ k < steps, moment < k → ¬ reset (machine.run k)) :
    Since event reset (passed past machine steps) := by
  induction steps with
  | zero => cases less
  | succ steps ih =>
      rcases Nat.lt_succ_iff_lt_or_eq.mp less with before | rfl
      · exact .later (kept steps (Nat.lt_succ_self steps) before)
          (ih before fun k below => kept k (Nat.lt_succ_of_lt below))
      · exact .now happens

theorem Since.run {event reset : Machine → Prop} (since : Since event reset past) {steps : Nat}
    (kept : ∀ k < steps, ¬ reset (machine.run k)) :
    Since event reset (Machine.passed past machine steps) := by
  induction steps with
  | zero => exact since
  | succ steps ih =>
      exact .later (kept steps (Nat.lt_succ_self steps)) (ih fun k below =>
        kept k (Nat.lt_succ_of_lt below))

theorem Trail.run (trail : Trail past machine) (steps : Nat) :
    Trail (passed past machine steps) (machine.run steps) := by
  induction steps with
  | zero => exact trail
  | succ steps ih =>
      rw [run_add, run_succ]
      exact .step ih

/-- The calls of a session, each with enough fuel, and nothing interposed. -/
def session : List (Nat × Call) → List Machine × Machine
  | [] => ([], boot 0)
  | (fuel, call) :: earlier =>
      let (past, machine) := session earlier
      (passed past (machine.start call fun _ => none) fuel,
        machine.exec fuel call fun _ => none)

theorem session_trail (calls : List (Nat × Call))
    (rests : ∀ later ∈ calls.tails, (session later).2.isIdle = true) :
    Trail (session calls).1 (session calls).2 := by
  induction calls with
  | nil => exact .boot 0
  | cons call earlier ih =>
      simp only [List.tails, List.forall_mem_cons] at rests
      have idle := rests.2 earlier (by cases earlier <;> exact List.mem_cons_self)
      exact .run (.start call.2 _ (ih rests.2) (List.isEmpty_iff.mp idle)) call.1

end Machine

end EdfKernel
