import EdfKernel.Proofs.PipelineChanges

/-!
Two things that few activities do. Only a dispatch has lines swept, and only a report tells of an
overrun. Whatever else is carried out puts no sweep on the stack, and is not heard of by whoever
is to be told of overruns.
-/

namespace EdfKernel

namespace Event

def overrun? : Event → Option (UInt32 × UInt32)
  | xrun id bytes => some (id, bytes)
  | _ => none

end Event

namespace Activity

def isSweep : Activity → Bool
  | sweep _ _ _ => true
  | _ => false

/-- Has lines looked at, from the first one or from another one on. -/
def sweeps : Activity → Bool
  | call _ (.platform .dispatch) | dispatch _ | sweep _ _ _ => true
  | _ => false

end Activity

theorem Section.next_unswept (part : Section) (scheduler : Scheduler) (number : Nat)
    (clock : Ticks) (pipelines : Nat) :
    ∀ duty ∈ (part.effect scheduler number clock pipelines).next, duty.isSweep = false := by
  intro duty member
  rcases part.next_duties scheduler number clock pipelines duty member with
    mine | ⟨pipeline, rfl⟩
  · cases duty with
    | sweep => cases mine
    | _ => rfl
  · rfl

namespace Machine

def overruns (machine : Machine) : List (UInt32 × UInt32) :=
  machine.events.toList.filterMap Event.overrun?

theorem overruns_emit (machine : Machine) (event : Event) :
    (machine.emit event).overruns = machine.overruns ++ event.overrun?.toList := by
  simp only [overruns, emit, Array.toList_push, List.filterMap_append]
  cases event <;> rfl

theorem overruns_push (events : Array Event) {event : Event} (other : event.overrun? = none) :
    (events.push event).toList.filterMap Event.overrun? =
      events.toList.filterMap Event.overrun? := by
  rw [Array.toList_push, List.filterMap_append, List.filterMap_cons_none other, List.filterMap_nil,
    List.append_nil]

namespace Deed

variable {machine after : Machine} {activity : Activity}

theorem swept (deed : machine.Deed activity after) :
    ∃ added, after.agenda = added ++ machine.agenda ∧
      ∀ duty ∈ added, duty.isSweep = true → activity.sweeps = true := by
  have unswept (added : List Activity) (stacked : after.agenda = added ++ machine.agenda)
      (plain : added.any (·.isSweep) = false) :
      ∃ added, after.agenda = added ++ machine.agenda ∧
        ∀ duty ∈ added, duty.isSweep = true → activity.sweeps = true :=
    ⟨added, stacked, fun duty member sweeps =>
      absurd sweeps (List.any_eq_false.mp plain duty member)⟩
  cases deed with
  | early _ _ _ polls | woke _ _ _ polls | wokeNobody _ _ _ polls =>
      cases polls <;> exact unswept [_] rfl rfl
  | rang _ _ _ polls => cases polls <;> exact unswept [_, _] rfl rfl
  | dispatched _ _ dispatches => cases dispatches <;> exact ⟨[_], rfl, fun _ _ _ => rfl⟩
  | passedOver | spurious | unheard => exact ⟨[_], rfl, fun _ _ _ => rfl⟩
  | interrupted => exact ⟨[_, _], rfl, fun _ _ _ => rfl⟩
  | putOff _ _ _ _ passes =>
      cases passes with
      | run | runPass => exact unswept [] rfl rfl
      | interrupt => exact ⟨[_], rfl, fun _ _ _ => rfl⟩
  | begun _ _ _ _ passes =>
      cases passes with
      | run | runPass => exact unswept [_] rfl rfl
      | interrupt => exact ⟨[_, _], rfl, fun _ _ _ => rfl⟩
  | entered number part scheduler effect found free made =>
      subst made
      refine ⟨.leave number :: _, rfl, fun duty member sweeps => ?_⟩
      rcases List.mem_cons.mp member with rfl | next
      · cases sweeps
      · rw [part.next_unswept _ _ _ _ duty next] at sweeps
        cases sweeps
  | called => exact unswept [_, _, _] rfl rfl
  | guarded | locked | handed | ranTask | ranCopy | spared | returned | interposed =>
      exact unswept [_, _] rfl rfl
  | stepped | advanced | wentOn | skipped | lookedUp | acquired | waited | asked | pipeAsked
  | startedDriven | stopped => exact unswept [_] rfl rfl
  | _ => exact unswept [] rfl rfl

theorem silent (deed : machine.Deed activity after) (silent : activity.reports? = none) :
    after.overruns = machine.overruns := by
  cases deed with
  | told _ _ _ reports => cases reports <;> cases silent
  | reported | rang | interrupted | ranTask | ranCopy | interposed => exact overruns_push _ rfl
  | handed =>
      simp only [overruns]
      split
      · rfl
      · exact overruns_push _ rfl
  | _ => rfl

end Deed

section Step

variable {machine : Machine} {activity : Activity} {below : List Activity}
  (agenda : machine.agenda = activity :: below)

include agenda

theorem step_swept_by :
    ∃ added, machine.step.agenda = added ++ below ∧
      ∀ duty ∈ added, duty.isSweep = true → activity.sweeps = true :=
  (step_deed agenda).swept

theorem step_silent (silent : activity.reports? = none) :
    machine.step.overruns = machine.overruns :=
  (step_deed agenda).silent silent

end Step

end Machine

end EdfKernel
