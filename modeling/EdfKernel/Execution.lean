import EdfKernel.Machine

/-!
The part of a pass that runs without the lock: the executor runs the work it was
handed, and the pass ends.
-/

namespace EdfKernel

namespace Machine

def runWork (machine : Machine) (number : Nat) (dispatch : Dispatch) (work : Work)
    (overruled : Option WorkStatus) (after : Script) : Machine :=
  match work with
  | .task routine =>
      let turn := routine.turn
      (machine.emit (.work dispatch.task (routine.runs + 1))).push
        [.script (some dispatch.task) turn.calls,
          .returned number dispatch work.advance (.fixed (overruled.getD turn.status)) after]
  | .copy pipeline routine =>
      let id := ((machine.pipelines[pipeline]?).map fun pipeline => pipeline.desc.id).getD 0
      -- The pipeline is asked once the copy is over, whose calls may have stopped it.
      let verdict := (overruled.map Verdict.fixed).getD (.pipeline pipeline)
      (machine.emit (.copy id (routine.runs + 1))).push
        [.script none routine.turn.calls,
          .returned number dispatch work.advance verdict after]

def execute (machine : Machine) (number : Nat) (dispatch : Dispatch) (work : Option Work) :
    Machine :=
  match machine.scheduler? number with
  | none => machine
  | some scheduler =>
      let machine := (machine.setScheduler number scheduler.countDispatch).notify
        (.dispatch dispatch.task dispatch.current)
      match work with
      | none =>
          (machine.notify (.noWork dispatch.task)).push
            [.acquire number (.finish dispatch none .done)]
      | some work =>
          let turn := scheduler.executor.turn
          let machine :=
            if scheduler.executor.isInline then machine else machine.emit (.execute dispatch.task)
          machine.push
            [.script (some dispatch.task) turn.before, .engage number dispatch work turn]

def engage (machine : Machine) (number : Nat) (dispatch : Dispatch) (work : Work)
    (turn : ExecutorTurn Call) : Machine :=
  if turn.runs then machine.runWork number dispatch work turn.status turn.after
  else
    machine.push
      [.script (some dispatch.task) turn.after,
        .acquire number (.finish dispatch (some work) (turn.status.getD .done))]

/-- The work returned; once the executor has returned too, the pass puts the work back. -/
def returned (machine : Machine) (number : Nat) (dispatch : Dispatch) (work : Work)
    (verdict : Verdict) (after : Script) : Machine :=
  let status :=
    match verdict with
    | .fixed status => status
    | .pipeline pipeline => ((machine.pipelines[pipeline]?).map Pipeline.status).getD .done
  machine.push
    [.script (some dispatch.task) after,
      .acquire number (.finish dispatch (some work) status)]

/-- Ends a pass; a run looks whether to arm the timer. -/
def conclude (machine : Machine) (number : Nat) (wake : Bool) (outcome : PassOutcome) : Machine :=
  match machine.scheduler? number with
  | none => machine
  | some scheduler =>
      let machine := (machine.setScheduler number scheduler.endPass).answer (.outcome outcome)
      match outcome.next with
      | some task =>
          if wake then machine.push [.acquire number (.wake outcome task)] else machine
      | none => machine

end Machine

end EdfKernel
