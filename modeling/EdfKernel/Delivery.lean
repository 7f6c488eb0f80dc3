import EdfKernel.Machine

/-!
How interrupts and timer wake-ups reach what handles them. A dispatch sweeps the
lines once, from the lowest up; a step of the platform polls the timer and
dispatches, again and again until a round finds nothing to do or the rounds
run out. The handler of a scheduler starts a pass, unless one is under way:
then it raises the line again and is done.
-/

namespace EdfKernel

namespace Machine

def stepRounds : Nat := 64

/-- Starts a pass, or has the pass under way followed by another one. -/
def beginPass (machine : Machine) (number : Nat) (wake : Bool) : Machine :=
  match machine.scheduler? number with
  | none => machine
  | some scheduler =>
      if scheduler.inPass then
        ((machine.setScheduler number scheduler.coalesce).requestPass scheduler).answer
          (.outcome .idle)
      else
        { machine.setScheduler number scheduler.beginPass with
          irq := machine.irq.clear scheduler.config.line }.push
          [.acquire number (.select wake)]

def deliver (machine : Machine) (line : Nat) : Handler → Machine
  -- The handler has its next turn ready before this one is run.
  | .scripts turns =>
      ({ machine with
          irq := machine.irq.modify line fun line =>
            { line with handler := line.handler.map Handler.advance }
        }.emit (.interrupt line)).push [.script none (turns.headD [])]
  | .scheduler number => if machine.isAlive number then machine.beginPass number true else machine

def awaken (machine : Machine) : WakeUp → Machine
  | .script script => (machine.emit .timer).push [.script none script]
  | .scheduler number =>
      if machine.isAlive number then
        ((machine.scheduler? number).map machine.requestPass).getD machine
      else machine

/-- Polls the timer; what is due runs before `rest`. -/
def pollTimer (machine : Machine) (now : Ticks) (rest : Bool → Activity) : Machine :=
  match machine.timer.poll now with
  | (some wake, timer) => ({ machine with timer }.push [rest true]).awaken wake
  | (none, timer) => { machine with timer }.push [rest false]

/-- Hands the number of handlers run to whoever waits for it. A step goes on
while a round found something to do. -/
def tally (machine : Machine) (count : Nat) : Tally → Machine
  | .caller => machine.answer (.count count)
  | .round rounds delivered fired =>
      if count = 0 && !fired then machine.answer (.count delivered)
      else machine.push [.round rounds (delivered + count)]

def round (machine : Machine) (delivered : Nat) : (rounds : Nat) → Machine
  | 0 => machine.answer (.count delivered)
  | rounds + 1 =>
      machine.pollTimer machine.clock fun fired => .dispatch (.round rounds delivered fired)

def dispatch (machine : Machine) (tally : Tally) : Machine :=
  -- The sweep itself does not look at the mask.
  if machine.irq.isMasked then machine.tally 0 tally else machine.push [.sweep 0 0 tally]

/-- Looks at one line. A raised line without a handler is lowered. -/
def sweep (machine : Machine) (number delivered : Nat) (tally : Tally) : Machine :=
  match machine.irq.line? number with
  | none => machine.tally delivered tally
  | some line =>
      if line.isReady then
        match line.handler with
        | some handler =>
            (machine.push [.sweep (number + 1) (delivered + 1) tally]).deliver number handler
        | none =>
            { machine with irq := machine.irq.clear number }.push
              [.sweep (number + 1) delivered tally]
      else machine.push [.sweep (number + 1) delivered tally]

end Machine

end EdfKernel
