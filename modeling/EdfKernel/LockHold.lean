import EdfKernel.Machine

/-!
Sections of code under a scheduler's lock. A section runs between `enter` and
`leave`, with the lock held and interrupts masked one level deeper. Whoever
finds the lock held waits for it, on one processor for ever: `enter` then
changes nothing.
-/

namespace EdfKernel

namespace Machine

/-- Lets whoever interposes at this moment come first. -/
def acquire (machine : Machine) (number : Nat) (part : Section) : Machine :=
  let moment := machine.acquisitions + 1
  let machine := { machine with acquisitions := moment }.push [.enter number part]
  match machine.interposed moment with
  | some script => (machine.emit .interposed).push [.script none script]
  | none => machine

/-- Carries out a section: the lock is taken, and `leave` follows. -/
def enter (machine : Machine) (number : Nat) (part : Section) : Machine :=
  match machine.scheduler? number with
  | none => machine
  | some scheduler =>
      if scheduler.locked then machine.push [.enter number part]
      else
        let effect := part.effect scheduler number machine.clock machine.pipelines.length
        { machine with
          irq :=
            if effect.requests then machine.irq.mask.request scheduler.config.line
            else machine.irq.mask
          timer :=
            match effect.arms with
            | some instant => machine.timer.armAt instant (.scheduler number)
            | none => machine.timer
          schedulers :=
            machine.schedulers.set number (some { effect.scheduler with locked := true })
          pipelines := machine.pipelines ++ effect.attaches.toList
          notices := machine.notices ++ effect.notices.toArray
          reply := effect.reply.getD machine.reply
          agenda := .leave number :: (effect.next ++ machine.agenda) }

def leave (machine : Machine) (number : Nat) : Machine :=
  match machine.scheduler? number with
  | none => machine
  | some scheduler =>
      { machine.setScheduler number { scheduler with locked := false } with
        irq := machine.irq.unmask }

end Machine

end EdfKernel
