import EdfKernel.Effect
import EdfKernel.Timer

/-!
The whole kernel: the platform's clock, interrupt controller and timer, the
schedulers and pipelines on it, and the stack of activities still to do.

Other code may come first whenever a scheduler is about to mask interrupts for
its lock: `interposed n` is the script that does so at the `n`th such moment of
a call.
-/

namespace EdfKernel

/-- What a line's handler does, time after time. -/
inductive Handler where
  | scripts (turns : List Script)
  | scheduler (number : Nat)

/-- What the timer's wake-up does. -/
inductive WakeUp where
  | script (script : Script)
  | scheduler (number : Nat)

namespace Handler

def advance : Handler → Handler
  | .scripts turns => .scripts (laterTurns turns)
  | .scheduler number => .scheduler number

end Handler

structure Machine where
  clock : Ticks
  irq : Controller Handler
  timer : Timer WakeUp
  /-- Schedulers by number; a number whose scheduler could not be set up has none. -/
  schedulers : List (Option Scheduler)
  pipelines : List Pipeline
  interposed : Nat → Option Script
  /-- How often the present call was about to take a scheduler's lock. -/
  acquisitions : Nat
  agenda : List Activity
  reply : Reply
  events : Array Event
  notices : Array Notice

namespace Machine

def boot (start : Ticks) : Machine where
  clock := start
  irq := .quiet
  timer := .unarmed
  schedulers := []
  pipelines := []
  interposed := fun _ => none
  acquisitions := 0
  agenda := []
  reply := .ok .done
  events := #[]
  notices := #[]

def scheduler? (machine : Machine) (number : Nat) : Option Scheduler :=
  machine.schedulers[number]?.join

def setScheduler (machine : Machine) (number : Nat) (scheduler : Scheduler) : Machine :=
  { machine with schedulers := machine.schedulers.set number (some scheduler) }

/-- A scheduler lives while it is owned, carries a pipeline or is at work. -/
def isAlive (machine : Machine) (number : Nat) : Bool :=
  (machine.scheduler? number).any fun scheduler =>
    scheduler.owned || machine.pipelines.any (·.scheduler = number) ||
      machine.agenda.any (·.scheduler? = some number)

def modifyPipeline (machine : Machine) (number : Nat) (f : Pipeline → Pipeline) : Machine :=
  { machine with pipelines := machine.pipelines.modify number f }

def push (machine : Machine) (activities : List Activity) : Machine :=
  { machine with agenda := activities ++ machine.agenda }

def respond (machine : Machine) (reply : Reply) : Machine := { machine with reply }

def answer (machine : Machine) (answer : Answer) : Machine := machine.respond (.ok answer)

def refuse (machine : Machine) (refusal : Refusal) : Machine :=
  machine.respond (.failed (.refused refusal))

def emit (machine : Machine) (event : Event) : Machine :=
  { machine with events := machine.events.push event }

def notify (machine : Machine) (notice : Notice) : Machine :=
  { machine with notices := machine.notices.push notice }

def request (machine : Machine) (line : Nat) : Machine :=
  { machine with irq := machine.irq.request line }

def requestPass (machine : Machine) (scheduler : Scheduler) : Machine :=
  machine.request scheduler.config.line

theorem scheduler?_setScheduler (machine : Machine) (number other : Nat)
    (scheduler : Scheduler) :
    (machine.setScheduler number scheduler).scheduler? other =
      if other = number ∧ number < machine.schedulers.length then some scheduler
      else machine.scheduler? other := by
  unfold setScheduler scheduler?
  rw [List.getElem?_set]
  by_cases same : other = number
  · subst same
    by_cases inside : other < machine.schedulers.length
    · simp [inside]
    · simp [inside]
  · simp [same, Ne.symm same]

end Machine

end EdfKernel
