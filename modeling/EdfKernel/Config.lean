import EdfKernel.Interrupt
import EdfKernel.Ticks

/-!
How a scheduler is set up: the rate of its clock, the ticks it charges for
deciding, the interrupt line that runs it and the size of its task table.
-/

namespace EdfKernel

structure SchedulerConfig where
  clockRate : UInt32
  scheduleCost : Ticks
  line : Nat
  maxTasks : Nat
deriving DecidableEq, Repr

/-- What is wrong with a configuration. -/
inductive ConfigFault where
  | zeroClockRate
  | noSlots
  | tooManySlots
  | lineOutOfRange
  | described (text : String)
deriving DecidableEq, Repr

namespace ConfigFault

def message : ConfigFault → String
  | zeroClockRate => "clock rate is zero"
  | noSlots => "task table has no slots"
  | tooManySlots => "task table too large"
  | lineOutOfRange => "schedule irq out of range"
  | described text => text

end ConfigFault

namespace SchedulerConfig

def platformClockRate : UInt32 := 19200000

def platformScheduleCost : Ticks := 200

def platformLine : Nat := 7

def platformMaxTasks : Nat := 32

def atRate (rate : UInt32) : SchedulerConfig :=
  ⟨rate, platformScheduleCost, platformLine, platformMaxTasks⟩

def default : SchedulerConfig := atRate platformClockRate

def toTicks (config : SchedulerConfig) (us : UInt64) : Ticks :=
  Ticks.ofMicros us config.clockRate

/-- The first fault, in the order clock, slots, line. -/
def fault? (config : SchedulerConfig) : Option ConfigFault :=
  if config.clockRate = 0 then some .zeroClockRate
  else if config.maxTasks = 0 then some .noSlots
  else if 4294967295 < config.maxTasks then some .tooManySlots
  else if lineCount ≤ config.line then some .lineOutOfRange
  else none

end SchedulerConfig

end EdfKernel
