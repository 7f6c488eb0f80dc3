import EdfKernel.Calls
import EdfKernel.Execution
import EdfKernel.LockHold

/-!
One step of the kernel takes the activity in front and carries it out.
-/

namespace EdfKernel

namespace Machine

def carryOut (machine : Machine) : Activity → Machine
  | .call current call => machine.perform current call
  | .script _ [] => machine
  | .script current (call :: rest) =>
      machine.push [.call current call, .report, .script current rest]
  | .report => machine.emit (.returned machine.reply)
  | .acquire number part => machine.acquire number part
  | .enter number part => machine.enter number part
  | .leave number => machine.leave number
  | .execute number dispatch work => machine.execute number dispatch work
  | .engage number dispatch work turn => machine.engage number dispatch work turn
  | .returned number dispatch work verdict after =>
      machine.returned number dispatch work verdict after
  | .conclude number wake outcome => machine.conclude number wake outcome
  | .xrun number bytes =>
      ((machine.pipelines[number]?).map fun pipeline =>
        machine.reportXrun number pipeline bytes).getD machine
  | .round rounds delivered => machine.round delivered rounds
  | .dispatch tally => machine.dispatch tally
  | .sweep line delivered tally => machine.sweep line delivered tally
  | .unguard => machine.unguard .guarded
  | .unlock value => machine.unguard fun held after => .locked held after value
  | .reply reply => machine.respond reply

def step (machine : Machine) : Machine :=
  match machine.agenda with
  | [] => machine
  | activity :: rest => { machine with agenda := rest }.carryOut activity

end Machine

end EdfKernel
