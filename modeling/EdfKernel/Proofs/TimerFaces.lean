import EdfKernel.Proofs.CallerSections
import EdfKernel.Proofs.TimerUses
import EdfKernel.Proofs.Trails

/-!
How the kernel uses its timer. A call arms or disarms it, or polls it for an instant of its own; a
run of a scheduler arms it for the next task; a round of a step polls it for the clock. Whoever
does so may be a callback, also one that the timer itself has just run.
-/

namespace EdfKernel

namespace WakeUp

def isScript : WakeUp → Bool
  | script _ => true
  | scheduler _ => false

end WakeUp

namespace Event

def isRing : Event → Bool
  | timer => true
  | _ => false

end Event

namespace Machine

/-- What carrying out an activity does to the timer. -/
def usesTimer? (machine : Machine) : Activity → Option (Timer.Use WakeUp)
  | .call _ (.platform (.armTimer instant script)) => some (.arm instant (.script script))
  | .call _ (.platform .disarmTimer) => some .disarm
  | .call _ (.platform (.pollTimer now)) => some (.poll now)
  | .round (_ + 1) _ => some (.poll machine.clock)
  | .enter number part =>
      (machine.scheduler? number).bind fun scheduler =>
        if scheduler.locked then none
        else
          (part.effect scheduler number machine.clock machine.pipelines.length).arms.map
            fun instant => .arm instant (.scheduler number)
  | _ => none

def timerUse? (machine : Machine) : Option (Timer.Use WakeUp) :=
  machine.agenda.head?.bind machine.usesTimer?

def timerUses (past : List Machine) : List (Timer.Use WakeUp) := past.filterMap timerUse?

def rings (machine : Machine) : Nat := machine.events.toList.countP Event.isRing

def timerFace (machine : Machine) : Timer WakeUp × Nat := (machine.timer, machine.rings)

def faceAfter (machine : Machine) : Option (Timer.Use WakeUp) → Timer WakeUp × Nat
  | none => machine.timerFace
  | some use =>
      (machine.timer.use use,
        machine.rings + (machine.timer.runs? use).toList.countP (·.wake.isScript))

theorem rings_push (events : Array Event) {event : Event} (plain : event.isRing = false) :
    (events.push event).toList.countP Event.isRing = events.toList.countP Event.isRing := by
  simp [List.countP_append, plain]

theorem Counting.usesTimer? {machine : Machine} {activity : Activity} {count : Nat}
    {tally : Tally} (counts : machine.Counting activity count tally) :
    machine.usesTimer? activity = none := by
  cases counts with
  | masked _ _ dispatches => cases dispatches <;> rfl
  | swept => rfl

theorem Answering.usesTimer? {machine : Machine} {activity : Activity}
    (answers : machine.Answering activity) : machine.usesTimer? activity = none := by
  cases answers with
  | unreported _ _ _ reports => cases reports <;> rfl
  | counted _ _ _ counts => exact counts.usesTimer?
  | notEntered number part gone => simp only [Machine.usesTimer?, gone, Option.bind_none]
  | _ => rfl

namespace Deed

variable {machine after : Machine} {activity : Activity}

/-- The timer is used by those who arm, disarm or poll it, and only a poll that runs a script of
the timer is heard. -/
theorem timerFace (deed : machine.Deed activity after) :
    after.timerFace = machine.faceAfter (machine.usesTimer? activity) := by
  -- Whoever does not use the timer leaves it, and is not heard to run a script for it.
  have unused (unused : machine.usesTimer? activity = none)
      (face : after.timerFace = machine.timerFace) :
      after.timerFace = machine.faceAfter (machine.usesTimer? activity) := by
    rw [unused]
    exact face
  have heard {event : Event} (plain : event.isRing = false) :
      (machine.timer, (machine.events.push event).toList.countP Event.isRing) =
        machine.timerFace := by
    rw [rings_push _ plain]
    rfl
  have fires {now : Ticks} {rest : Bool → Activity} {arming : Arming WakeUp}
      (polls : Polling machine.clock activity now rest)
      (armed : machine.timer.slot = some arming) (due : arming.instant ≤ now) :
      machine.faceAfter (machine.usesTimer? activity) =
        ({ machine.timer with slot := none, fired := machine.timer.fired + 1 },
          machine.rings + arming.wake.isScript.toNat) := by
    have used : machine.usesTimer? activity = some (.poll now) := by cases polls <;> rfl
    have runs : machine.timer.runs? (.poll now) = some arming := by
      simp [Timer.runs?, machine.timer.poll_due now arming armed due, armed]
    rw [used, faceAfter, Timer.use, machine.timer.poll_due now arming armed due, runs]
    cases scripted : arming.wake.isScript <;> simp [scripted]
  cases deed with
  | answered _ answers => exact unused answers.usesTimer? rfl
  | early _ now rest polls early =>
      have used : machine.usesTimer? activity = some (.poll now) := by cases polls <;> rfl
      rcases machine.timer.poll_decides now with ⟨arming, armed, due, _⟩ | ⟨_, runs, polled⟩
      · exact absurd due (UInt64.not_le.mpr (early arming armed))
      · rw [used, faceAfter, Timer.use, polled, runs]
        rfl
  | rang _ now rest polls arming armed due script wakes =>
      rw [fires polls armed due, wakes]
      simp [Machine.timerFace, rings, Event.isRing, WakeUp.isScript]
  | woke _ now rest polls arming armed due number scheduler wakes =>
      rw [fires polls armed due, wakes]
      rfl
  | wokeNobody _ now rest polls arming armed due number wakes =>
      rw [fires polls armed due, wakes]
      rfl
  | entered number part scheduler effect found free made =>
      subst made
      simp only [usesTimer?, found, Option.bind_some, free, Bool.false_eq_true, if_false]
      cases (part.effect scheduler number machine.clock machine.pipelines.length).arms <;> rfl
  | waited number part scheduler found held =>
      exact unused (by simp only [usesTimer?, found, Option.bind_some, held, if_true]) rfl
  | dispatched _ _ dispatches => exact unused (by cases dispatches <;> rfl) rfl
  | wentOn _ _ _ _ _ counts => exact unused counts.usesTimer? rfl
  | putOff _ _ _ _ passes | begun _ _ _ _ passes => exact unused (by cases passes <;> rfl) rfl
  | reported | interrupted | ranTask | ranCopy | interposed => exact unused rfl (heard rfl)
  | told _ _ _ reports => exact unused (by cases reports <;> rfl) (heard rfl)
  | handed number run work scheduler =>
      refine unused rfl ?_
      simp only [Machine.timerFace, rings]
      split
      · rfl
      · exact heard rfl
  | _ => rfl

end Deed

theorem timerFace_step (machine : Machine) :
    machine.step.timerFace = machine.faceAfter machine.timerUse? := by
  cases agenda : machine.agenda with
  | nil =>
      rw [step_of_isIdle machine (by simp [isIdle, agenda]), timerUse?, agenda]
      rfl
  | cons activity rest =>
      rw [(step_deed agenda).timerFace, timerUse?, agenda]
      rfl

variable {machine : Machine} {past : List Machine}

theorem step_timer (machine : Machine) :
    machine.step.timer = (machine.timerUse?.map machine.timer.use).getD machine.timer := by
  have stepped := congrArg Prod.fst machine.timerFace_step
  cases used : machine.timerUse? with
  | none => rwa [used] at stepped
  | some use => rwa [used] at stepped

/-- The timer, and what was heard of it, come from the uses of it. -/
theorem Trail.timerFace_eq (trail : Trail past machine) :
    machine.timerFace =
      (Timer.after (timerUses past),
        (Timer.ran (timerUses past)).countP (·.wake.isScript)) := by
  induction trail with
  | boot start => rfl
  | start call interposed _ _ ih => exact ih
  | @step past machine _ ih =>
      have before : machine.timer = Timer.after (timerUses past) := congrArg Prod.fst ih
      have heard : machine.rings = (Timer.ran (timerUses past)).countP (·.wake.isScript) :=
        congrArg Prod.snd ih
      rw [timerFace_step, timerUses]
      cases used : machine.timerUse? with
      | none =>
          rw [List.filterMap_cons_none used]
          exact ih
      | some use =>
          rw [List.filterMap_cons_some used, Timer.after, Timer.ran, List.countP_append, faceAfter,
            before, heard, Nat.add_comm]
          rfl

theorem Trail.timer_eq (trail : Trail past machine) :
    machine.timer = Timer.after (timerUses past) := congrArg Prod.fst trail.timerFace_eq

end Machine

end EdfKernel
