import EdfKernel.Proofs.TimerFaces
import Mathlib.Tactic.IntervalCases

/-!
What becomes of the armings of the timer, whoever makes them and from wherever. Each one is run
once at most, by the first poll that is not too early for it, unless another arming or a disarming
came first; and what a callback of the timer arms is there when the poll that runs it is over.
-/

namespace EdfKernel

namespace Machine

variable {machine : Machine} {past : List Machine} {now : Ticks} {rest : Bool → Activity}
  {below : List Activity} {steps number : Nat} {arming : Arming WakeUp}

inductive Polls (machine : Machine) : Ticks → (Bool → Activity) → List Activity → Prop where
  | call (current : Option TaskHandle) (now : Ticks) (below : List Activity)
      (agenda : machine.agenda = .call current (.platform (.pollTimer now)) :: below) :
      Polls machine now (fun fired => .reply (.ok (.flag fired))) below
  | round (rounds delivered : Nat) (below : List Activity)
      (agenda : machine.agenda = .round (rounds + 1) delivered :: below) :
      Polls machine machine.clock (fun fired => .dispatch (.round rounds delivered fired)) below

namespace Polls

theorem timerUse? (polls : machine.Polls now rest below) :
    machine.timerUse? = some (.poll now) := by
  cases polls with
  | call current now below agenda => rw [Machine.timerUse?, agenda]; rfl
  | round rounds delivered below agenda => rw [Machine.timerUse?, agenda]; rfl

theorem step (polls : machine.Polls now rest below) :
    machine.step = ({ machine with agenda := below } : Machine).pollTimer now rest := by
  cases polls with
  | call current now below agenda => rw [step_cons agenda]; rfl
  | round rounds delivered below agenda => rw [step_cons agenda]; rfl

theorem rest_timerUse? (polls : machine.Polls now rest below) {later : Machine} {fired : Bool}
    (agenda : later.agenda = rest fired :: below) : later.timerUse? = none := by
  cases polls with
  | call => rw [Machine.timerUse?, agenda]; rfl
  | round => rw [Machine.timerUse?, agenda]; rfl

theorem of_timerUse? (used : machine.timerUse? = some (.poll now)) :
    ∃ rest below, machine.Polls now rest below := by
  obtain ⟨activity, first, uses⟩ := Option.bind_eq_some_iff.mp used
  obtain ⟨below, agenda⟩ := List.head?_eq_some_iff.mp first
  cases activity with
  | call current call =>
      cases call with
      | platform call =>
          cases call with
          | pollTimer _ =>
              cases uses
              exact ⟨_, below, .call current now below agenda⟩
          | _ => cases uses
      | _ => cases uses
  | round rounds delivered =>
      cases rounds with
      | zero => cases uses
      | succ rounds =>
          cases uses
          exact ⟨_, below, .round rounds delivered below agenda⟩
  | enter number part =>
      obtain ⟨scheduler, _, entered⟩ := Option.bind_eq_some_iff.mp uses
      split at entered
      · cases entered
      · obtain ⟨_, _, ⟨⟩⟩ := Option.map_eq_some_iff.mp entered
  | _ => cases uses

end Polls

def numberedTimer (past : List Machine) : Timer (Nat × WakeUp) :=
  Timer.after (Timer.numbered (timerUses past))

/-- The next step is a poll that runs the arming with this number. -/
def RunsNext (past : List Machine) (number : Nat) (arming : Arming WakeUp) (machine : Machine) :
    Prop :=
  ∃ now rest below, machine.Polls now rest below ∧
    (numberedTimer past).runs? (.poll now) = some (arming.withNumber number)

theorem Trail.numberedTimer_eq (trail : Trail past machine) :
    (numberedTimer past).map Prod.snd = machine.timer :=
  (Timer.after_numbered _).trans trail.timer_eq.symm

theorem Trail.stands (trail : Trail past machine) (armed : machine.timer.slot = some arming) :
    ∃ number, Timer.Stands number arming (timerUses past) := by
  have slots : (numberedTimer past).slot.map (·.map Prod.snd) = some arming :=
    (congrArg Timer.slot trail.numberedTimer_eq).trans armed
  obtain ⟨⟨instant, number, wake⟩, here, rfl⟩ := Option.map_eq_some_iff.mp slots
  exact ⟨number, (Timer.slot_iff _ number ⟨instant, wake⟩).mp here⟩

theorem Polls.decides (polls : machine.Polls now rest below) :
    (∃ arming, machine.timer.slot = some arming ∧ arming.instant ≤ now ∧
      machine.step =
        ({ machine with
            agenda := rest true :: below
            timer := { machine.timer with slot := none, fired := machine.timer.fired + 1 } } :
          Machine).awaken arming.wake) ∨
    ((∀ arming, machine.timer.slot = some arming → now < arming.instant) ∧
      machine.step = { machine with agenda := rest false :: below }) := by
  rw [polls.step, pollTimer]
  rcases machine.timer.poll_decides now with ⟨arming, armed, due, _, polled⟩ | ⟨early, _, polled⟩
  · refine .inl ⟨arming, armed, due, ?_⟩
    rw [polled]
    rfl
  · refine .inr ⟨early, ?_⟩
    rw [polled]
    rfl

theorem runsNext_iff :
    machine.RunsNext past number arming ↔
      Timer.Stands number arming (timerUses past) ∧
        ∃ now rest below, machine.Polls now rest below ∧ arming.instant ≤ now := by
  constructor
  · rintro ⟨now, rest, below, polls, runs⟩
    obtain ⟨stands, due⟩ := (Timer.runs?_iff _ now number arming).mp runs
    exact ⟨stands, now, rest, below, polls, due⟩
  · rintro ⟨stands, now, rest, below, polls, due⟩
    exact ⟨now, rest, below, polls, (Timer.runs?_iff _ now number arming).mpr ⟨stands, due⟩⟩

theorem ran_cons (idle : ∀ number arming, ¬ machine.RunsNext past number arming) :
    Timer.ran (Timer.numbered (timerUses (machine :: past))) =
      Timer.ran (Timer.numbered (timerUses past)) := by
  cases used : machine.timerUse? with
  | none => rw [timerUses, List.filterMap_cons_none used, timerUses]
  | some use =>
      rw [timerUses, List.filterMap_cons_some used, Timer.numbered, Timer.ran]
      cases use with
      | arm | disarm => rfl
      | poll now =>
          obtain ⟨rest, below, polls⟩ := Polls.of_timerUse? used
          have none : (numberedTimer past).runs? (.poll now) = none :=
            Option.eq_none_iff_forall_ne_some.mpr fun arming runs =>
              idle arming.number (arming.map Prod.snd) ⟨now, rest, below, polls, runs⟩
          exact congrArg (·.toList ++ _) none

theorem step_slot (armed : machine.timer.slot = some arming)
    (early : ∀ use, machine.timerUse? = some use → use.IsEarly arming.instant) :
    machine.step.timer.slot = some arming := by
  rw [step_timer]
  cases used : machine.timerUse? with
  | none => exact armed
  | some use =>
      exact (Timer.slot_use_iff _ use arming).mpr (.inr ⟨early use used, armed⟩)

theorem run_slot (armed : machine.timer.slot = some arming)
    (early : ∀ k < steps, ∀ use, (machine.run k).timerUse? = some use →
      use.IsEarly arming.instant) :
    (machine.run steps).timer.slot = some arming := by
  induction steps with
  | zero => exact armed
  | succ steps ih =>
      rw [run_add, run_one]
      exact step_slot (ih fun k less => early k (Nat.lt_succ_of_lt less))
        (early steps (Nat.lt_succ_self steps))

theorem Polls.survives (polls : machine.Polls now rest below)
    (returns : machine.step.Returns (rest true :: below) steps) {moment : Nat}
    (inside : moment < steps)
    (arms : (machine.step.run moment).timerUse? = some (.arm arming.instant arming.wake))
    (early : ∀ k < steps, moment < k → ∀ use, (machine.step.run k).timerUse? = some use →
      use.IsEarly arming.instant) :
    (machine.run (steps + 2)).timer.slot = some arming := by
  -- The steps of the callback are those up to its last arming and those that are left after it.
  obtain ⟨left, rfl⟩ := Nat.exists_eq_add_of_le (Nat.succ_le_of_lt inside)
  have armed : (machine.step.run (moment + 1)).timer.slot = some arming := by
    rw [run_add, run_one, step_timer, arms]
    rfl
  have returned : (machine.step.run (moment + 1 + left)).timer.slot = some arming := by
    rw [run_add]
    refine run_slot armed fun k less => ?_
    rw [← run_add]
    exact early (moment + 1 + k) (by omega) (by omega)
  rw [run_succ, run_add, run_one, step_timer, polls.rest_timerUse? returns.back]
  exact returned

/-- What becomes of the armings of the timer, in a state with this past. -/
structure RunsOnce (past : List Machine) (machine : Machine) : Prop where
  timer : (numberedTimer past).map Prod.snd = machine.timer
  /-- The arming in the slot, those that were run and those that were replaced or disarmed are all
  that were made, each of them once. -/
  fates : (((numberedTimer past).slot.toList ++
      (Timer.ran (Timer.numbered (timerUses past)) ++
        Timer.dropped (Timer.numbered (timerUses past)))).map Arming.number).Perm
    (List.range (Timer.made (timerUses past)).length)
  /-- Only a poll runs an arming, at its instant or later, and only the last one, if since then
  the timer was neither disarmed nor polled at that instant or later. -/
  runs : ∀ number arming, machine.RunsNext past number arming ↔
    Timer.Stands number arming (timerUses past) ∧
      ∃ now rest below, machine.Polls now rest below ∧ arming.instant ≤ now
  /-- An arming that is run was not run before, and is not run again. -/
  once : ∀ number arming, machine.RunsNext past number arming →
    number ∉ (Timer.ran (Timer.numbered (timerUses past))).map Arming.number ∧
      Timer.ran (Timer.numbered (timerUses (machine :: past))) =
        arming.withNumber number :: Timer.ran (Timer.numbered (timerUses past))
  idle : (∀ number arming, ¬ machine.RunsNext past number arming) →
    Timer.ran (Timer.numbered (timerUses (machine :: past))) =
      Timer.ran (Timer.numbered (timerUses past))
  polls : ∀ now rest below, machine.Polls now rest below →
    (∃ number arming, machine.RunsNext past number arming ∧
      machine.timer.armedAt = some arming.instant ∧ arming.instant ≤ now ∧
      machine.step =
        ({ machine with
            agenda := rest true :: below
            timer := { machine.timer with slot := none, fired := machine.timer.fired + 1 } } :
          Machine).awaken arming.wake) ∨
    ((∀ instant, machine.timer.armedAt = some instant → now < instant) ∧
      machine.step = { machine with agenda := rest false :: below })
  /-- No script of the timer runs but those of the armings that were run. -/
  heard : machine.rings = (Timer.ran (timerUses past)).countP (·.wake.isScript)
  /-- What a callback arms last is still armed when the poll that runs the callback is over. -/
  survives : ∀ now rest below steps moment arming, machine.Polls now rest below →
    machine.step.Returns (rest true :: below) steps → moment < steps →
    (machine.step.run moment).timerUse? = some (.arm arming.instant arming.wake) →
    (∀ k < steps, moment < k → ∀ use, (machine.step.run k).timerUse? = some use →
      use.IsEarly arming.instant) →
    (machine.run (steps + 2)).timer.slot = some arming
  counted : (Timer.made (timerUses past)).length < 2 ^ 64 →
    machine.timer.armings.toNat = (Timer.made (timerUses past)).length ∧
      machine.timer.fired.toNat = (Timer.ran (timerUses past)).length ∧
      machine.timer.armings.toNat =
        machine.timer.fired.toNat + (if machine.timer.armedAt.isSome then 1 else 0) +
          (Timer.dropped (timerUses past)).length

/-- What one arming of the deferred timer can come to, on every run: it runs once, when a poll
finds it due before another arming took its place, or it never runs. -/
theorem armings_run_at_most_once (trail : Trail past machine) : machine.RunsOnce past where
  timer := trail.numberedTimer_eq
  fates := Timer.numbers (timerUses past)
  runs _ _ := runsNext_iff
  once number arming runs := by
    obtain ⟨now, rest, below, polls, due⟩ := runs
    have stands := ((Timer.runs?_iff _ now number arming).mp due).1
    refine ⟨Timer.number_not_mem_ran stands, ?_⟩
    rw [timerUses, List.filterMap_cons_some polls.timerUse?, Timer.numbered, Timer.ran]
    exact congrArg (·.toList ++ _) due
  idle := ran_cons
  polls now rest below polls := by
    rcases polls.decides with ⟨arming, armed, due, ran⟩ | ⟨early, idle⟩
    · obtain ⟨number, stands⟩ := trail.stands armed
      have runs : machine.RunsNext past number arming :=
        runsNext_iff.mpr ⟨stands, now, rest, below, polls, due⟩
      exact .inl ⟨number, arming, runs, congrArg (Option.map _) armed, due, ran⟩
    · refine .inr ⟨fun instant at' => ?_, idle⟩
      obtain ⟨arming, armed, rfl⟩ := Option.map_eq_some_iff.mp at'
      exact early arming armed
  heard := congrArg Prod.snd trail.timerFace_eq
  survives _ _ _ _ _ _ polls returns inside arms early := polls.survives returns inside arms early
  counted few := by
    rw [trail.timer_eq]
    exact Timer.counted few

/-- One arming has replaced another one, and its callback arms the timer again and polls it. -/
def rearming : List (Nat × Call) :=
  [(2, .platform (.pollTimer 9)),
    (1, .platform (.armTimer 10 [.platform (.armTimer 20 []), .platform (.pollTimer 15)])),
    (1, .platform (.armTimer 5 []))]

def ringing : Machine := (session rearming).2.start (.platform (.pollTimer 12)) fun _ => none

/-- The second arming is run, the first one was dropped, and the third one is armed when the poll
is over. -/
theorem ringing_runs_once :
    (∃ wake, ringing.RunsNext (session rearming).1 1 ⟨10, wake⟩) ∧
      (ringing.run 10).reply = .ok (.flag true) ∧
      (ringing.run 10).timer.slot = some ⟨20, .script []⟩ ∧
      (ringing.run 10).timer.armings.toNat = 3 ∧ (ringing.run 10).timer.fired.toNat = 1 ∧
      (ringing.run 10).timer.armings.toNat = (ringing.run 10).timer.fired.toNat + 1 +
        (Timer.dropped (timerUses (passed (session rearming).1 ringing 10))).length := by
  have rests : Trail (session rearming).1 (session rearming).2 :=
    session_trail rearming (by decide)
  have trail : Trail (session rearming).1 ringing := .start _ _ rests rfl
  have polls : ringing.Polls 12 (fun fired => .reply (.ok (.flag fired))) [] :=
    .call none 12 [] rfl
  have runs : ∃ wake, ringing.RunsNext (session rearming).1 1 ⟨10, wake⟩ :=
    ⟨_, ((armings_run_at_most_once trail).runs 1 _).mpr
      ⟨.early ⟨9, rfl, by decide⟩ (.made rfl), 12, _, [], polls, by decide⟩⟩
  have survives : (ringing.run 10).timer.slot = some ⟨20, .script []⟩ := by
    refine (armings_run_at_most_once trail).survives 12 _ [] 8 1 ⟨20, .script []⟩ polls
      ⟨rfl, by decide⟩ (by decide) rfl fun k less more use used => ?_
    -- Of the steps that are left to the callback only its own poll comes to the timer.
    interval_cases k <;> cases used
    exact ⟨15, rfl, by decide⟩
  obtain ⟨_, _, counted⟩ := (armings_run_at_most_once (trail.run 10)).counted (by decide)
  exact ⟨runs, rfl, survives, by decide, by decide, counted⟩

end Machine

end EdfKernel
