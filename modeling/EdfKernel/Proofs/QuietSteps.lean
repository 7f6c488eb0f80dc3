import EdfKernel.Proofs.CallControl
import EdfKernel.Proofs.CallerSections
import EdfKernel.Proofs.DispatchSteps
import EdfKernel.Proofs.RaisedLines

/-!
When the platform has nothing left to do. A step polls the timer and sweeps the lines until a round
fires nothing and starts no handler. Such a round still lowers the lines that are open and raised in
vain, each by itself, so behind it no line is open and raised, unless interrupts are masked. The
next step then finds nothing either, and leaves everything as it is.
-/

namespace EdfKernel

namespace Controller

variable {η : Type}

def isReady (irq : Controller η) (n : Nat) : Bool := (irq.line? n).any (·.isReady)

/-- The lines once a sweep has passed over `left` of them from line `n` on. -/
def passOverAll (irq : Controller η) (n : Nat) : (left : Nat) → Controller η
  | 0 => irq
  | left + 1 => (irq.passOver n).passOverAll (n + 1) left

variable {irq : Controller η} {n k : Nat}

theorem isReady_passOver (irq : Controller η) (n k : Nat) :
    (irq.passOver n).isReady k = (decide (k ≠ n) && irq.isReady k) := by
  unfold passOver
  split
  case isTrue =>
    unfold isReady clear
    rw [line?_modify]
    split
    case isTrue same => cases irq.line? k <;> simp [same, Line.isReady]
    case isFalse other => simp [other]
  case isFalse unready =>
    by_cases same : k = n
    · subst same
      simpa [isReady] using unready
    · simp [same]

theorem startsHandler_passOver (other : k ≠ n) :
    (irq.passOver n).startsHandler k = irq.startsHandler k := by
  unfold passOver
  split
  case isTrue =>
    unfold startsHandler clear
    rw [line?_modify, if_neg other]
  case isFalse => rfl

theorem passOver_of_unready (unready : irq.isReady n = false) : irq.passOver n = irq := by
  have idle : ¬ (irq.line? n).any (·.isReady) = true := by
    rw [← isReady, unready]
    exact Bool.false_ne_true
  exact if_neg idle

theorem startsHandler_of_unready (unready : irq.isReady n = false) :
    irq.startsHandler n = false := by
  rw [← Bool.not_eq_true]
  intro starts
  obtain ⟨line, _, found, ready, _⟩ := startsHandler_iff.mp starts
  rw [isReady, found, Option.any_some, ready] at unready
  cases unready

theorem passOverAll_of_unready (unready : ∀ k, irq.isReady k = false) (n left : Nat) :
    irq.passOverAll n left = irq := by
  induction left generalizing n with
  | zero => rfl
  | succ left ih => rw [passOverAll, passOver_of_unready (unready n), ih]

def settle (irq : Controller η) : Controller η :=
  if irq.isMasked then irq else irq.passOverAll 0 lineCount

theorem isReady_passOverAll {left : Nat} (whole : n + left = lineCount)
    (before : ∀ k < n, irq.isReady k = false) (k : Nat) :
    (irq.passOverAll n left).isReady k = false := by
  induction left generalizing irq n with
  | zero =>
      by_cases inside : k < n
      · exact before k inside
      · rw [passOverAll, isReady, line?_of_le (by omega)]
        rfl
  | succ left ih =>
      refine ih (by omega) fun k less => ?_
      rw [isReady_passOver]
      by_cases same : k = n
      · simp [same]
      · simp [before k (by omega)]

/-- Behind such a round a sweep has nothing to do, unless interrupts are masked. -/
theorem unready_settle (irq : Controller η) :
    irq.settle.isMasked = true ∨ ∀ k, irq.settle.isReady k = false := by
  unfold settle
  split
  case isTrue masked => exact .inl masked
  case isFalse =>
    exact .inr (isReady_passOverAll (Nat.zero_add lineCount) fun k less =>
      absurd less (Nat.not_lt_zero k))

theorem settle_of_unready (unready : irq.isMasked = true ∨ ∀ k, irq.isReady k = false) :
    irq.settle = irq := by
  unfold settle
  split
  case isTrue => rfl
  case isFalse masked => exact passOverAll_of_unready (unready.resolve_left masked) 0 _

end Controller

namespace Machine

variable {machine : Machine} {rest below : List Activity} {steps line rounds delivered left : Nat}

def startsHandlerNext (machine : Machine) : Bool :=
  match machine.agenda with
  | .sweep line _ _ :: _ => machine.irq.startsHandler line
  | _ => false

/-- A step of the platform comes to a round that fires no wake-up, and is back without having
started a handler. -/
structure QuietRound (machine : Machine) (delivered : Nat) (rest : List Activity)
    (steps : Nat) : Prop where
  agenda : ∃ rounds, machine.agenda = .round (rounds + 1) delivered :: rest
  unfired : (machine.timer.poll machine.clock).1 = none
  returns : machine.Returns rest steps
  unserved : ∀ k < steps, (machine.run k).startsHandlerNext = false

/-- No wake-up is due, and no line is open and raised unless interrupts are masked. -/
structure IsSettled (machine : Machine) : Prop where
  unfired : (machine.timer.poll machine.clock).1 = none
  unready : machine.irq.isMasked = true ∨ ∀ line, machine.irq.isReady line = false

theorem returns_sweep (whole : line + left = lineCount)
    (agenda : machine.agenda = .sweep line 0 (.round rounds delivered false) :: rest)
    (unserved : ∀ k, line ≤ k → machine.irq.startsHandler k = false) :
    machine.Returns rest (left + 1) ∧
      machine.run (left + 1) =
        { machine with
          irq := machine.irq.passOverAll line left
          agenda := rest
          reply := .ok (.count delivered) } := by
  -- By induction on the lines that are left: each step passes over one.
  induction left generalizing machine line with
  | zero =>
      have swept := step_swept agenda (Nat.le_of_eq whole.symm)
      refine ⟨.succ (.of_back (congrArg Machine.agenda swept)) (length_below agenda), ?_⟩
      rw [run_one, swept]
      rfl
  | succ left ih =>
      have passed := step_over agenda (by omega) (unserved line (Nat.le_refl line))
      obtain ⟨returns, ran⟩ := ih (by omega) (congrArg Machine.agenda passed) fun k later => by
        rw [passed]
        exact (Controller.startsHandler_passOver (by omega)).trans (unserved k (by omega))
      refine ⟨returns.succ (length_below agenda), ?_⟩
      rw [run_succ, ran, passed]
      rfl

theorem Returns.startsHandler_sweep {tally : Tally} (returns : machine.Returns rest steps)
    (agenda : machine.agenda = .sweep line 0 tally :: rest)
    (unserved : ∀ k < steps, (machine.run k).startsHandlerNext = false) (k : Nat)
    (later : line ≤ k) : machine.irq.startsHandler k = false := by
  by_cases inside : k < lineCount
  case neg =>
    rw [Controller.startsHandler, Controller.line?_of_le (Nat.le_of_not_lt inside)]
    rfl
  case pos =>
    obtain ⟨ahead, rfl⟩ := Nat.exists_eq_add_of_le later
    -- By induction on how far the line is ahead.
    induction ahead generalizing machine line steps with
    | zero =>
        obtain ⟨fewer, rfl, _⟩ := returns.step (length_below agenda)
        have first := unserved 0 (Nat.succ_pos fewer)
        simp only [run, startsHandlerNext, agenda] at first
        exact first
    | succ ahead ih =>
        obtain ⟨fewer, rfl, after⟩ := returns.step (length_below agenda)
        have first := unserved 0 (Nat.succ_pos fewer)
        simp only [run, startsHandlerNext, agenda] at first
        have passed := step_over agenda (by omega) first
        have ahead := ih after (congrArg Machine.agenda passed) (fun j less => by
          rw [← run_succ]
          exact unserved (j + 1) (Nat.succ_lt_succ less)) (by omega) (by omega)
        rw [passed] at ahead
        rw [← Controller.startsHandler_passOver (n := line) (by omega), ← ahead]
        congr 1
        omega

section Round

variable (agenda : machine.agenda = .round (rounds + 1) delivered :: rest)
  (unfired : (machine.timer.poll machine.clock).1 = none)

include agenda unfired

theorem step_unfired :
    machine.step =
      { machine with agenda := .dispatch (.round rounds delivered false) :: rest } := by
  rw [step_cons agenda]
  simp only [carryOut, round, pollTimer]
  rcases machine.timer.poll_cases machine.clock with idle | ⟨arming, _, fires⟩
  · rw [idle]
    rfl
  · rw [fires] at unfired
    cases unfired

theorem dispatching_of_unfired :
    machine.step.agenda = .dispatch (.round rounds delivered false) :: rest := by
  rw [step_unfired agenda unfired]

theorem sweeping_of_unfired (unmasked : machine.irq.isMasked = false) :
    machine.step.step =
      { machine with agenda := .sweep 0 0 (.round rounds delivered false) :: rest } := by
  have polled := step_unfired agenda unfired
  have dispatches : machine.step.Dispatches (.round rounds delivered false) rest :=
    .round (dispatching_of_unfired agenda unfired)
  rw [dispatches.step_open (by rw [polled]; exact unmasked), polled]

theorem returns_round
    (unserved : machine.irq.isMasked = true ∨ ∀ k, machine.irq.startsHandler k = false) :
    ∃ steps, machine.Returns rest steps ∧
      machine.run steps =
        { machine with
          irq := machine.irq.settle, agenda := rest, reply := .ok (.count delivered) } := by
  have dispatching := dispatching_of_unfired agenda unfired
  -- The round and the dispatch take a step each, whatever comes after.
  have from_dispatch {left : Nat} (returns : machine.step.step.Returns rest left) :
      machine.Returns rest (left + 1 + 1) :=
    .succ (.succ returns (length_below dispatching)) (length_below agenda)
  cases masked : machine.irq.isMasked with
  | true =>
      have polled := step_unfired agenda unfired
      have dispatches : machine.step.Dispatches (.round rounds delivered false) rest :=
        .round dispatching
      have ended := dispatches.step_masked (by rw [polled]; exact masked)
      refine ⟨2, from_dispatch (.of_back (congrArg Machine.agenda ended)), ?_⟩
      rw [run_succ, run_one, ended, polled, Controller.settle, if_pos masked]
      rfl
  | false =>
      have swept := sweeping_of_unfired agenda unfired masked
      have idle := unserved.resolve_left (by rw [masked]; exact Bool.false_ne_true)
      have sweeping := congrArg Machine.agenda swept
      obtain ⟨returns, ran⟩ := returns_sweep (Nat.zero_add lineCount) sweeping fun k _ => by
        rw [swept]
        exact idle k
      refine ⟨_, from_dispatch returns, ?_⟩
      rw [run_succ, run_succ, ran, swept, Controller.settle,
        if_neg (by rw [masked]; exact Bool.false_ne_true)]

end Round

namespace QuietRound

variable (quiet : machine.QuietRound delivered rest steps)

include quiet

theorem unserved_lines :
    machine.irq.isMasked = true ∨ ∀ k, machine.irq.startsHandler k = false := by
  obtain ⟨rounds, agenda⟩ := quiet.agenda
  cases masked : machine.irq.isMasked with
  | true => exact .inl rfl
  | false =>
      have swept := sweeping_of_unfired agenda quiet.unfired masked
      obtain ⟨_, rfl, dispatched⟩ := quiet.returns.step (length_below agenda)
      obtain ⟨_, rfl, returns⟩ :=
        dispatched.step (length_below (dispatching_of_unfired agenda quiet.unfired))
      right
      intro k
      have unserved := returns.startsHandler_sweep (congrArg Machine.agenda swept) (fun j less => by
        rw [← run_succ, ← run_succ]
        exact quiet.unserved (j + 2) (by omega)) k (Nat.zero_le k)
      rw [swept] at unserved
      exact unserved

theorem run_eq :
    machine.run steps =
      { machine with
        irq := machine.irq.settle, agenda := rest, reply := .ok (.count delivered) } := by
  obtain ⟨rounds, agenda⟩ := quiet.agenda
  obtain ⟨length, returns, ran⟩ := returns_round agenda quiet.unfired quiet.unserved_lines
  rw [quiet.returns.unique returns]
  exact ran

theorem isSettled : (machine.run steps).IsSettled := by
  rw [quiet.run_eq]
  exact ⟨quiet.unfired, machine.irq.unready_settle⟩

end QuietRound

theorem IsSettled.returns_step {current : Option TaskHandle} (settled : machine.IsSettled)
    (agenda : machine.agenda = .call current (.platform .step) :: below) :
    ∃ steps, machine.Returns below steps ∧
      machine.run steps = { machine with agenda := below, reply := .ok (.count 0) } := by
  have called : machine.step = { machine with agenda := .round stepRounds 0 :: below } :=
    step_cons agenda
  have round : machine.step.agenda = .round (63 + 1) 0 :: below := congrArg Machine.agenda called
  obtain ⟨steps, returns, ran⟩ := returns_round round
    (by rw [called]; exact settled.unfired) (by
      rw [called]
      exact settled.unready.imp_right fun unready k =>
        Controller.startsHandler_of_unready (unready k))
  have same : machine.irq.settle = machine.irq := Controller.settle_of_unready settled.unready
  refine ⟨steps + 1, returns.succ (length_below agenda), ?_⟩
  rw [run_succ, ran, called]
  dsimp only
  rw [same]

/-- A line that somebody handles is lowered by the step that acknowledges it and by no other, so
once it is raised, or about to be, it stays raised until then, whatever is masked, closed or under
way. And once a step of the platform has come to a round that fires no wake-up and starts no
handler, the next step at the same time counts nothing and leaves the timer, the lines, the
schedulers and everything else as they are. -/
theorem raised_lines_stay_and_quiet_steps_settle (machine : Machine) :
    (∀ line, machine.irq.isHandled line = true → machine.irq.isPending line = true →
      (machine.step.irq.isPending line = false ↔ isAcknowledgedNext line machine = true)) ∧
    (∀ line later, machine.irq.isHandled line = true → machine.irq.isPending line = true →
      Avoids (isAcknowledgedNext line) machine later → later.irq.isPending line = true) ∧
    (∀ line later, machine.irq.isHandled line = true → machine.AboutToRaise line →
      Avoids (isAcknowledgedNext line) machine.step later → later.irq.isPending line = true) ∧
    ∀ delivered rest steps, machine.QuietRound delivered rest steps →
      (machine.run steps).reply = .ok (.count delivered) ∧
      ∀ (later : Machine) (current : Option TaskHandle) (below : List Activity),
        later.clock = (machine.run steps).clock →
        later.timer = (machine.run steps).timer → later.irq = (machine.run steps).irq →
        later.agenda = .call current (.platform .step) :: below →
        ∃ again, later.Returns below again ∧
          later.run again = { later with agenda := below, reply := .ok (.count 0) } := by
  refine ⟨fun line handled pending => step_lowers_iff handled pending,
    fun line later handled pending avoids => (avoids.raised handled pending).2,
    fun line later handled raises avoids => avoids.of_raising raises handled, ?_⟩
  intro delivered rest steps quiet
  refine ⟨congrArg Machine.reply quiet.run_eq, ?_⟩
  intro later current below clock timer irq agenda
  have settled : later.IsSettled := by
    constructor
    · rw [clock, timer]
      exact quiet.isSettled.unfired
    · rw [irq]
      exact quiet.isSettled.unready
  exact settled.returns_step agenda

/-- A line is about to be raised that is closed, and another one is open and raised in vain. -/
def unanswered : Machine :=
  let alone : Nat → Option Script := fun _ => none
  let setUp : List Call :=
    [.platform (.register 1 [[.platform (.clear 1)]]),
      .platform (.enable 2), .platform (.request 2)]
  (setUp.foldl (fun machine call => machine.exec 1 call alone) (boot 0)).start
    (.platform (.request 1)) alone

def futile : Machine := (unanswered.step.start (.platform .step) fun _ => none).step

def futileAgain : Machine := (futile.run 35).start (.platform .step) fun _ => none

/-- The step lowers the line that was raised in vain, the other one stays raised, and the next
step changes nothing any more. -/
theorem futile_settles :
    (futile.step.irq.isPending 1 = false ↔ isAcknowledgedNext 1 futile = true) ∧
      futile.irq.isPending 1 = true ∧ futileAgain.irq.isPending 1 = true ∧
      futile.irq.isPending 2 = true ∧ futileAgain.irq.isPending 2 = false ∧
      (futile.run 35).reply = .ok (.count 0) ∧
      ∃ again, futileAgain.Returns [] again ∧
        futileAgain.run again = { futileAgain with agenda := [], reply := .ok (.count 0) } := by
  have raised : futile.irq.isPending 1 = true :=
    (raised_lines_stay_and_quiet_steps_settle unanswered).2.2.1 1 futile rfl
      ⟨_, _, rfl, .directly none⟩
      (.step (.start (.platform .step) _ .refl rfl) rfl)
  have quiet : futile.QuietRound 0 [] 35 := ⟨⟨63, rfl⟩, rfl, ⟨rfl, by decide⟩, by decide⟩
  have avoids : Avoids (isAcknowledgedNext 1) futile futileAgain :=
    .start (.platform .step) _ (.run .refl 35 (by decide)) rfl
  obtain ⟨lowers, stays, _, settles⟩ := raised_lines_stay_and_quiet_steps_settle futile
  obtain ⟨counted, nothing⟩ := settles 0 [] 35 quiet
  exact ⟨lowers 1 rfl raised, raised, stays 1 futileAgain rfl raised avoids, rfl, rfl, counted,
    nothing futileAgain none [] rfl rfl rfl rfl⟩

end Machine

end EdfKernel
