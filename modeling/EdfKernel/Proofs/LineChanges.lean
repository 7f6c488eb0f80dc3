import EdfKernel.Proofs.GentleRuns

/-!
What the kernel does to the interrupt lines. Two laws hold of whatever is carried out: a
scheduler is the handler of its line for as long as it is there, and a line changes only
if something raises or lowers it, for one of the reasons that `Raises` and `Lowers` list.
-/

namespace EdfKernel

namespace Section

/-- Why a section asks for another pass: it admits a task, or the task that the
pass wanted has changed. -/
inductive Requests (scheduler : Scheduler) (clock : Ticks) : Section → Prop where
  | admits (task : TaskHandle) (startUs deadlineUs : UInt64) (window : Window)
      (table : TaskTable Work)
      (done : scheduler.table.insert scheduler.config clock task startUs deadlineUs =
        .ok (window, table)) : Requests scheduler clock (.insert task startUs deadlineUs)
  | readmits (run : Dispatch) (startUs deadlineUs : UInt64) (window : Window)
      (table : TaskTable Work)
      (done : scheduler.table.insert scheduler.config clock run.task startUs deadlineUs =
        .ok (window, table)) : Requests scheduler clock (.reinsert run startUs deadlineUs)
  | abandons (wakes : Bool) (current : Ticks) (task : TaskHandle)
      (lost : scheduler.table.claim current task = none) :
      Requests scheduler clock (.dispatch wakes current task)

theorem requests_iff (part : Section) (scheduler : Scheduler) (number : Nat) (clock : Ticks)
    (pipelines : Nat) :
    (part.effect scheduler number clock pipelines).requests = true ↔
      part.Requests scheduler clock := by
  -- Only an insertion that was granted and a dispatch that was abandoned ask for a pass.
  constructor
  · intro requests
    cases part with
    | insert task startUs deadlineUs =>
        simp only [effect, Effect.insert] at requests
        split at requests
        case h_1 => cases requests
        case h_2 window table done => exact .admits task startUs deadlineUs window table done
    | reinsert run startUs deadlineUs =>
        simp only [effect, Effect.reinsert] at requests
        split at requests
        case h_1 => cases requests
        case h_2 window table done => exact .readmits run startUs deadlineUs window table done
    | dispatch wakes current task =>
        simp only [effect, Effect.dispatch] at requests
        split at requests
        case h_1 lost => exact .abandons wakes current task lost
        case h_2 => cases requests
    | configure task settings | cancel task | complete task =>
        simp only [effect, Effect.change] at requests
        split at requests <;> cases requests
    | create routine settings =>
        simp only [effect, Effect.create] at requests
        split at requests <;> cases requests
    | createPipeline desc routine =>
        simp only [effect, Effect.createPipeline, Effect.create] at requests
        split at requests <;> split at requests <;> cases requests
    | retire task =>
        simp only [effect, Effect.retire] at requests
        split at requests <;> cases requests
    | check task =>
        simp only [effect, Effect.check] at requests
        split at requests <;> cases requests
    | checkDeadline pipeline task =>
        simp only [effect, Effect.checkDeadline] at requests
        split at requests <;> cases requests
    | select wakes =>
        simp only [effect, Effect.select] at requests
        split at requests
        · cases requests
        · split at requests <;> cases requests
    | finish run work status =>
        simp only [effect, Effect.finish] at requests
        split at requests
        · split at requests <;> cases requests
        · cases requests
    | wake outcome task =>
        simp only [effect, Effect.wake] at requests
        split at requests
        · cases requests
        · split at requests <;> cases requests
    | inspect | queued | queuedLength | describe => cases requests
  · intro requests
    cases requests with
    | admits task startUs deadlineUs window table done => simp only [effect, Effect.insert, done]
    | readmits run startUs deadlineUs window table done =>
        simp only [effect, Effect.reinsert, done]
    | abandons wakes current task lost => simp only [effect, Effect.dispatch, lost]

end Section

namespace Activity

def polls? (clock : Ticks) : Activity → Option Ticks
  | call _ (.platform (.pollTimer now)) => some now
  | round (_ + 1) _ => some clock
  | _ => none

end Activity

theorem Polling.polls? {clock now : Ticks} {activity : Activity} {rest : Bool → Activity}
    (polls : Polling clock activity now rest) : activity.polls? clock = some now := by
  cases polls <;> rfl

namespace Controller

variable {η : Type}

theorem register_cases {controller after : Controller η} {line : Nat} {handler : η}
    (registered : controller.register line handler = .ok after) :
    controller.handler? line = none ∧
      after = controller.modify line fun state => { state with handler := some handler } := by
  unfold register at registered
  split at registered
  case h_1 => cases registered
  case h_2 state found =>
    split at registered
    case isTrue => cases registered
    case isFalse vacant =>
      cases registered
      refine ⟨?_, rfl⟩
      rw [handler?, found]
      exact Option.not_isSome_iff_eq_none.mp vacant

theorem isPending_modify (controller : Controller η) (n k : Nat) (f : Line η → Line η)
    (kept : ∀ line, (f line).pending = line.pending) :
    (controller.modify n f).isPending k = controller.isPending k := by
  unfold isPending
  rw [line?_modify]
  split
  · cases controller.line? k with
    | none => rfl
    | some line => exact kept line
  · rfl

theorem isPending_clear_self (controller : Controller η) (n : Nat) :
    (controller.clear n).isPending n = false := by
  simp [isPending_clear]

theorem handler?_disable (controller : Controller η) (n k : Nat) :
    (controller.disable n).handler? k = controller.handler? k :=
  handler?_modify controller n k _ fun _ => rfl

theorem handler?_register {controller after : Controller η} {line : Nat} {handler : η}
    (registered : controller.register line handler = .ok after) :
    after.handler? line = some handler := by
  unfold register at registered
  split at registered
  case h_1 => cases registered
  case h_2 state found =>
    split at registered
    case isTrue => cases registered
    case isFalse =>
      cases registered
      rw [handler?, line?_modify, if_pos rfl, found]
      rfl

theorem lt_lineCount_of_handler? {controller : Controller η} {line : Nat} {handler : η}
    (handles : controller.handler? line = some handler) : line < lineCount := by
  obtain ⟨state, found, _⟩ := Option.bind_eq_some_iff.mp handles
  have inside := controller.line?_isSome line
  rw [found] at inside
  exact of_decide_eq_true inside.symm

end Controller

namespace Machine

/-- What an activity that is about to be carried out raises a line for. -/
inductive Raises (machine : Machine) (line : Nat) : Activity → Prop where
  | directly (current : Option TaskHandle) :
      Raises machine line (.call current (.platform (.request line)))
  | requested (current : Option TaskHandle) (number : Nat) (scheduler : Scheduler)
      (call : SchedulerCall Call) (found : machine.scheduler? number = some scheduler)
      (owned : scheduler.owned = true) (own : scheduler.config.line = line)
      (asks : call = .requestPass ∨ call = .timerFired) :
      Raises machine line (.call current (.scheduler number call))
  | putOff (current : Option TaskHandle) (number : Nat) (scheduler : Scheduler)
      (call : SchedulerCall Call) (found : machine.scheduler? number = some scheduler)
      (owned : scheduler.owned = true) (own : scheduler.config.line = line)
      (busy : scheduler.inPass = true) (asks : call = .run ∨ call = .runPass) :
      Raises machine line (.call current (.scheduler number call))
  | interrupted (at' delivered : Nat) (tally : Tally) (state : Line Handler) (number : Nat)
      (scheduler : Scheduler) (looked : machine.irq.line? at' = some state)
      (ready : state.isReady = true) (handles : state.handler = some (.scheduler number))
      (alive : machine.isAlive number = true)
      (found : machine.scheduler? number = some scheduler) (own : scheduler.config.line = line)
      (busy : scheduler.inPass = true) : Raises machine line (.sweep at' delivered tally)
  | woken (activity : Activity) (now : Ticks) (arming : Arming WakeUp) (number : Nat)
      (scheduler : Scheduler) (polls : activity.polls? machine.clock = some now)
      (armed : machine.timer.slot = some arming) (due : arming.instant ≤ now)
      (wakes : arming.wake = .scheduler number) (alive : machine.isAlive number = true)
      (found : machine.scheduler? number = some scheduler) (own : scheduler.config.line = line) :
      Raises machine line activity
  | entered (number : Nat) (part : Section) (scheduler : Scheduler)
      (found : machine.scheduler? number = some scheduler) (free : scheduler.locked = false)
      (own : scheduler.config.line = line) (requests : part.Requests scheduler machine.clock) :
      Raises machine line (.enter number part)

/-- What an activity that is about to be carried out lowers a line for. -/
inductive Lowers (machine : Machine) (line : Nat) : Activity → Prop where
  | directly (current : Option TaskHandle) :
      Lowers machine line (.call current (.platform (.clear line)))
  | begun (activity : Activity) (number : Nat) (scheduler : Scheduler)
      (found : machine.scheduler? number = some scheduler) (own : scheduler.config.line = line)
      (idle : scheduler.inPass = false) : Lowers machine line activity
  | spurious (delivered : Nat) (tally : Tally) (state : Line Handler)
      (looked : machine.irq.line? line = some state) (unhandled : state.handler = none) :
      Lowers machine line (.sweep line delivered tally)

theorem Passing.raises {machine : Machine} {number : Nat} {activity : Activity} {wakes : Bool}
    {resumes : List Activity} (passes : machine.Passing number activity wakes resumes)
    {scheduler : Scheduler} (found : machine.scheduler? number = some scheduler)
    (busy : scheduler.inPass = true) : machine.Raises scheduler.config.line activity := by
  cases passes with
  | run current held there owned =>
      cases there.symm.trans found
      exact .putOff current number scheduler .run found owned rfl busy (.inl rfl)
  | runPass current held there owned =>
      cases there.symm.trans found
      exact .putOff current number scheduler .runPass found owned rfl busy (.inr rfl)
  | interrupt line delivered tally state looked ready handles alive =>
      exact .interrupted line delivered tally state number scheduler looked ready handles alive
        found rfl busy

namespace Deed

variable {machine after : Machine} {activity : Activity}

/-- Where a scheduler comes from: it was just set up on its line, or it was there before,
with the same configuration; and its line is lowered if a pass begins. -/
theorem scheduler_cases (deed : machine.Deed activity after) {number : Nat} {later : Scheduler}
    (there : after.scheduler? number = some later) :
    (later.inPass = false ∧
        after.irq.handler? later.config.line = some (.scheduler number)) ∨
      ∃ earlier, machine.scheduler? number = some earlier ∧ later.config = earlier.config ∧
        (later.inPass = true →
          earlier.inPass = true ∨ after.irq = machine.irq.clear later.config.line) := by
  have kept (same : machine.scheduler? number = some later) :
      ∃ earlier, machine.scheduler? number = some earlier ∧ later.config = earlier.config ∧
        (later.inPass = true →
          earlier.inPass = true ∨ after.irq = machine.irq.clear later.config.line) :=
    ⟨later, same, rfl, .inl⟩
  -- Where one entry of the list is replaced, the scheduler is that entry or was there before.
  have replaced {other : Nat} {before revised : Scheduler}
      (there : (machine.schedulers.set other (some revised))[number]?.join = some later)
      (found : machine.scheduler? other = some before)
      (configured : revised.config = before.config)
      (begins : revised.inPass = true →
        before.inPass = true ∨ after.irq = machine.irq.clear revised.config.line) :
      ∃ earlier, machine.scheduler? number = some earlier ∧ later.config = earlier.config ∧
        (later.inPass = true →
          earlier.inPass = true ∨ after.irq = machine.irq.clear later.config.line) := by
    have here : (machine.setScheduler other revised).scheduler? number = some later := there
    rw [scheduler?_setScheduler] at here
    split at here
    case isTrue same =>
      cases here
      exact ⟨before, same.1 ▸ found, configured, begins⟩
    case isFalse => exact kept here
  cases deed with
  | initFailed current config executor reply =>
      have here := (scheduler?_append machine number none).symm.trans there
      split at here
      · cases here
      · exact .inr (kept here)
  | setUp current config executor valid irq registers =>
      have here :=
        (scheduler?_append machine number (some (.fresh config executor))).symm.trans there
      split at here
      case isTrue last =>
        cases here
        refine .inl ⟨rfl, (Controller.handler?_enable ..).trans ?_⟩
        rw [last]
        exact Controller.handler?_register registers
      case isFalse => exact .inr (kept here)
  | dropped _ other scheduler found => exact .inr (replaced there found rfl .inl)
  | putOff _ other _ _ _ scheduler found busy =>
      exact .inr (replaced there found rfl fun _ => .inl busy)
  | begun _ other _ _ _ scheduler found =>
      exact .inr (replaced there found rfl fun _ => .inr rfl)
  | skipped other _ scheduler found | handed other _ _ scheduler found =>
      exact .inr (replaced there found rfl .inl)
  | concluded other _ _ scheduler found | lookedUp other _ scheduler found =>
      exact .inr (replaced there found rfl nofun)
  | entered other part scheduler effect found free made =>
      subst made
      obtain ⟨⟨table, statistics, issued, framed⟩, _⟩ :=
        part.effect_done scheduler other machine.clock machine.pipelines.length
      refine .inr (replaced there found ?_ ?_)
      · rw [framed]
      · rw [framed]
        exact .inl
  | left other scheduler found => exact .inr (replaced there found rfl .inl)
  | _ => exact .inr (kept there)

theorem handler? (deed : machine.Deed activity after) {line number : Nat}
    (handles : machine.irq.handler? line = some (.scheduler number)) :
    after.irq.handler? line = some (.scheduler number) := by
  have registers {other : Nat} {handler : Handler} {irq : Controller Handler}
      (registered : machine.irq.register other handler = .ok irq) :
      irq.handler? line = some (.scheduler number) := by
    obtain ⟨vacant, rfl⟩ := Controller.register_cases registered
    by_cases same : line = other
    · rw [← same, handles] at vacant
      cases vacant
    · rw [Controller.handler?, Controller.line?_modify, if_neg same]
      exact handles
  cases deed with
  | enabled => exact (Controller.handler?_enable ..).trans handles
  | disabled => exact (Controller.handler?_disable ..).trans handles
  | requested | passRequested | woke | putOff =>
      exact (Controller.handler?_request ..).trans handles
  | cleared | spurious | begun => exact (Controller.handler?_clear ..).trans handles
  | registered current other scripts irq registered => exact registers registered
  | setUp current config executor valid irq registered =>
      exact (Controller.handler?_enable ..).trans (registers registered)
  | interrupted other =>
      rw [Controller.handler?, Controller.line?_modify]
      split
      · rw [Controller.handler?] at handles
        obtain ⟨state, found, own⟩ := Option.bind_eq_some_iff.mp handles
        simp [found, own, Handler.advance]
      · exact handles
  | entered =>
      dsimp only
      split
      · exact (Controller.handler?_request ..).trans handles
      · exact handles
  | _ => exact handles

theorem pending_cases (deed : machine.Deed activity after) (line : Nat) :
    after.irq.isPending line = machine.irq.isPending line ∨
      (after.irq.isPending line = true ∧ machine.Raises line activity) ∨
      (after.irq.isPending line = false ∧ machine.Lowers line activity) := by
  have requested {asked : Controller Handler} {other : Nat}
      (same : asked.isPending line = machine.irq.isPending line)
      (raises : machine.Raises other activity) :
      (asked.request other).isPending line = machine.irq.isPending line ∨
        ((asked.request other).isPending line = true ∧ machine.Raises line activity) ∨
        ((asked.request other).isPending line = false ∧ machine.Lowers line activity) := by
    rw [Controller.isPending_request]
    by_cases here : line = other
    · subst here
      -- A line that the controller does not have is neither raised nor lowered.
      by_cases inside : line < lineCount
      · exact .inr (.inl ⟨by simp [inside], raises⟩)
      · left
        have absent := machine.irq.line?_isSome line
        simp only [inside, decide_false, Option.isSome_eq_false_iff, Option.isNone_iff_eq_none]
          at absent
        simp [inside, Controller.isPending, absent]
    · rw [if_neg here]
      exact .inl same
  have cleared {other : Nat} (lowers : machine.Lowers other activity) :
      (machine.irq.clear other).isPending line = machine.irq.isPending line ∨
        ((machine.irq.clear other).isPending line = true ∧ machine.Raises line activity) ∨
        ((machine.irq.clear other).isPending line = false ∧ machine.Lowers line activity) := by
    rw [Controller.isPending_clear]
    by_cases here : line = other
    · subst here
      exact .inr (.inr ⟨by simp, lowers⟩)
    · simp [here]
  cases deed with
  | requested current other => exact requested rfl (.directly current)
  | passRequested current number call requests scheduler found owned =>
      exact requested rfl (.requested current number scheduler call found owned rfl requests)
  | woke _ now rest polls arming armed due number scheduler wakes alive found =>
      exact requested rfl
        (.woken activity now arming number scheduler polls.polls? armed due wakes alive found rfl)
  | putOff _ number wakes resumes passes scheduler found busy =>
      exact requested rfl (passes.raises found busy)
  | entered number part scheduler effect found free made =>
      subst made
      dsimp only
      split
      case isTrue requests =>
        have asks := (part.requests_iff scheduler number machine.clock
          machine.pipelines.length).mp requests
        exact requested rfl (.entered number part scheduler found free rfl asks)
      case isFalse => exact .inl rfl
  | cleared current other => exact cleared (.directly current)
  | spurious other delivered tally state looked ready unhandled =>
      exact cleared (.spurious delivered tally state looked unhandled)
  | begun _ number wakes resumes passes scheduler found idle =>
      exact cleared (.begun activity number scheduler found rfl idle)
  | enabled current other => exact .inl (Controller.isPending_enable ..)
  | disabled | interrupted => exact .inl (Controller.isPending_modify _ _ _ _ fun _ => rfl)
  | registered current other scripts irq registered =>
      obtain ⟨_, rfl⟩ := Controller.register_cases registered
      exact .inl (Controller.isPending_modify _ _ _ _ fun _ => rfl)
  | setUp current config executor valid irq registered =>
      obtain ⟨_, rfl⟩ := Controller.register_cases registered
      refine .inl ((Controller.isPending_enable ..).trans ?_)
      exact Controller.isPending_modify _ _ _ _ fun _ => rfl
  | _ => exact .inl rfl

end Deed

theorem isAlive_push {machine : Machine} {number : Nat} (alive : machine.isAlive number = true)
    (activities : List Activity) : (machine.push activities).isAlive number = true := by
  obtain ⟨scheduler, found, reason⟩ := (Option.any_eq_true _ _).mp alive
  refine (Option.any_eq_true _ _).mpr ⟨scheduler, found, ?_⟩
  simp only [push, List.any_append]
  simp only [Bool.or_eq_true] at reason ⊢
  exact reason.imp_right .inr

theorem pollTimer_pending {machine : Machine} {arming : Arming WakeUp} {now : Ticks}
    (armed : machine.timer.slot = some arming) (due : arming.instant ≤ now) {number : Nat}
    (wakes : arming.wake = .scheduler number) (alive : machine.isAlive number = true)
    {scheduler : Scheduler} (found : machine.scheduler? number = some scheduler)
    (inside : scheduler.config.line < lineCount) (rest : Bool → Activity) :
    (machine.pollTimer now rest).irq.isPending scheduler.config.line = true := by
  have there (timer : Timer WakeUp) :
      ({ machine with timer }.push [rest true]).scheduler? number = some scheduler := found
  have lives (timer : Timer WakeUp) :
      ({ machine with timer }.push [rest true]).isAlive number = true := isAlive_push alive _
  simp only [pollTimer, Timer.poll_due _ _ _ armed due, awaken, wakes, lives, there, if_true,
    Option.map_some, Option.getD_some, requestPass, request]
  rw [Controller.isPending_request, if_pos rfl]
  exact decide_eq_true inside

theorem Raises.pending {machine : Machine} {line : Nat} {activity : Activity}
    (raises : machine.Raises line activity) (inside : line < lineCount) :
    (machine.carryOut activity).irq.isPending line = true := by
  have raised (asked : Controller Handler) : (asked.request line).isPending line = true := by
    rw [Controller.isPending_request, if_pos rfl]
    exact decide_eq_true inside
  cases raises with
  | directly current => exact raised machine.irq
  | requested current number scheduler call found owned own asks =>
      subst own
      simp only [carryOut, perform, found, owned, if_true]
      rcases asks with rfl | rfl
      · exact raised machine.irq
      · exact raised machine.irq
  | putOff current number scheduler call found owned own busy asks =>
      subst own
      simp only [carryOut, perform, found, owned, if_true]
      rcases asks with rfl | rfl
      · simp only [performScheduler, beginPass_of_busy found busy]
        exact raised machine.irq
      · simp only [performScheduler, beginPass_of_busy found busy]
        exact raised machine.irq
  | interrupted at' delivered tally state number scheduler looked ready handles alive found own
      busy =>
      subst own
      have there : (machine.push [.sweep (at' + 1) (delivered + 1) tally]).scheduler? number =
          some scheduler := found
      simp only [carryOut, sweep, looked, ready, handles, deliver, isAlive_push alive, if_true,
        beginPass_of_busy there busy]
      exact raised machine.irq
  | woken _ now arming number scheduler polls armed due wakes alive found own =>
      subst own
      unfold Activity.polls? at polls
      split at polls
      case h_1 current now' =>
        cases polls
        exact pollTimer_pending armed due wakes alive found inside _
      case h_2 rounds delivered =>
        cases polls
        exact pollTimer_pending armed due wakes alive found inside _
      case h_3 => cases polls
  | entered number part scheduler found free own requests =>
      subst own
      have asks := (part.requests_iff scheduler number machine.clock
        machine.pipelines.length).mpr requests
      simp only [carryOut, enter, found, free, asks, Bool.false_eq_true, if_false, if_true]
      exact raised machine.irq.mask

end Machine

end EdfKernel
