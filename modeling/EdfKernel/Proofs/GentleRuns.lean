import EdfKernel.Proofs.WorkOwnership

/-!
Runs of one scheduler that nobody meddles with: its works, its executor and its
callers make calls of schedulers and pipelines, let time pass and have
interrupts delivered, but leave the timer and the lines to the scheduler. `Tended`
says what holds of the platform all along such a run.
-/

namespace EdfKernel

namespace PlatformCall

/-- Calls that look, let time pass, raise a line or have interrupts delivered. -/
def isQuiet {κ : Type} : PlatformCall κ → Bool
  | now | setClock _ | advanceClock _ | step | advance _ | pollTimer _ | enable _ | request _
  | lineState _ | dispatch => true
  | _ => false

end PlatformCall

namespace SchedulerCall

variable {κ : Type}

def turns : SchedulerCall κ → List (Turn κ)
  | create turns _ | createPipeline _ turns => turns
  | _ => []

/-- A pass that is not a run: nobody will wake for what it leaves. -/
def isBarePass : SchedulerCall κ → Bool
  | runPass => true
  | _ => false

end SchedulerCall

/-- A call that leaves the timer and the lines to the scheduler, as do the calls
of the works it creates. A pass that is not a run may be asked for only inside a pass,
where it is put off. -/
inductive Call.Gentle : (inside : Bool) → Call → Prop where
  | scheduler (inside : Bool) (number : Nat) (call : SchedulerCall Call)
      (through : call.isBarePass = true → inside = true)
      (works : ∀ turn ∈ call.turns, ∀ inner ∈ turn.calls, Call.Gentle true inner) :
      Call.Gentle inside (.scheduler number call)
  | pipeline (inside : Bool) (number : Nat) (call : PipelineCall) :
      Call.Gentle inside (.pipeline number call)
  | platform (inside : Bool) (call : PlatformCall Call) (quiet : call.isQuiet = true) :
      Call.Gentle inside (.platform call)

theorem Call.Gentle.mono {inside within : Bool} {call : Call} (gentle : call.Gentle inside)
    (further : inside = true → within = true) : call.Gentle within := by
  cases gentle with
  | scheduler _ number call through works =>
      exact .scheduler within number call (fun bare => further (through bare)) works
  | pipeline _ number call => exact .pipeline within number call
  | platform _ call quiet => exact .platform within call quiet

theorem Call.Gentle.isQuiet {inside : Bool} {call : PlatformCall Call}
    (gentle : Call.Gentle inside (.platform call)) : call.isQuiet = true := by
  cases gentle with
  | platform _ _ quiet => exact quiet

def Script.Gentle (inside : Bool) (script : Script) : Prop := ∀ call ∈ script, call.Gentle inside

theorem Script.Gentle.mono {inside within : Bool} {script : Script}
    (gentle : Script.Gentle inside script) (further : inside = true → within = true) :
    Script.Gentle within script := fun call member => (gentle call member).mono further

def Routine.Gentle (routine : Routine) : Prop :=
  ∀ turn ∈ routine.turns, Script.Gentle true turn.calls

def Work.Gentle (work : Work) : Prop := work.routine.Gentle

def Executor.Gentle : Executor Call → Prop
  | .inline => True
  | .custom turns =>
      ∀ turn ∈ turns, Script.Gentle true turn.before ∧ Script.Gentle true turn.after

theorem Routine.Gentle.turn {routine : Routine} (gentle : routine.Gentle) :
    Script.Gentle true routine.turn.calls := by
  unfold Routine.turn
  split
  case h_1 turn found => exact gentle turn (List.mem_of_getElem? found)
  case h_2 =>
    cases last : routine.turns.getLast? with
    | none =>
        rw [List.getLastD_eq_getLast?, last]
        intro call member
        cases member
    | some turn =>
        rw [List.getLastD_eq_getLast?, last]
        exact gentle turn (List.mem_of_getLast? last)

theorem Work.Gentle.advance {work : Work} (gentle : work.Gentle) : work.advance.Gentle := by
  cases work <;> exact gentle

theorem mem_of_mem_laterTurns {α : Type} {turn : α} {turns : List α}
    (member : turn ∈ laterTurns turns) : turn ∈ turns := by
  match turns with
  | [] | [_] => exact member
  | first :: next :: rest => exact List.mem_cons_of_mem first member

theorem Executor.Gentle.advance {executor : Executor Call} (gentle : executor.Gentle) :
    executor.advance.Gentle := by
  cases executor with
  | inline => exact trivial
  | custom turns => exact fun turn member => gentle turn (mem_of_mem_laterTurns member)

theorem Executor.Gentle.turn {executor : Executor Call} (gentle : executor.Gentle) :
    Script.Gentle true executor.turn.before ∧ Script.Gentle true executor.turn.after := by
  have nothing : Script.Gentle true [] := by
    intro call member
    cases member
  cases executor with
  | inline => exact ⟨nothing, nothing⟩
  | custom turns =>
      cases turns with
      | nil => exact ⟨nothing, nothing⟩
      | cons turn rest => exact gentle turn List.mem_cons_self

namespace Section

def Fits : Section → Prop
  | create routine _ | createPipeline _ routine => routine.Gentle
  | select wakes | dispatch wakes _ _ => wakes = true
  | finish run work _ => run.wake = true ∧ ∀ given, work = some given → given.Gentle
  | reinsert run _ _ => run.wake = true
  | _ => True

end Section

namespace Activity

def Fits (inside : Bool) : Activity → Prop
  | call _ called => called.Gentle inside
  | script _ calls => Script.Gentle inside calls
  | acquire _ part | enter _ part => part.Fits
  | execute _ run work => run.wake = true ∧ ∀ given, work = some given → given.Gentle
  | engage number run work turn =>
      number = 0 ∧ run.wake = true ∧ work.Gentle ∧ Script.Gentle true turn.after
  | returned number run work _ after =>
      number = 0 ∧ run.wake = true ∧ work.Gentle ∧ Script.Gentle true after
  | conclude _ wakes _ => wakes = true
  | _ => True

def isLinkOf (activity : Activity) (number : Nat) : Bool :=
  activity.isLink && activity.isDuty number

theorem Fits.mono {inside within : Bool} {activity : Activity} (fits : activity.Fits inside)
    (further : inside = true → within = true) : activity.Fits within := by
  cases activity with
  | call current called => exact Call.Gentle.mono fits further
  | script current calls => exact Script.Gentle.mono fits further
  | _ => exact fits

end Activity

theorem Section.next_fits (part : Section) (scheduler : Scheduler) (number : Nat)
    (clock : Ticks) (pipelines : Nat) (fits : part.Fits)
    (works : ∀ task record work, scheduler.table.find? task = some record →
      record.work = some work → work.Gentle)
    (inside : Bool) :
    ∀ activity ∈ (part.effect scheduler number clock pipelines).next, activity.Fits inside := by
  intro activity member
  rcases part.next_duties scheduler number clock pipelines activity member with
    mine | ⟨pipeline, rfl⟩
  · have worked := (part.effect_done scheduler number clock pipelines).worked
    have duty : activity ∈ (part.effect scheduler number clock pipelines).next.filter
        fun activity => activity.isDuty number :=
      List.mem_filter.mpr ⟨member, by simp [Activity.isDuty, mine]⟩
    generalize (part.effect scheduler number clock pipelines).next.filter
      (fun activity => activity.isDuty number) = next at worked duty
    generalize (part.effect scheduler number clock pipelines).scheduler.table = changed at worked
    cases worked with
    | call | looked => cases duty
    | idle | due | abandoned =>
        cases List.mem_singleton.mp duty
        exact fits
    | claimed wakes current task work after taken =>
        cases List.mem_singleton.mp duty
        obtain ⟨record, found, _, _, own, _⟩ := TaskTable.claim_cases taken
        refine ⟨fits, fun given has => ?_⟩
        exact works task record given found (own.symm.trans has)
    | finished run work status =>
        cases List.mem_singleton.mp duty
        exact fits.1
    | asked run work startUs deadlineUs running =>
        cases List.mem_singleton.mp duty
        exact fits.1
    | refused | readmitted =>
        cases List.mem_singleton.mp duty
        exact fits
  · exact trivial

theorem SchedulerCall.fits_of_part? {current : Option TaskHandle} {call : SchedulerCall Call}
    {part : Section} (asks : call.part? current = some part)
    (works : ∀ turn ∈ call.turns, ∀ inner ∈ turn.calls, Call.Gentle true inner) : part.Fits := by
  cases call with
  | create | createPipeline =>
      cases asks
      exact works
  | configure | retire | insert | cancel | complete | inspect | check | queued | queuedLength =>
      cases asks
      exact trivial
  | _ => cases asks

theorem Pipeline.fits_of_part? (pipeline : Pipeline) {number : Nat} {call : PipelineCall}
    {part : Section} (asks : pipeline.part? number call = some part) : part.Fits := by
  obtain ⟨task, startUs, deadlineUs, rfl⟩ | ⟨task, rfl⟩ | rfl | ⟨task, rfl⟩ | rfl :=
    pipeline.part?_cases asks
  all_goals exact trivial

/-- Everything left to do is gentle, given what comes after it. -/
def Calm : List Activity → Prop
  | [] => True
  | activity :: rest => activity.Fits (rest.any (·.isLinkOf 0)) ∧ Calm rest

theorem Calm.append {activities rest : List Activity} (calm : Calm rest)
    (fits : ∀ activity ∈ activities, activity.Fits (rest.any (·.isLinkOf 0))) :
    Calm (activities ++ rest) := by
  induction activities with
  | nil => exact calm
  | cons activity activities ih =>
      have later := ih fun other member => fits other (List.mem_cons_of_mem _ member)
      refine ⟨(fits activity List.mem_cons_self).mono ?_, later⟩
      intro inside
      change (activities ++ rest).any (·.isLinkOf 0) = true
      rw [List.any_append, inside, Bool.or_true]

theorem Calm.serve {rest : List Activity} (calm : Calm rest) (current : Option TaskHandle)
    {script : Script} (gentle : Script.Gentle true script) {link : Activity}
    (linked : link.isLinkOf 0 = true) (fits : link.Fits (rest.any (·.isLinkOf 0))) :
    Calm (.script current script :: link :: rest) := by
  refine ⟨gentle.mono ?_, fits, calm⟩
  intro _
  rw [List.any_cons, linked, Bool.true_or]

namespace Controller

variable {η : Type}

def handler? (controller : Controller η) (line : Nat) : Option η :=
  (controller.line? line).bind (·.handler)

theorem handler?_modify (controller : Controller η) (n k : Nat) (f : Line η → Line η)
    (kept : ∀ line, (f line).handler = line.handler) :
    (controller.modify n f).handler? k = controller.handler? k := by
  unfold handler?
  rw [line?_modify]
  split
  · cases controller.line? k with
    | none => rfl
    | some line => exact kept line
  · rfl

theorem handler?_request (controller : Controller η) (n k : Nat) :
    (controller.request n).handler? k = controller.handler? k :=
  handler?_modify controller n k _ fun _ => rfl

theorem handler?_clear (controller : Controller η) (n k : Nat) :
    (controller.clear n).handler? k = controller.handler? k :=
  handler?_modify controller n k _ fun _ => rfl

theorem handler?_enable (controller : Controller η) (n k : Nat) :
    (controller.enable n).handler? k = controller.handler? k :=
  handler?_modify controller n k _ fun _ => rfl

theorem isPending_request_of_pending {controller : Controller η} {line : Nat}
    (pending : controller.isPending line = true) (n : Nat) :
    (controller.request n).isPending line = true := by
  rw [isPending_request]
  split
  case isTrue same =>
    subst same
    have there := controller.line?_isSome line
    obtain ⟨state, found, _⟩ := (Option.any_eq_true _ _).mp pending
    rw [found] at there
    exact there.symm
  case isFalse => exact pending

end Controller

/-- A scheduler set up as configured, owned, and running gentle code. -/
structure Scheduler.Tame (scheduler : Scheduler) (config : SchedulerConfig) : Prop where
  configured : scheduler.config = config
  owned : scheduler.owned = true
  executor : scheduler.executor.Gentle
  works : ∀ task record work, scheduler.table.find? task = some record →
    record.work = some work → work.Gentle

theorem Scheduler.Tame.keep {before after : Scheduler} {config : SchedulerConfig}
    (tame : before.Tame config) (configured : after.config = before.config)
    (owned : after.owned = before.owned) (executor : after.executor.Gentle)
    (table : after.table = before.table) : after.Tame config where
  configured := configured.trans tame.configured
  owned := owned.trans tame.owned
  executor := executor
  works := table ▸ tame.works

/-- What holds all along a run of one scheduler that nobody meddles with. -/
structure Tended (machine : Machine) (config : SchedulerConfig) : Prop where
  alone : ∃ scheduler, machine.schedulers = [some scheduler] ∧ scheduler.Tame config
  /-- Only the scheduler handles interrupts. -/
  handled : ∀ line handler, machine.irq.handler? line = some handler → handler = .scheduler 0
  listens : machine.irq.handler? config.line = some (.scheduler 0)
  timed : ∀ arming, machine.timer.slot = some arming → arming.wake = .scheduler 0
  interposed : ∀ moment script, machine.interposed moment = some script →
    Script.Gentle false script
  calm : Calm machine.agenda

namespace Tended

variable {machine after : Machine} {config : SchedulerConfig}

theorem scheduler? (tended : Tended machine config) :
    ∃ scheduler, machine.scheduler? 0 = some scheduler ∧ scheduler.Tame config := by
  obtain ⟨scheduler, alone, tame⟩ := tended.alone
  exact ⟨scheduler, by simp [Machine.scheduler?, alone], tame⟩

theorem scheduler?_of_ne (tended : Tended machine config) (number : Nat) (other : number ≠ 0) :
    machine.scheduler? number = none := by
  obtain ⟨scheduler, alone, _⟩ := tended.alone
  simp [Machine.scheduler?, alone, other]

theorem eq_zero_of_scheduler? (tended : Tended machine config) {number : Nat}
    {scheduler : Scheduler} (found : machine.scheduler? number = some scheduler) :
    number = 0 := by
  by_contra other
  rw [tended.scheduler?_of_ne number other] at found
  cases found

theorem isAlive (tended : Tended machine config) : machine.isAlive 0 = true := by
  obtain ⟨scheduler, found, tame⟩ := tended.scheduler?
  simp [Machine.isAlive, found, tame.owned]

theorem handler_eq (tended : Tended machine config) {line : Nat} {state : Line Handler}
    {handler : Handler} (looked : machine.irq.line? line = some state)
    (handles : state.handler = some handler) : handler = .scheduler 0 := by
  apply tended.handled line handler
  rw [Controller.handler?, looked]
  exact handles

theorem keep (tended : Tended machine config) (schedulers : after.schedulers = machine.schedulers)
    (irq : ∀ line, after.irq.handler? line = machine.irq.handler? line)
    (timer : after.timer = machine.timer) (interposed : after.interposed = machine.interposed)
    (calm : Calm after.agenda) : Tended after config where
  alone := schedulers ▸ tended.alone
  handled line handler found := tended.handled line handler (irq line ▸ found)
  listens := (irq config.line).trans tended.listens
  timed := timer ▸ tended.timed
  interposed := interposed ▸ tended.interposed
  calm := calm

theorem revise (tended : Tended machine config) {number : Nat} {scheduler later : Scheduler}
    (found : machine.scheduler? number = some scheduler)
    (schedulers : after.schedulers = machine.schedulers.set number (some later))
    (tame : scheduler.Tame config → later.Tame config)
    (irq : ∀ line, after.irq.handler? line = machine.irq.handler? line)
    (timed : ∀ arming, after.timer.slot = some arming →
      machine.timer.slot = some arming ∨ arming.wake = .scheduler number)
    (interposed : after.interposed = machine.interposed) (calm : Calm after.agenda) :
    Tended after config where
  alone := by
    obtain ⟨held, there, before⟩ := tended.scheduler?
    obtain ⟨_, alone, _⟩ := tended.alone
    cases tended.eq_zero_of_scheduler? found
    cases there.symm.trans found
    exact ⟨later, by rw [schedulers, alone]; rfl, tame before⟩
  handled line handler found := tended.handled line handler (irq line ▸ found)
  listens := (irq config.line).trans tended.listens
  timed arming armed := by
    cases tended.eq_zero_of_scheduler? found
    exact (timed arming armed).elim (tended.timed arming) id
  interposed := interposed ▸ tended.interposed
  calm := calm

theorem effect (scheduler : Scheduler) (tame : scheduler.Tame config)
    (consistent : scheduler.table.Consistent) (part : Section) (number : Nat) (clock : Ticks)
    (pipelines : Nat) (fits : part.Fits) :
    (part.effect scheduler number clock pipelines).scheduler.Tame config := by
  obtain ⟨⟨table, statistics, issued, framed⟩, worked⟩ :=
    part.effect_done scheduler number clock pipelines
  rw [framed] at worked ⊢
  constructor
  case configured => exact tame.configured
  case owned => exact tame.owned
  case executor => exact tame.executor
  case works =>
    intro task record work found has
    rcases worked.attached consistent found has with
      ⟨_, brought⟩ | ⟨earlier, here, own | given⟩
    · cases part with
      | create routine settings | createPipeline desc routine =>
          cases brought
          exact fits
      | _ => cases brought
    · exact tame.works task earlier work here own
    · cases part with
      | finish run carried status =>
          cases given
          exact fits.2 work rfl
      | _ => cases given

/-- Whatever is done leaves a tended machine tended, if it fits what is left to do. -/
theorem of_deed {activity : Activity} (deed : machine.Deed activity after)
    (tended : Tended machine config) (fits : activity.Fits (machine.agenda.any (·.isLinkOf 0)))
    (sound : ∀ number scheduler, machine.scheduler? number = some scheduler →
      scheduler.table.Consistent)
    (guarded : machine.agenda.any (·.isLinkOf 0) = true → ∀ held,
      machine.scheduler? 0 = some held → held.inPass = true) :
    Tended after config := by
  have calm := tended.calm
  cases deed with
  | answered | reported | advancedClock | setClock | unguarded | unlocked | started | told =>
      exact tended.keep rfl (fun _ => rfl) rfl rfl calm
  | called current call rest =>
      exact tended.keep rfl (fun _ => rfl) rfl rfl
        ⟨fits call List.mem_cons_self, trivial,
          fun other later => fits other (List.mem_cons_of_mem _ later), calm⟩
  | armed | disarmed | registered | disabled | cleared | masked | unmasked | guarded | locked =>
      exact absurd (Call.Gentle.isQuiet fits) nofun
  | enabled current line =>
      exact tended.keep rfl (fun _ => Controller.handler?_enable ..) rfl rfl calm
  | requested | passRequested =>
      exact tended.keep rfl (fun _ => Controller.handler?_request ..) rfl rfl calm
  | stepped | advanced | dispatched | wentOn | passedOver | unheard =>
      exact tended.keep rfl (fun _ => rfl) rfl rfl ⟨trivial, calm⟩
  | early _ _ _ polls =>
      cases polls <;> exact tended.keep rfl (fun _ => rfl) rfl rfl ⟨trivial, calm⟩
  | rang _ _ _ polls arming armed due script wakes =>
      exact absurd (wakes.symm.trans (tended.timed arming armed)) nofun
  | woke _ _ _ polls _ _ _ number scheduler =>
      have asked := Controller.handler?_request machine.irq scheduler.config.line
      refine ⟨tended.alone, fun line handler handles => ?_, (asked _).trans tended.listens, nofun,
        tended.interposed, ?_⟩
      · exact tended.handled line handler ((asked line).symm.trans handles)
      · cases polls <;> exact ⟨trivial, calm⟩
  | wokeNobody _ _ _ polls =>
      refine ⟨tended.alone, tended.handled, tended.listens, nofun, tended.interposed, ?_⟩
      cases polls <;> exact ⟨trivial, calm⟩
  | spurious =>
      exact tended.keep rfl (fun _ => Controller.handler?_clear ..) rfl rfl ⟨trivial, calm⟩
  | interrupted line delivered tally state looked ready turns handles =>
      cases tended.handler_eq looked handles
  | putOff _ number wakes resumes passes scheduler found =>
      refine tended.revise found rfl (fun tame => tame.keep rfl rfl tame.executor rfl)
        (fun _ => Controller.handler?_request ..) (fun _ => .inl) rfl ?_
      cases passes with
      | run | runPass => exact calm
      | interrupt => exact ⟨trivial, calm⟩
  | begun _ number wakes resumes passes scheduler found idle =>
      refine tended.revise found rfl (fun tame => tame.keep rfl rfl tame.executor rfl)
        (fun _ => Controller.handler?_clear ..) (fun _ => .inl) rfl ?_
      cases passes with
      | run => exact ⟨rfl, calm⟩
      | interrupt => exact ⟨rfl, trivial, calm⟩
      | runPass =>
          -- Only inside a pass may a pass be asked for that is not a run.
          cases tended.eq_zero_of_scheduler? found
          cases fits with
          | scheduler _ _ _ through =>
              exact absurd (idle.symm.trans (guarded (through rfl) scheduler found)) nofun
  | skipped number run scheduler found =>
      exact tended.revise found rfl (fun tame => tame.keep rfl rfl tame.executor.advance rfl)
        (fun _ => rfl) (fun _ => .inl) rfl ⟨⟨fits.1, nofun⟩, calm⟩
  | handed number run work scheduler found =>
      have served := tended.scheduler?
      cases tended.eq_zero_of_scheduler? found
      obtain ⟨held, there, tame⟩ := served
      cases there.symm.trans found
      exact tended.revise found rfl (fun tame => tame.keep rfl rfl tame.executor.advance rfl)
        (fun _ => rfl) (fun _ => .inl) rfl
        (calm.serve _ tame.executor.turn.1 rfl
          ⟨rfl, fits.1, fits.2 work rfl, tame.executor.turn.2⟩)
  | ranTask number run routine turn | ranCopy number run pipeline routine turn =>
      obtain ⟨rfl, wakes, gentle, after⟩ := fits
      exact tended.keep rfl (fun _ => rfl) rfl rfl
        (calm.serve _ gentle.turn rfl ⟨rfl, wakes, gentle.advance, after⟩)
  | spared number run work turn | returned number run work verdict script =>
      obtain ⟨rfl, wakes, gentle, after⟩ := fits
      refine tended.keep rfl (fun _ => rfl) rfl rfl
        (calm.serve _ after rfl ⟨wakes, fun given has => ?_⟩)
      cases has
      exact gentle
  | concluded number wakes outcome scheduler found =>
      exact tended.revise found rfl (fun tame => tame.keep rfl rfl tame.executor rfl)
        (fun _ => rfl) (fun _ => .inl) rfl calm
  | lookedUp number outcome scheduler found =>
      exact tended.revise found rfl (fun tame => tame.keep rfl rfl tame.executor rfl)
        (fun _ => rfl) (fun _ => .inl) rfl ⟨trivial, calm⟩
  | acquired | waited => exact tended.keep rfl (fun _ => rfl) rfl rfl ⟨fits, calm⟩
  | interposed number part script comes =>
      have gentle := tended.interposed _ script comes
      exact tended.keep rfl (fun _ => rfl) rfl rfl ⟨gentle.mono nofun, fits, calm⟩
  | entered number part scheduler effect found free made =>
      subst made
      obtain ⟨held, there, tame⟩ := tended.scheduler?
      cases tended.eq_zero_of_scheduler? found
      cases there.symm.trans found
      have worked := Tended.effect scheduler tame (sound 0 scheduler found) part 0 machine.clock
        machine.pipelines.length fits
      refine tended.revise found rfl (fun _ => worked.keep rfl rfl worked.executor rfl) ?_ ?_ rfl
        ⟨trivial, calm.append (part.next_fits scheduler 0 _ _ fits tame.works _)⟩
      · intro line
        dsimp only
        split
        · exact Controller.handler?_request ..
        · rfl
      · intro arming armed
        dsimp only at armed
        split at armed
        · cases armed
          exact .inr rfl
        · exact .inl armed
  | left number scheduler found =>
      exact tended.revise found rfl (fun tame => tame.keep rfl rfl tame.executor rfl)
        (fun _ => rfl) (fun _ => .inl) rfl calm
  | initFailed | setUp | dropped => cases fits
  | asked current number call part asks =>
      cases fits with
      | scheduler _ _ _ _ works =>
          exact tended.keep rfl (fun _ => rfl) rfl rfl
            ⟨SchedulerCall.fits_of_part? asks works, calm⟩
  | pipeAsked current number call query pipeline found part asks =>
      exact tended.keep rfl (fun _ => rfl) rfl rfl ⟨pipeline.fits_of_part? asks, calm⟩
  | startedDriven current number command starts pipeline found part asks
  | stopped current number command stops pipeline found part asks =>
      exact tended.keep rfl (fun _ => rfl) rfl rfl ⟨pipeline.fits_of_part? asks, calm⟩

/-- A call made from inside a pass has a link of that pass behind it. -/
theorem inPass_of_link (reachable : machine.Reachable) (scheduler : Scheduler)
    (found : machine.scheduler? 0 = some scheduler) (activities rest : List Activity)
    (agenda : machine.agenda = activities ++ rest)
    (linked : rest.any (·.isLinkOf 0) = true) : scheduler.inPass = true := by
  obtain ⟨link, member, both⟩ := List.any_eq_true.mp linked
  obtain ⟨isLink, isDuty⟩ := Bool.and_eq_true_iff.mp both
  have duty : link ∈ machine.duties 0 := by
    rw [Machine.duties, agenda]
    exact List.mem_filter.mpr ⟨List.mem_append_right _ member, isDuty⟩
  exact reachable.inPass_of_mem found duty isLink

theorem step (tended : Tended machine config) (reachable : machine.Reachable) :
    Tended machine.step config := by
  cases agenda : machine.agenda with
  | nil =>
      rw [Machine.step_of_isIdle machine (by simp [Machine.isIdle, agenda])]
      exact tended
  | cons activity rest =>
      have calm := tended.calm
      rw [agenda] at calm
      have before : Tended { machine with agenda := rest } config :=
        tended.keep rfl (fun _ => rfl) rfl rfl calm.2
      refine of_deed (Machine.step_deed agenda) before calm.1 ?_ ?_
      · intro number scheduler found
        exact (reachable.tableSound found).consistent
      · intro linked held found
        exact inPass_of_link reachable held found [activity] rest agenda linked

end Tended

namespace Machine

def alone (start : Ticks) (config : SchedulerConfig) (executor : Executor Call) : Machine :=
  ((boot start).start (.init config executor) fun _ => none).step

theorem valid_config {config : SchedulerConfig} (valid : config.fault? = none) :
    config.line < lineCount ∧ 0 < config.maxTasks := by
  grind [SchedulerConfig.fault?]

theorem line?_quiet (line : Nat) : (Controller.quiet : Controller Handler).line? line =
    if line < lineCount then some .idle else none := by
  by_cases inside : line < lineCount
  · simp [Controller.line?, Controller.quiet, inside]
  · simp [Controller.line?, Controller.quiet, inside]

def listening (line : Nat) : Controller Handler :=
  Controller.quiet.modify line fun line => { line with handler := some (.scheduler 0) }

theorem line?_listening {own : Nat} (inside : own < lineCount) (line : Nat) :
    (listening own).line? line =
      if line = own then some ⟨some (.scheduler 0), false, false⟩
      else if line < lineCount then some .idle else none := by
  rw [listening, Controller.line?_modify, line?_quiet]
  by_cases same : line = own
  · simp [same, inside, Line.idle]
  · simp [same]

theorem alone_eq (start : Ticks) {config : SchedulerConfig} {executor : Executor Call}
    (valid : config.fault? = none) :
    alone start config executor =
      { boot start with
        irq := (listening config.line).enable config.line
        schedulers := [some (.fresh config executor)]
        reply := .ok (.config config)
        notices := #[.schedulerUp config] } := by
  have registered : (Controller.quiet : Controller Handler).register config.line (.scheduler 0) =
      .ok (listening config.line) := by
    simp [Controller.register, line?_quiet, (valid_config valid).1, Line.idle, listening]
  simp only [alone, Machine.step, Machine.start, carryOut, perform, initScheduler, valid]
  rw [show (boot start).irq.register config.line (.scheduler (boot start).schedulers.length) =
    .ok (listening config.line) from registered]
  rfl

theorem alone_tended (start : Ticks) {config : SchedulerConfig} {executor : Executor Call}
    (valid : config.fault? = none) (gentle : executor.Gentle) :
    Tended (alone start config executor) config := by
  -- Nothing but the only scheduler listens.
  have handlers (line : Nat) : (listening config.line).handler? line =
      if line = config.line then some (.scheduler 0) else none := by
    rw [Controller.handler?, line?_listening (valid_config valid).1]
    by_cases same : line = config.line
    · simp [same]
    · by_cases inside : line < lineCount
      · simp [same, inside, Line.idle]
      · simp [same, inside]
  rw [alone_eq start valid]
  constructor
  case alone =>
    refine ⟨.fresh config executor, rfl, rfl, rfl, gentle, ?_⟩
    intro task record work found
    simp [Scheduler.fresh, TaskTable.empty, TaskTable.find?] at found
  case handled =>
    intro line handler handles
    rw [Controller.handler?_enable, handlers] at handles
    split at handles
    · exact (Option.some.inj handles).symm
    · cases handles
  case listens =>
    rw [Controller.handler?_enable, handlers, if_pos rfl]
  case timed =>
    intro arming armed
    cases armed
  case interposed =>
    intro moment script interposes
    cases interposes
  case calm => exact trivial

/-- A run of one scheduler that nobody meddles with, with every step `allowed`. -/
inductive Driven (allowed : Machine → Prop) (config : SchedulerConfig) : Machine → Prop where
  | setUp (start : Ticks) (executor : Executor Call) (valid : config.fault? = none)
      (gentle : executor.Gentle) : Driven allowed config (alone start config executor)
  | start {machine : Machine} (call : Call) (interposed : Nat → Option Script)
      (gentle : call.Gentle false)
      (interposes : ∀ moment script, interposed moment = some script →
        Script.Gentle false script) :
      Driven allowed config machine → machine.agenda = [] →
      Driven allowed config (machine.start call interposed)
  | step {machine : Machine} :
      Driven allowed config machine → allowed machine → Driven allowed config machine.step

namespace Driven

variable {allowed : Machine → Prop} {config : SchedulerConfig} {machine : Machine}

theorem reachable (driven : Driven allowed config machine) : machine.Reachable := by
  induction driven with
  | setUp start executor valid gentle => exact .step (.start _ _ (.boot start) rfl)
  | start call interposed gentle interposes _ rest ih => exact .start call interposed ih rest
  | step _ _ ih => exact .step ih

theorem tended (driven : Driven allowed config machine) : Tended machine config := by
  induction driven with
  | setUp start executor valid gentle => exact alone_tended start valid gentle
  | start call interposed gentle interposes _ rest ih =>
      exact { ih with interposed := interposes, calm := ⟨gentle, trivial⟩ }
  | step before _ ih => exact ih.step before.reachable

theorem mono {other : Machine → Prop} (driven : Driven allowed config machine)
    (weaker : ∀ machine, allowed machine → other machine) : Driven other config machine := by
  induction driven with
  | setUp start executor valid gentle => exact .setUp start executor valid gentle
  | start call interposed gentle interposes _ rest ih =>
      exact .start call interposed gentle interposes ih rest
  | step _ kept ih => exact .step ih (weaker _ kept)

theorem run (driven : Driven allowed config machine) (fuel : Nat)
    (kept : ∀ steps < fuel, allowed (machine.run steps)) :
    Driven allowed config (machine.run fuel) := by
  induction fuel with
  | zero => exact driven
  | succ fuel ih =>
      have before := ih fun steps less => kept steps (Nat.lt_succ_of_lt less)
      rw [run_add, run_succ]
      exact before.step (kept fuel (Nat.lt_succ_self fuel))

end Driven

end Machine

end EdfKernel