import EdfKernel.Proofs.Duties

/-!
`Move` lists everything that one step of the kernel can do to a scheduler and
its duties, whatever else is on the platform. The state between two sections of
a pass is like any other, so a law about all moves is a law about every way in
which other contexts interleave with a pass.
-/

namespace EdfKernel

namespace Section

def isCall : Section → Bool
  | select _ | dispatch _ _ _ | finish _ _ _ | reinsert _ _ _ | wake _ _ => false
  | _ => true

end Section

/-- What a step can do to scheduler `number` and its duties, at `clock` and with
that many pipelines on the platform, and the duty that it carries out, if it is one. -/
inductive Move (number : Nat) (clock : Ticks) (pipelines : Nat) :
    Option Activity → Focus → Focus → Prop where
  | rest (focus : Focus) : Move number clock pipelines none focus focus
  | setUp (config : SchedulerConfig) (executor : Executor Call) (duties : List Activity)
      (valid : config.fault? = none) :
      Move number clock pipelines none ⟨none, duties⟩
        ⟨some (.fresh config executor), duties⟩
  | drop (scheduler : Scheduler) (duties : List Activity) :
      Move number clock pipelines none ⟨some scheduler, duties⟩
        ⟨some { scheduler with owned := false }, duties⟩
  | coalesce (scheduler : Scheduler) (duties : List Activity) (busy : scheduler.inPass = true) :
      Move number clock pipelines none ⟨some scheduler, duties⟩
        ⟨some scheduler.coalesce, duties⟩
  | begin (scheduler : Scheduler) (duties : List Activity) (wakes : Bool)
      (idle : scheduler.inPass = false) :
      Move number clock pipelines none ⟨some scheduler, duties⟩
        ⟨some scheduler.beginPass, .acquire number (.select wakes) :: duties⟩
  | ask (scheduler : Option Scheduler) (duties : List Activity) (part : Section)
      (called : part.isCall = true) :
      Move number clock pipelines none ⟨scheduler, duties⟩
        ⟨scheduler, .acquire number part :: duties⟩
  | acquire (scheduler : Option Scheduler) (duties : List Activity) (part : Section) :
      Move number clock pipelines (some (.acquire number part))
        ⟨scheduler, .acquire number part :: duties⟩
        ⟨scheduler, .enter number part :: duties⟩
  | enter (scheduler : Scheduler) (duties : List Activity) (part : Section)
      (free : scheduler.locked = false) :
      Move number clock pipelines (some (.enter number part))
        ⟨some scheduler, .enter number part :: duties⟩
        ⟨some { (part.effect scheduler number clock pipelines).scheduler with locked := true },
          .leave number ::
            ((part.effect scheduler number clock pipelines).next.filter
              fun activity => activity.isDuty number) ++ duties⟩
  | leave (scheduler : Scheduler) (duties : List Activity) :
      Move number clock pipelines (some (.leave number))
        ⟨some scheduler, .leave number :: duties⟩
        ⟨some { scheduler with locked := false }, duties⟩
  | hand (scheduler : Scheduler) (duties : List Activity) (dispatch : Dispatch) (work : Work) :
      Move number clock pipelines (some (.execute number dispatch (some work)))
        ⟨some scheduler, .execute number dispatch (some work) :: duties⟩
        ⟨some scheduler.countDispatch,
          .engage number dispatch work scheduler.executor.turn :: duties⟩
  | skip (scheduler : Scheduler) (duties : List Activity) (dispatch : Dispatch) :
      Move number clock pipelines (some (.execute number dispatch none))
        ⟨some scheduler, .execute number dispatch none :: duties⟩
        ⟨some scheduler.countDispatch,
          .acquire number (.finish dispatch none .done) :: duties⟩
  | run (scheduler : Option Scheduler) (duties : List Activity) (dispatch : Dispatch)
      (work : Work) (turn : ExecutorTurn Call) (verdict : Verdict) :
      Move number clock pipelines (some (.engage number dispatch work turn))
        ⟨scheduler, .engage number dispatch work turn :: duties⟩
        ⟨scheduler, .returned number dispatch work.advance verdict turn.after :: duties⟩
  | spare (scheduler : Option Scheduler) (duties : List Activity) (dispatch : Dispatch)
      (work : Work) (turn : ExecutorTurn Call) (status : WorkStatus) :
      Move number clock pipelines (some (.engage number dispatch work turn))
        ⟨scheduler, .engage number dispatch work turn :: duties⟩
        ⟨scheduler, .acquire number (.finish dispatch (some work) status) :: duties⟩
  | back (scheduler : Option Scheduler) (duties : List Activity) (dispatch : Dispatch)
      (work : Work) (verdict : Verdict) (after : Script) (status : WorkStatus) :
      Move number clock pipelines (some (.returned number dispatch work verdict after))
        ⟨scheduler, .returned number dispatch work verdict after :: duties⟩
        ⟨scheduler, .acquire number (.finish dispatch (some work) status) :: duties⟩
  | conclude (scheduler : Scheduler) (duties : List Activity) (wakes : Bool)
      (outcome : PassOutcome) (ended : wakes = true → outcome.next = none) :
      Move number clock pipelines (some (.conclude number wakes outcome))
        ⟨some scheduler, .conclude number wakes outcome :: duties⟩
        ⟨some scheduler.endPass, duties⟩
  /-- A run has a task to wake for. -/
  | lookUp (scheduler : Scheduler) (duties : List Activity) (outcome : PassOutcome)
      (task : TaskHandle) (next : outcome.next = some task) :
      Move number clock pipelines (some (.conclude number true outcome))
        ⟨some scheduler, .conclude number true outcome :: duties⟩
        ⟨some scheduler.endPass, .acquire number (.wake outcome task) :: duties⟩
  /-- Nobody is there to do it. -/
  | vanish (duties : List Activity) (activity : Activity) (duty : activity.isDuty number = true) :
      Move number clock pipelines (some activity) ⟨none, activity :: duties⟩ ⟨none, duties⟩

/-! Callers ask for no section of a pass. -/

theorem SchedulerCall.isCall_of_part? {current : Option TaskHandle} {call : SchedulerCall Call}
    {part : Section} (asks : call.part? current = some part) : part.isCall = true := by
  cases call <;> simp only [part?, reduceCtorEq, Option.some.injEq] at asks <;> subst asks <;> rfl

theorem Pipeline.isCall_of_part? (pipeline : Pipeline) {number : Nat} {call : PipelineCall}
    {part : Section} (asks : pipeline.part? number call = some part) : part.isCall = true := by
  obtain ⟨task, startUs, deadlineUs, rfl⟩ | ⟨task, rfl⟩ | rfl | ⟨task, rfl⟩ | rfl :=
    pipeline.part?_cases asks
  all_goals rfl

namespace Machine

theorem scheduler?_append (machine : Machine) (number : Nat) (added : Option Scheduler) :
    (machine.schedulers ++ [added])[number]?.join =
      if number = machine.schedulers.length then added else machine.scheduler? number := by
  unfold scheduler?
  rcases Nat.lt_trichotomy number machine.schedulers.length with inside | last | outside
  · rw [List.getElem?_append_left inside, if_neg (Nat.ne_of_lt inside)]
  · subst last
    simp
  · rw [if_neg (Nat.ne_of_gt outside), List.getElem?_eq_none (by simp; omega),
      List.getElem?_eq_none (Nat.le_of_lt outside)]

namespace Deed

variable {machine after : Machine} {activity : Activity} {number : Nat}

theorem own_moves (deed : machine.Deed activity after)
    (own : activity.scheduler? = some number) :
    ∃ done, (∀ other, done = some other → other = activity) ∧
      Move number machine.clock machine.pipelines.length done
        ⟨machine.scheduler? number, activity :: machine.duties number⟩ (after.focus number) := by
  have carried {target : Focus} (same : after.focus number = target)
      (move : Move number machine.clock machine.pipelines.length (some activity)
        ⟨machine.scheduler? number, activity :: machine.duties number⟩ target) :
      ∃ done, (∀ other, done = some other → other = activity) ∧
        Move number machine.clock machine.pipelines.length done
          ⟨machine.scheduler? number, activity :: machine.duties number⟩ (after.focus number) :=
    ⟨some activity, fun _ same => (Option.some.inj same).symm, same ▸ move⟩
  cases deed with
  | answered _ answers reply notices =>
      have gone : machine.scheduler? number = none := by
        cases answers with
        | notEntered _ _ gone | notLeft _ gone | notExecuted _ _ _ gone
        | notConcluded _ _ _ gone =>
            cases own
            exact gone
        | unreported _ _ _ reports => cases reports <;> cases own
        | counted _ _ _ counts =>
            cases counts with
            | masked _ _ dispatches => cases dispatches <;> cases own
            | swept => cases own
        | _ => cases own
      rw [gone] at carried ⊢
      exact carried (focus_of_scheduler? _ number none gone)
        (.vanish _ activity (decide_eq_true own))
  | acquired _ part alone =>
      cases own
      exact carried (focus_of_duty rfl rfl rfl) (.acquire _ _ part)
  | interposed _ part script comes =>
      cases own
      exact carried (focus_of_script_duty rfl rfl rfl) (.acquire _ _ part)
  | waited _ part scheduler found held =>
      cases own
      have same := @focus_of_duty machine
        { machine with agenda := .enter number part :: machine.agenda } number _ _ rfl rfl rfl
      exact ⟨none, nofun, same ▸ .rest _⟩
  | entered _ part scheduler effect found free made =>
      cases own
      subst made
      rw [found] at carried ⊢
      exact carried (focus_of_section (scheduler?_set_self found _) rfl)
        (.enter scheduler _ part free)
  | left _ scheduler found =>
      cases own
      rw [found] at carried ⊢
      exact carried (focus_of_scheduler? _ number _ (scheduler?_set_self found _))
        (.leave scheduler _)
  | skipped _ run scheduler found notices =>
      cases own
      rw [found] at carried ⊢
      exact carried (focus_of_duty (scheduler?_set_self found _) rfl rfl) (.skip scheduler _ run)
  | handed _ run work scheduler found notices =>
      cases own
      rw [found] at carried ⊢
      exact carried (focus_of_script_duty (scheduler?_set_self found _) rfl rfl)
        (.hand scheduler _ run work)
  | ranTask _ run routine turn runs =>
      cases own
      exact carried (focus_of_script_duty rfl rfl rfl) (.run _ _ run (.task routine) turn _)
  | ranCopy _ run pipeline routine turn runs id =>
      cases own
      exact carried (focus_of_script_duty rfl rfl rfl)
        (.run _ _ run (.copy pipeline routine) turn _)
  | spared _ run work turn runs =>
      cases own
      exact carried (focus_of_script_duty rfl rfl rfl) (.spare _ _ run work turn _)
  | returned _ run work verdict script status =>
      cases own
      exact carried (focus_of_script_duty rfl rfl rfl) (.back _ _ run work verdict script status)
  | concluded _ wakes outcome scheduler found ended =>
      cases own
      rw [found] at carried ⊢
      exact carried (focus_of_scheduler? _ number _ (scheduler?_set_self found _))
        (.conclude scheduler _ wakes outcome ended)
  | lookedUp _ outcome scheduler found task next =>
      cases own
      rw [found] at carried ⊢
      exact carried (focus_of_duty (scheduler?_set_self found _) rfl rfl)
        (.lookUp scheduler _ outcome task next)
  | early _ _ _ polls | rang _ _ _ polls | woke _ _ _ polls | wokeNobody _ _ _ polls =>
      cases polls <;> cases own
  | dispatched _ _ dispatches => cases dispatches <;> cases own
  | wentOn _ _ _ _ _ counts =>
      cases counts with
      | masked _ _ dispatches =>
          cases dispatches
          cases own
      | swept => cases own
  | putOff _ _ _ _ passes | begun _ _ _ _ passes => cases passes <;> cases own
  | told _ _ _ reports => cases reports <;> cases own
  | _ => cases own

theorem foreign_moves (deed : machine.Deed activity after)
    (foreign : activity.scheduler? ≠ some number) :
    Move number machine.clock machine.pipelines.length none (machine.focus number)
      (after.focus number) := by
  have moved {earlier later : Option Scheduler} {left : List Activity}
      (found : machine.scheduler? number = earlier) (scheduler : after.scheduler? number = later)
      (duties : after.duties number = left)
      (move : Move number machine.clock machine.pipelines.length none
        ⟨earlier, machine.duties number⟩ ⟨later, left⟩) :
      Move number machine.clock machine.pipelines.length none (machine.focus number)
        (after.focus number) := by
    rw [machine.focus_of_scheduler? number earlier found,
      after.focus_of_scheduler? number later scheduler, duties]
    exact move
  have unmoved (scheduler : after.scheduler? number = machine.scheduler? number)
      (duties : after.duties number = machine.duties number) :
      Move number machine.clock machine.pipelines.length none (machine.focus number)
        (after.focus number) :=
    moved rfl scheduler duties (.rest _)
  have apart {other : Nat} (own : activity.scheduler? = some other) : number ≠ other :=
    fun same => foreign (own.trans (by rw [same]))
  -- What one activity puts on the stack is at most one duty, of one scheduler.
  have undone {duty : Activity} {other : Nat} (apart : number ≠ other)
      (mine : duty.scheduler? = some other) :
      (duty :: machine.agenda).filter (fun activity => activity.isDuty number) =
        machine.duties number := by
    simp [duties, Activity.isDuty, mine, Ne.symm apart]
  have done {duty : Activity} (mine : duty.scheduler? = some number) :
      (duty :: machine.agenda).filter (fun activity => activity.isDuty number) =
        duty :: machine.duties number := by
    simp [duties, Activity.isDuty, mine]
  have asked {other : Nat} {part : Section} (called : part.isCall = true)
      (same : after.scheduler? number = machine.scheduler? number)
      (stacked : after.agenda = .acquire other part :: machine.agenda) :
      Move number machine.clock machine.pipelines.length none (machine.focus number)
        (after.focus number) := by
    by_cases own : number = other
    · subst own
      exact moved rfl same ((congrArg _ stacked).trans (done rfl)) (.ask _ _ part called)
    · exact unmoved same ((congrArg _ stacked).trans (undone own rfl))
  have kept {other : Nat} (apart : number ≠ other) (later : Option Scheduler) :
      (machine.schedulers.set other later)[number]?.join = machine.scheduler? number :=
    scheduler?_set_of_ne machine number apart later
  cases deed with
  | early _ _ _ polls | rang _ _ _ polls | woke _ _ _ polls | wokeNobody _ _ _ polls =>
      cases polls <;> exact unmoved rfl rfl
  | putOff _ other wakes resumes passes scheduler found busy =>
      have resumed : (resumes ++ machine.agenda).filter (fun activity => activity.isDuty number) =
          machine.duties number := by
        cases passes <;> rfl
      by_cases own : number = other
      · subst own
        exact moved found (scheduler?_set_self found _) resumed (.coalesce scheduler _ busy)
      · exact unmoved (kept own _) resumed
  | begun _ other wakes resumes passes scheduler found idle =>
      by_cases own : number = other
      · subst own
        refine moved found (scheduler?_set_self found _) ?_ (.begin scheduler _ wakes idle)
        cases passes <;> exact done rfl
      · refine unmoved (kept own _) ?_
        cases passes <;> exact undone own rfl
  | entered other part scheduler effect found free made =>
      -- A section leaves work to its own scheduler, and this one is another.
      have nothing : effect.next.filter (fun activity => activity.isDuty number) = [] := by
        subst made
        refine List.filter_eq_nil_iff.mpr fun activity member => ?_
        rcases part.next_duties scheduler other machine.clock machine.pipelines.length activity
          member with own | ⟨pipeline, rfl⟩
        · simp [Activity.isDuty, own, Ne.symm (apart rfl)]
        · exact Bool.false_ne_true
      have next : (effect.next ++ machine.agenda).filter (fun activity => activity.isDuty number) =
          machine.duties number := by
        rw [List.filter_append, nothing]
        rfl
      refine unmoved (kept (apart rfl) _) ?_
      refine Eq.trans ?_ next
      simp [duties, Activity.isDuty, Activity.scheduler?, Ne.symm (apart rfl)]
  | left other | concluded other => exact unmoved (kept (apart rfl) _) rfl
  | skipped other | lookedUp other | handed other =>
      exact unmoved (kept (apart rfl) _) (undone (apart rfl) rfl)
  | acquired other | waited other | interposed other | ranTask other | ranCopy other
  | spared other | returned other => exact unmoved rfl (undone (apart rfl) rfl)
  | initFailed current config executor reply =>
      refine unmoved ((scheduler?_append machine number none).trans ?_) rfl
      split
      case isTrue last => simp [scheduler?, last]
      case isFalse => rfl
  | setUp current config executor valid =>
      have joined := scheduler?_append machine number (some (.fresh config executor))
      by_cases last : number = machine.schedulers.length
      · have absent : machine.scheduler? number = none := by simp [scheduler?, last]
        rw [if_pos last] at joined
        exact moved absent joined rfl (.setUp config executor _ valid)
      · rw [if_neg last] at joined
        exact unmoved joined rfl
  | dropped current other scheduler found =>
      by_cases own : number = other
      · subst own
        exact moved found (scheduler?_set_self found _) rfl (.drop scheduler _)
      · exact unmoved (kept own _) rfl
  | asked current other call part asks => exact asked (SchedulerCall.isCall_of_part? asks) rfl rfl
  | pipeAsked current _ call query pipeline piped part asks =>
      exact asked (pipeline.isCall_of_part? asks) rfl rfl
  | startedDriven current _ command starts pipeline piped part asks =>
      exact asked (pipeline.isCall_of_part? asks) rfl rfl
  | stopped current _ command stops pipeline piped part asks =>
      exact asked (pipeline.isCall_of_part? asks) rfl rfl
  | _ => exact unmoved rfl rfl

end Deed

variable (machine : Machine) (number : Nat)

/-- Whatever the kernel does next is a move of every scheduler, and carries out one
of its duties only if that comes first on the agenda. -/
theorem step_moves :
    ∃ done,
      (∀ activity, done = some activity → ∃ rest, machine.agenda = activity :: rest) ∧
      Move number machine.clock machine.pipelines.length done (machine.focus number)
        (machine.step.focus number) := by
  cases agenda : machine.agenda with
  | nil =>
      have still : machine.step = machine := by simp only [step, agenda]
      exact ⟨none, by simp, still.symm ▸ .rest _⟩
  | cons activity rest =>
      have deed := step_deed agenda
      by_cases own : activity.scheduler? = some number
      · obtain ⟨done, same, moves⟩ := deed.own_moves own
        rw [machine.focus_of_scheduler? number _ rfl, duties_cons agenda own]
        exact ⟨done, fun other carried => ⟨rest, same other carried ▸ rfl⟩, moves⟩
      · have others : machine.focus number =
            ({ machine with agenda := rest } : Machine).focus number := by
          simp [focus, duties, scheduler?, agenda, Activity.isDuty, own]
        rw [others]
        exact ⟨none, by simp, deed.foreign_moves own⟩

end Machine

end EdfKernel
