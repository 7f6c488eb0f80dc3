import EdfKernel.Proofs.Counters
import EdfKernel.Proofs.Performances

/-!
While the executor has the task of a pass. What it and the work call stands above the pass, and as
long as none of it is a call on the scheduler, the scheduler stays as it is, but for its owner
giving it up, and the pass waits where it is for the work to come back. Calls of the platform that
are answered at once do come back.
-/

namespace EdfKernel

def PlatformCall.isImmediate {κ : Type} : PlatformCall κ → Bool
  | step | advance _ | pollTimer _ | dispatch | guarded _ | locked _ _ _ => false
  | _ => true

/-- The call only looks at the platform, or sets something there. -/
def Call.isPlain : Call → Bool
  | platform call => call.isImmediate
  | _ => false

theorem Move.own {number : Nat} {clock : Ticks} {pipelines : Nat} {activity : Activity}
    {before after : Focus} (move : Move number clock pipelines (some activity) before after) :
    activity.scheduler? = some number := by
  cases move with
  | vanish duties activity duty => exact of_decide_eq_true duty
  | acquire | enter | leave | hand | skip | run | spare | back | conclude | lookUp => rfl

theorem Move.duties_of_foreign {number : Nat} {clock : Ticks} {pipelines : Nat}
    {before after : Focus} (move : Move number clock pipelines none before after)
    (busy : before.scheduler.any (·.inPass) = true) :
    after.duties = before.duties ∨
      ∃ part, part.isCall = true ∧ after.duties = .acquire number part :: before.duties := by
  cases move with
  | rest | setUp | drop | coalesce => exact .inl rfl
  | begin scheduler duties wakes idle =>
      rw [Option.any_some, idle] at busy
      cases busy
  | ask scheduler duties part called => exact .inr ⟨part, called, rfl⟩

/-- What a pass lends: the task of a run, with its work, for one turn of the executor. -/
structure Loan where
  run : Dispatch
  work : Work
  turn : ExecutorTurn Call

def Loan.left (loan : Loan) : Work := if loan.turn.runs then loan.work.advance else loan.work

/-- What the work comes back with: what the executor answers in its place, else what the work
itself does if it ran. -/
def Loan.answer (loan : Loan) (pipelines : List Pipeline) : WorkStatus :=
  loan.turn.status.getD
    (if loan.turn.runs then (loan.work.verdict.status? pipelines).getD .done else .done)

/-- All that the executor and the work call is answered at once. -/
structure Loan.IsPlain (loan : Loan) : Prop where
  before : ∀ call ∈ loan.turn.before, call.isPlain = true
  work : loan.turn.runs = true → ∀ call ∈ loan.work.routine.turn.calls, call.isPlain = true
  after : ∀ call ∈ loan.turn.after, call.isPlain = true

inductive Activity.Lends (number : Nat) (loan : Loan) : Activity → Prop where
  | engage : Lends number loan (.engage number loan.run loan.work loan.turn)
  | returned (verdict : Verdict) (after : Script) (runs : loan.turn.runs = true) :
      Lends number loan (.returned number loan.run loan.work.advance verdict after)
  | back (status : WorkStatus) :
      Lends number loan (.acquire number (.finish loan.run (some loan.left) status))

def Activity.putsBack (number : Nat) : Activity → Bool
  | acquire other (.finish _ _ _) => other = number
  | _ => false

namespace Machine

variable {machine : Machine} {number : Nat} {scheduler : Scheduler} {loan : Loan}
  {below rest : List Activity}

/-- What comes next is a call on the scheduler: for a pass, or for a section of its table. -/
def callsOn (machine : Machine) (number : Nat) : Bool :=
  machine.callsPass number ||
    match machine.agenda with
    | activity :: _ => (machine.asks? activity).any fun ask => ask.1 = number
    | [] => false

def comesBack (machine : Machine) (number : Nat) : Bool :=
  match machine.agenda with
  | activity :: _ => activity.putsBack number
  | [] => false

structure Waits (machine : Machine) (number : Nat) : Prop where
  quiet : machine.callsOn number = false
  away : machine.comesBack number = false

def Holds (machine : Machine) (law : Machine → Prop) (steps : Nat) : Prop :=
  ∀ k < steps, law (machine.run k)

namespace Holds

variable {law : Machine → Prop} {first second : Nat}

theorem trans (before : machine.Holds law first) (after : (machine.run first).Holds law second) :
    machine.Holds law (first + second) := by
  intro k less
  rcases Nat.lt_or_ge k first with early | late
  · exact before k early
  · obtain ⟨more, rfl⟩ := Nat.exists_eq_add_of_le late
    rw [run_add]
    exact after more (Nat.lt_of_add_lt_add_left less)

theorem step (here : law machine) (later : machine.step.Holds law second) :
    machine.Holds law (second + 1) := by
  intro k less
  cases k with
  | zero => exact here
  | succ k =>
      rw [run_succ]
      exact later k (Nat.lt_of_succ_lt_succ less)

theorem none : machine.Holds law 0 := fun _ less => absurd less (Nat.not_lt_zero _)

theorem one (here : law machine) : machine.Holds law 1 := step here none

end Holds

theorem step_foreign {activity : Activity} (agenda : machine.agenda = activity :: rest)
    (foreign : activity.scheduler? ≠ some number) (quiet : machine.callsOn number = false)
    (found : Spared scheduler (machine.scheduler? number)) (busy : scheduler.inPass = true) :
    Spared scheduler (machine.step.scheduler? number) ∧
      ∃ added, machine.step.agenda = added ++ rest ∧
        ∀ duty ∈ added, duty.scheduler? ≠ some number := by
  obtain ⟨owned, here⟩ := found
  obtain ⟨passes, asks⟩ := Bool.or_eq_false_iff.mp quiet
  rw [callsPass, agenda] at passes
  simp only [agenda] at asks
  constructor
  · obtain ⟨later, there⟩ := (step_deed agenda).spares
      (show ({ machine with agenda := rest } : Machine).scheduler? number = _ from here) foreign
      (of_decide_eq_false passes)
    exact ⟨later, there⟩
  · obtain ⟨added, stepped, reason⟩ := step_stacked agenda
    refine ⟨added, stepped, ?_⟩
    have before : machine.duties number = rest.filter fun activity => activity.isDuty number := by
      rw [duties, agenda, List.filter_cons_of_neg (by simpa [Activity.isDuty] using foreign)]
    have after : machine.step.duties number =
        (added.filter fun activity => activity.isDuty number) ++ machine.duties number := by
      rw [duties, stepped, List.filter_append, before]
    obtain ⟨done, comes, move⟩ := step_moves machine number
    cases done with
    | some own =>
        obtain ⟨_, same⟩ := comes own rfl
        cases agenda.symm.trans same
        exact absurd move.own foreign
    | none =>
        have under : (machine.focus number).scheduler.any (·.inPass) = true := by
          rw [focus, here]
          exact busy
        have nothing : (added.filter fun activity => activity.isDuty number) = [] := by
          rcases move.duties_of_foreign under with same | ⟨part, called, more⟩
          · exact List.append_left_eq_self.mp (after.symm.trans same)
          · -- It would have been asked for by the call just made.
            have new : (added.filter fun activity => activity.isDuty number) =
                [.acquire number part] :=
              List.append_cancel_right (after.symm.trans more)
            have member : Activity.acquire number part ∈ added :=
              List.mem_of_mem_filter (new ▸ List.mem_cons_self)
            have asked : (Activity.acquire number part).asked? = some (number, part) :=
              if_pos called
            rcases reason _ member _ asked with waits | calls
            · cases activity with
              | acquire other piece | enter other piece =>
                  obtain ⟨_, same⟩ := Option.ite_none_right_eq_some.mp waits
                  cases same
                  exact absurd rfl foreign
              | _ => cases waits
            · rw [calls] at asks
              simp at asks
        intro duty member own
        have kept : duty ∈ added.filter fun activity => activity.isDuty number :=
          List.mem_filter.mpr ⟨member, decide_eq_true own⟩
        rw [nothing] at kept
        cases kept

/-- The executor has what was lent. The scheduler is as it was when it was handed over, what
has been called since stands above the link of the pass, and is no concern of the scheduler. -/
structure Lending (machine : Machine) (number : Nat) (scheduler : Scheduler) (loan : Loan)
    (below : List Activity) : Prop where
  found : Spared scheduler (machine.scheduler? number)
  stacked : ∃ above link, machine.agenda = above ++ link :: below ∧ link.Lends number loan ∧
    ∀ duty ∈ above, duty.scheduler? ≠ some number

namespace Lending

theorem step (lending : machine.Lending number scheduler loan below)
    (busy : scheduler.inPass = true) (waits : machine.Waits number) :
    machine.step.Lending number scheduler loan below := by
  obtain ⟨found, above, link, agenda, lends, foreign⟩ := lending
  cases above with
  | cons activity above =>
      obtain ⟨kept, added, stepped, none⟩ :=
        step_foreign agenda (foreign activity List.mem_cons_self) waits.quiet found busy
      refine ⟨kept, added ++ above, link, by rw [stepped, List.append_assoc]; rfl, lends, ?_⟩
      intro duty member
      rcases List.mem_append.mp member with new | old
      · exact none duty new
      · exact foreign duty (List.mem_cons_of_mem activity old)
  | nil =>
      rw [List.nil_append] at agenda
      have apart {current : Option TaskHandle} {script : Script} :
          ∀ duty ∈ [Activity.script current script], duty.scheduler? ≠ some number := by
        intro duty member
        cases List.mem_singleton.mp member
        exact nofun
      cases lends with
      | engage =>
          rw [step_cons agenda]
          cases runs : loan.turn.runs with
          | false =>
              have same : loan.left = loan.work := if_neg (by simp [runs])
              simp only [carryOut, engage, runs, Bool.false_eq_true, if_false, ← same]
              exact ⟨found, [.script _ _], _, rfl, .back _, apart⟩
          | true =>
              simp only [carryOut, engage, runs, if_true, runWork]
              split <;> exact ⟨found, [.script _ _], _, rfl, .returned _ _ runs, apart⟩
      | returned verdict after runs =>
          have same : loan.left = loan.work.advance := if_pos runs
          rw [step_cons agenda]
          simp only [carryOut, Machine.returned, ← same]
          exact ⟨found, [.script _ _], _, rfl, .back _, apart⟩
      | back status =>
          have away := waits.away
          simp [comesBack, agenda, Activity.putsBack] at away

theorem run {steps : Nat} (lending : machine.Lending number scheduler loan below)
    (busy : scheduler.inPass = true) (waits : machine.Holds (·.Waits number) steps) :
    (machine.run steps).Lending number scheduler loan below := by
  induction steps with
  | zero => exact lending
  | succ steps ih =>
      have before := ih fun k less => waits k (Nat.lt_succ_of_lt less)
      rw [run_add, run_succ]
      exact before.step busy (waits steps (Nat.lt_succ_self steps))

theorem back (lending : machine.Lending number scheduler loan below) {run : Dispatch}
    {work : Option Work} {status : WorkStatus}
    (agenda : machine.agenda = .acquire number (.finish run work status) :: rest) :
    run = loan.run ∧ work = some loan.left ∧ rest = below := by
  obtain ⟨_, above, link, stacked, lends, foreign⟩ := lending
  rw [agenda] at stacked
  cases above with
  | nil =>
      cases stacked
      cases lends with
      | back status => exact ⟨rfl, rfl, rfl⟩
  | cons first above =>
      cases stacked
      exact absurd rfl (foreign _ List.mem_cons_self)

theorem callsExecutor (lending : machine.Lending number scheduler loan below) :
    machine.callsExecutor number = false := by
  obtain ⟨_, above, link, stacked, lends, foreign⟩ := lending
  cases above with
  | nil =>
      rw [Machine.callsExecutor, stacked]
      cases lends <;> rfl
  | cons first above =>
      exact (nothing_of_foreign stacked (foreign first List.mem_cons_self)).1

end Lending

theorem step_execute (agenda : machine.agenda = .execute number loan.run (some loan.work) :: below)
    (found : machine.scheduler? number = some scheduler)
    (turn : scheduler.executor.turn = loan.turn) :
    machine.step =
      { machine with
        schedulers := machine.schedulers.set number (some scheduler.countDispatch)
        events := if scheduler.executor.isInline then machine.events
          else machine.events.push (.execute loan.run.task)
        notices := machine.notices.push (.dispatch loan.run.task loan.run.current)
        agenda := .script (some loan.run.task) loan.turn.before ::
          .engage number loan.run loan.work loan.turn :: below } := by
  have here : ({ machine with agenda := below } : Machine).scheduler? number =
      some scheduler := found
  rw [step_cons agenda]
  simp only [carryOut, execute, here, turn]
  split <;> rfl

theorem lending_of_execute
    (agenda : machine.agenda = .execute number loan.run (some loan.work) :: below)
    (found : machine.scheduler? number = some scheduler)
    (turn : scheduler.executor.turn = loan.turn) :
    machine.step.Lending number scheduler.countDispatch loan below := by
  rw [step_execute agenda found turn]
  refine ⟨⟨scheduler.countDispatch.owned, ?_⟩, [.script _ _], _, rfl, .engage, ?_⟩
  · exact scheduler?_setScheduler_self machine number scheduler _ found
  · intro duty member
    cases List.mem_singleton.mp member
    exact nofun

structure GivesBack (machine : Machine) (number steps : Nat) (left : Work) (status : WorkStatus) :
    Prop where
  back : ∃ run rest,
    (machine.run steps).agenda = .acquire number (.finish run (some left) status) :: rest
  waits : machine.Holds (·.Waits number) steps

/-! What is answered at once is over soon. -/

theorem Waits.of_agenda {activity : Activity} (agenda : machine.agenda = activity :: rest)
    (calls : activity.passes? { machine with agenda := rest } = none)
    (asks : machine.asks? activity = none)
    (away : activity.putsBack number = false) : machine.Waits number where
  quiet := by simp [callsOn, callsPass, agenda, calls, asks]
  away := by simp [comesBack, agenda, away]

structure ProceedsIn (machine : Machine) (number : Nat) (agenda : List Activity) (steps : Nat) :
    Prop where
  arrives : (machine.run steps).agenda = agenda
  waits : machine.Holds (·.Waits number) steps
  pipelines : (machine.run steps).pipelines = machine.pipelines
  interposed : (machine.run steps).interposed = machine.interposed
  acquisitions : (machine.run steps).acquisitions = machine.acquisitions

def Proceeds (machine : Machine) (number : Nat) (agenda : List Activity) : Prop :=
  ∃ steps, machine.ProceedsIn number agenda steps

namespace Proceeds

variable {agenda ends : List Activity}

theorem trans (first : machine.Proceeds number agenda)
    (second : ∀ middle : Machine, middle.agenda = agenda →
      middle.pipelines = machine.pipelines → middle.Proceeds number ends) :
    machine.Proceeds number ends := by
  obtain ⟨few, early⟩ := first
  obtain ⟨more, late⟩ := second _ early.arrives early.pipelines
  refine ⟨few + more, ?_, early.waits.trans late.waits, ?_, ?_, ?_⟩
  all_goals rw [run_add]
  · exact late.arrives
  · exact late.pipelines.trans early.pipelines
  · exact late.interposed.trans early.interposed
  · exact late.acquisitions.trans early.acquisitions

theorem step (here : machine.Waits number) (there : machine.step.agenda = agenda)
    (pipelines : machine.step.pipelines = machine.pipelines)
    (interposed : machine.step.interposed = machine.interposed)
    (acquisitions : machine.step.acquisitions = machine.acquisitions) :
    machine.Proceeds number agenda :=
  ⟨1, by rwa [run_succ], .one here, by rwa [run_succ], by rwa [run_succ], by rwa [run_succ]⟩

theorem answer {current : Option TaskHandle} {call : Call}
    (agenda : machine.agenda = .call current call :: rest) (plain : call.isPlain = true) :
    machine.Proceeds number rest := by
  cases call with
  | platform call =>
      have here : machine.Waits number := .of_agenda agenda rfl rfl rfl
      have stepped := step_cons agenda
      cases call with
      | step | advance | pollTimer | dispatch | guarded | locked => cases plain
      | register line scripts =>
          simp only [carryOut, perform, performPlatform] at stepped
          split at stepped
          all_goals
            apply step here
            all_goals rw [stepped]; rfl
      | _ =>
          apply step here
          all_goals rw [stepped]; rfl
  | _ => cases plain

theorem script {current : Option TaskHandle} {calls : Script}
    (agenda : machine.agenda = .script current calls :: rest)
    (plain : ∀ call ∈ calls, call.isPlain = true) :
    machine.Proceeds number rest := by
  induction calls generalizing machine with
  | nil =>
      apply step (.of_agenda agenda rfl rfl rfl)
      all_goals rw [step_cons agenda]; rfl
  | cons call calls ih =>
      have opened : machine.Proceeds number
          (.call current call :: .report :: .script current calls :: rest) := by
        apply step (.of_agenda agenda rfl rfl rfl)
        all_goals rw [step_cons agenda]; rfl
      refine opened.trans fun asking there _ => ?_
      refine (answer there (plain call List.mem_cons_self)).trans fun answered there _ => ?_
      have shown : answered.Proceeds number (.script current calls :: rest) := by
        apply step (.of_agenda there rfl rfl rfl)
        all_goals rw [step_cons there]; rfl
      exact shown.trans fun left there _ =>
        ih there fun other member => plain other (List.mem_cons_of_mem call member)

theorem begins (agenda : machine.agenda = .engage number loan.run loan.work loan.turn :: below)
    (runs : loan.turn.runs = true) :
    ∃ current verdict,
      (verdict.status? machine.pipelines).getD .done = loan.answer machine.pipelines ∧
      machine.Proceeds number (.script current loan.work.routine.turn.calls ::
        .returned number loan.run loan.work.advance verdict loan.turn.after :: below) := by
  have here : machine.Waits number := .of_agenda agenda rfl rfl rfl
  have stepped := step_cons agenda
  cases work : loan.work with
  | task routine =>
      simp only [carryOut, Machine.engage, runs, if_true, runWork, work] at stepped
      refine ⟨some loan.run.task, .fixed (loan.turn.status.getD routine.turn.status), ?_, ?_⟩
      · simp only [Loan.answer, runs, if_true, work]
        rfl
      · apply step here
        all_goals rw [stepped]; rfl
  | copy p routine =>
      simp only [carryOut, Machine.engage, runs, if_true, runWork, work] at stepped
      refine ⟨none, (loan.turn.status.map Verdict.fixed).getD (.pipeline p), ?_, ?_⟩
      · simp only [Loan.answer, runs, if_true, work]
        cases loan.turn.status <;> rfl
      · apply step here
        all_goals rw [stepped]; rfl

theorem returned {run : Dispatch} {work : Work} {verdict : Verdict} {after : Script}
    (agenda : machine.agenda = .returned number run work verdict after :: below)
    (plain : ∀ call ∈ after, call.isPlain = true) :
    machine.Proceeds number
      (.acquire number (.finish run (some work) ((verdict.status? machine.pipelines).getD .done)) ::
        below) := by
  have told : machine.Proceeds number
      (.script (some run.task) after ::
        .acquire number
          (.finish run (some work) ((verdict.status? machine.pipelines).getD .done)) :: below) := by
    have stepped := step_cons agenda
    cases verdict with
    | fixed | pipeline =>
        apply step (.of_agenda agenda rfl rfl rfl)
        all_goals rw [stepped]; rfl
  exact told.trans fun left there _ => script there plain

theorem engage (agenda : machine.agenda = .engage number loan.run loan.work loan.turn :: below)
    (plain : loan.IsPlain) :
    machine.Proceeds number
      (.acquire number (.finish loan.run (some loan.left) (loan.answer machine.pipelines)) ::
        below) := by
  cases runs : loan.turn.runs with
  | false =>
      have left : loan.left = loan.work := if_neg (by simp [runs])
      have answer : loan.answer machine.pipelines = loan.turn.status.getD .done := by
        simp [Loan.answer, runs]
      have stepped := step_cons agenda
      simp only [carryOut, Machine.engage, runs, Bool.false_eq_true, if_false] at stepped
      rw [left, answer]
      have skipped : machine.Proceeds number
          (.script (some loan.run.task) loan.turn.after ::
            .acquire number (.finish loan.run (some loan.work) (loan.turn.status.getD .done)) ::
              below) := by
        apply step (.of_agenda agenda rfl rfl rfl)
        all_goals rw [stepped]; rfl
      exact skipped.trans fun left there _ => script there plain.after
  | true =>
      have left : loan.left = loan.work.advance := if_pos runs
      obtain ⟨current, verdict, told, begun⟩ := begins agenda runs
      rw [left, ← told]
      refine begun.trans fun working there same => ?_
      refine (script there (plain.work runs)).trans fun ended there kept => ?_
      rw [← same, ← kept]
      exact returned there plain.after

/-- What is lent comes back. -/
theorem execute
    (agenda : machine.agenda = .execute number loan.run (some loan.work) :: below)
    (found : machine.scheduler? number = some scheduler)
    (turn : scheduler.executor.turn = loan.turn) (plain : loan.IsPlain) :
    machine.Proceeds number
      (.acquire number (.finish loan.run (some loan.left) (loan.answer machine.pipelines)) ::
        below) := by
  have stepped := step_execute agenda found turn
  have handed : machine.Proceeds number (.script (some loan.run.task) loan.turn.before ::
      .engage number loan.run loan.work loan.turn :: below) := by
    apply step (.of_agenda agenda rfl rfl rfl)
    all_goals rw [stepped]
  refine handed.trans fun lent there same => ?_
  refine (script there plain.before).trans fun engaged there kept => ?_
  rw [← same, ← kept]
  exact engage there plain

end Proceeds

end Machine

end EdfKernel
