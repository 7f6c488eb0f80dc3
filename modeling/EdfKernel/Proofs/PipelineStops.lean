import EdfKernel.Proofs.CopyHomes
import EdfKernel.Proofs.Withdrawal

/-!
A pipeline that was paused or stopped stays so, as far as it depends on what comes after.
What can bring it back without a new start was under way before the command returned: an
insertion or a reinsertion of its task that did not look at the pipeline again, a dispatch
whose work had not begun, or a start from inside the command itself.
-/

namespace EdfKernel

namespace Activity

/-- The task that the executor has been handed, or is about to be, and whose work has not
begun. -/
def starting? : Activity → Option TaskHandle
  | execute _ run _ | engage _ run _ _ => some run.task
  | _ => none

end Activity

theorem Move.unhanded {number : Nat} {clock : Ticks} {pipelines : Nat} {done : Option Activity}
    {before after : Focus} (move : Move number clock pipelines done before after)
    {task : TaskHandle}
    (out : ∀ record, before.record? task = some record → record.state.isAdmitted = false)
    (unhanded : ∀ duty ∈ before.duties, duty.starting? ≠ some task) :
    ∀ duty ∈ after.duties, duty.starting? ≠ some task := by
  intro duty member
  have old {activity : Activity} {duties : List Activity}
      (same : activity.starting? ≠ some task)
      (behind : ∀ other ∈ duties, other.starting? ≠ some task)
      (member : duty ∈ activity :: duties) : duty.starting? ≠ some task := by
    rcases List.mem_cons.mp member with rfl | later
    · exact same
    · exact behind duty later
  have behind {activity : Activity} {duties : List Activity}
      (all : ∀ other ∈ activity :: duties, other.starting? ≠ some task) :
      ∀ other ∈ duties, other.starting? ≠ some task :=
    fun other there => all other (List.mem_cons_of_mem _ there)
  -- Tasks are handed over by the second section of a pass alone, which takes a queued one.
  cases move with
  | rest | setUp | drop | coalesce => exact unhanded duty member
  | begin | ask => exact old (by simp [Activity.starting?]) unhanded member
  | acquire | back | spare | skip | run | lookUp =>
      exact old (by simp [Activity.starting?]) (behind unhanded) member
  | leave | conclude | vanish => exact behind unhanded duty member
  | hand scheduler duties run work =>
      have same : (Activity.engage number run work scheduler.executor.turn).starting? ≠
          some task := unhanded (.execute number run (some work)) List.mem_cons_self
      exact old same (behind unhanded) member
  | enter scheduler duties part free =>
      obtain ⟨_, worked⟩ := part.effect_done scheduler number clock pipelines
      rcases List.mem_cons.mp member with rfl | more
      · nofun
      rcases List.mem_append.mp more with made | later
      · generalize (part.effect scheduler number clock pipelines).next.filter
          (fun activity => activity.isDuty number) = next at worked made
        generalize (part.effect scheduler number clock pipelines).scheduler.table = changed
          at worked
        cases worked with
        | claimed wakes current chosen work after taken =>
            cases List.mem_singleton.mp made
            rintro same
            cases same
            obtain ⟨record, found, queued, _⟩ := TaskTable.claim_cases taken
            have withdrawn := out record found
            rw [queued] at withdrawn
            cases withdrawn
        | call | looked => cases made
        | _ =>
            cases List.mem_singleton.mp made
            nofun
      · exact behind unhanded duty later

theorem Section.complete_out (scheduler : Scheduler) (number : Nat) (clock : Ticks)
    (pipelines : Nat) (task : TaskHandle) (record : TaskRecord Work)
    (found : ((Section.complete task).effect scheduler number clock pipelines).scheduler.table.find?
      task = some record) : record.state.isAdmitted = false := by
  simp only [effect] at found
  cases here : scheduler.table.find? task with
  | none =>
      obtain ⟨statistics, same⟩ := refuse_scheduler scheduler (.unknownTask task)
      simp only [TaskTable.complete, here, Effect.change] at found
      change (scheduler.refuse (.unknownTask task)).table.find? task = some record at found
      rw [same, here] at found
      cases found
  | some earlier =>
      simp only [TaskTable.complete, here, Effect.change] at found
      change TaskTable.find? (TaskTable.dequeue _ task) task = some record at found
      rw [TaskTable.find?_dequeue, TaskTable.find?_update, if_pos rfl, here] at found
      cases found
      rfl

/-- An inactive pipeline asks for an insertion only by being started. -/
theorem Pipeline.starts_of_insert {pipeline : Pipeline} (idle : pipeline.active = false)
    {number : Nat} {call : PipelineCall} {task : TaskHandle} {startUs deadlineUs : UInt64}
    (wants : pipeline.part? number call = some (.insert task startUs deadlineUs))
    (current : Option TaskHandle) :
    (Activity.call current (.pipeline number call)).starts? = some number := by
  cases call with
  | command command =>
      cases command with
      | start | release => rfl
      | _ => cases wants
  | scheduleCopy other =>
      change (if pipeline.active then _ else _) = _ at wants
      rw [idle] at wants
      cases wants
  | free =>
      change (if pipeline.active then _ else _) = _ at wants
      rw [idle] at wants
      cases wants
  | _ => cases wants

namespace Section

def touches? : Section → Option TaskHandle
  | configure task _ | retire task | insert task _ _ | cancel task | complete task => some task
  | _ => none

def inserts? : Section → Option TaskHandle
  | insert task _ _ => some task
  | _ => none

end Section

namespace Machine

variable {machine called : Machine} {p number : Nat} {task : TaskHandle} {scheduler : Scheduler}

/-- The section that an activity asks for unless it is a call of pipeline `p`. -/
def asksBesides? (machine : Machine) (p : Nat) : Activity → Option (Nat × Section)
  | .call current (.pipeline other call) =>
      if other = p then none else machine.asks? (.call current (.pipeline other call))
  | activity => machine.asks? activity

/-- The next activity is a call, not of pipeline `p`, that asks for a change of its task. -/
def isTouchedNext (p number : Nat) (task : TaskHandle) (machine : Machine) : Bool :=
  machine.agenda.head?.any fun activity =>
    (machine.asksBesides? p activity).any fun ask =>
      ask.1 = number && ask.2.touches? = some task

/-- The next activity starts pipeline `p`, or asks for its task to be inserted without
being a call of the pipeline. -/
def isResumedNext (p number : Nat) (task : TaskHandle) (machine : Machine) : Bool :=
  machine.agenda.head?.any fun activity =>
    activity.starts? = some p ||
      (machine.asksBesides? p activity).any fun ask =>
        ask.1 = number && ask.2.inserts? = some task

/-- What is still under way for a pipeline and its task. -/
inductive Lingers (machine : Machine) (p number : Nat) (task : TaskHandle) : Prop where
  /-- It has been started again. -/
  | started (pipeline : Pipeline) (found : machine.pipelines[p]? = some pipeline)
      (active : pipeline.active = true) : Lingers machine p number task
  /-- Somebody found it active, and is about to insert its task. -/
  | insertion (duty : Activity) (member : duty ∈ machine.agenda) (startUs deadlineUs : UInt64)
      (asked : duty.asked? = some (number, .insert task startUs deadlineUs)) :
      Lingers machine p number task
  /-- The pass has put the copy back, and is about to insert the task again. -/
  | reinsertion (link : Activity) (member : link ∈ machine.duties number) (run : Dispatch)
      (startUs deadlineUs : UInt64) (again : link.reinsert? = some (run, startUs, deadlineUs))
      (same : run.task = task) : Lingers machine p number task
  /-- The pass has taken the task, and the copy has not begun. -/
  | dispatch (duty : Activity) (member : duty ∈ machine.duties number)
      (handed : duty.starting? = some task) : Lingers machine p number task

/-- A run, over any number of calls, that never takes an unwanted step. -/
inductive Avoids (unwanted : Machine → Bool) (first : Machine) : Machine → Prop where
  | refl : Avoids unwanted first first
  | start {machine : Machine} (call : Call) (interposed : Nat → Option Script) :
      Avoids unwanted first machine → machine.agenda = [] →
      Avoids unwanted first (machine.start call interposed)
  | step {machine : Machine} : Avoids unwanted first machine → unwanted machine = false →
      Avoids unwanted first machine.step

theorem Avoids.reachable {unwanted : Machine → Bool} {first later : Machine}
    (avoids : Avoids unwanted first later) (reachable : Reachable first) : Reachable later := by
  induction avoids with
  | refl => exact reachable
  | start call interposed _ rest ih => exact .start call interposed ih rest
  | step _ _ ih => exact .step ih

theorem Avoids.run {unwanted : Machine → Bool} {first machine : Machine}
    (avoids : Avoids unwanted first machine) (fuel : Nat)
    (quiet : ∀ steps < fuel, unwanted (machine.run steps) = false) :
    Avoids unwanted first (machine.run fuel) := by
  induction fuel with
  | zero => exact avoids
  | succ fuel ih =>
      have before := ih fun steps less => quiet steps (Nat.lt_succ_of_lt less)
      rw [run_add, run_succ]
      exact before.step (quiet fuel (Nat.lt_succ_self fuel))

/-- The pipeline is inactive, its task is out, and nothing is under way for it. -/
structure Stopped (machine : Machine) (p number : Nat) (task : TaskHandle) : Prop where
  inactive : ∃ pipeline, machine.pipelines[p]? = some pipeline ∧ pipeline.active = false ∧
    pipeline.scheduler = number ∧ pipeline.task = task
  unasked : ∀ duty ∈ machine.agenda, ∀ startUs deadlineUs,
    duty.asked? ≠ some (number, .insert task startUs deadlineUs)
  withdrawn : (machine.focus number).Withdrawn task fun _ _ _ => False
  unhanded : ∀ duty ∈ machine.duties number, duty.starting? ≠ some task

namespace Stopped

theorem asks_nothing (stopped : machine.Stopped p number task) {activity : Activity}
    {below : List Activity} (agenda : machine.agenda = activity :: below)
    (kept : isResumedNext p number task machine = false) {startUs deadlineUs : UInt64} :
    machine.asks? activity ≠ some (number, .insert task startUs deadlineUs) := by
  intro asks
  obtain ⟨pipeline, found, idle, _⟩ := stopped.inactive
  simp only [isResumedNext, agenda, List.head?_cons, Option.any_some, Bool.or_eq_false_iff,
    decide_eq_false_iff_not] at kept
  obtain ⟨unstarted, beside⟩ := kept
  cases activity with
  | call current call =>
      cases call with
      | pipeline other call =>
          by_cases own : other = p
          · subst own
            simp only [asks?, found, Option.bind_some, Option.map_eq_some_iff, Prod.mk.injEq]
              at asks
            obtain ⟨part, wants, _, rfl⟩ := asks
            exact unstarted (Pipeline.starts_of_insert idle wants current)
          · simp [asksBesides?, asks, own, Section.inserts?] at beside
      | _ => simp [asksBesides?, asks, Section.inserts?] at beside
  | _ => cases asks

theorem step (stopped : machine.Stopped p number task) (reachable : Reachable machine)
    (kept : isResumedNext p number task machine = false) :
    machine.step.Stopped p number task where
  inactive := by
    obtain ⟨pipeline, found, idle, own, named⟩ := stopped.inactive
    obtain ⟨later, there, kept'⟩ := step_piped found
    refine ⟨later, there, ?_, kept'.scheduler.trans own, kept'.task.trans named⟩
    cases active : later.active with
    | false => rfl
    | true =>
        rcases kept'.active active with before | ⟨activity, below, agenda, starts⟩
        · exact before.symm.trans idle
        · simp [isResumedNext, agenda, starts] at kept
  unasked duty member startUs deadlineUs asked := by
    rcases step_asked member asked with ⟨other, there, before⟩ | ⟨activity, below, agenda, asks⟩
    · exact stopped.unasked other there startUs deadlineUs before
    · exact stopped.asks_nothing agenda kept asks
  withdrawn := by
    obtain ⟨done, comes, move⟩ := step_moves machine number
    have sound (held : Scheduler) (there : (machine.focus number).scheduler = some held) :
        held.TableSound := reachable.tableSound there
    have spared (startUs deadlineUs : UInt64) :
        done ≠ some (.enter number (.insert task startUs deadlineUs)) := by
      intro enters
      obtain ⟨rest, agenda⟩ := comes _ enters
      exact stopped.unasked _ (agenda ▸ List.mem_cons_self) startUs deadlineUs rfl
    rcases move.withdrawn sound stopped.withdrawn spared with still | ⟨_, _, _, _, _, _, never⟩
    · exact still
    · exact never.elim
  unhanded := by
    obtain ⟨done, _, move⟩ := step_moves machine number
    exact move.unhanded stopped.withdrawn.out stopped.unhanded

theorem unresumed {first later : Machine} (stopped : first.Stopped p number task)
    (reachable : Reachable first) (unresumed : Avoids (isResumedNext p number task) first later) :
    later.Stopped p number task := by
  induction unresumed with
  | refl => exact stopped
  | @start machine call interposed before rest ih =>
      have same := focus_start machine call interposed number rest
      constructor
      · exact ih.inactive
      · intro duty member startUs deadlineUs asked
        cases List.mem_singleton.mp member
        cases asked
      · rw [same]
        exact ih.withdrawn
      · rw [show (machine.start call interposed).duties number = machine.duties number from
          congrArg Focus.duties same]
        exact ih.unhanded
  | step before kept ih => exact ih.step (before.reachable reachable) kept

theorem not_isAdmitted (stopped : machine.Stopped p number task) :
    ¬ machine.IsAdmitted number task := by
  rintro ⟨record, found, admitted⟩
  rw [stopped.withdrawn.out record found] at admitted
  cases admitted

theorem startsCopy_eq_false (stopped : machine.Stopped p number task)
    (reachable : Reachable machine) : machine.startsCopy p = false := by
  by_contra starts
  rw [Bool.not_eq_false, startsCopy] at starts
  cases agenda : machine.agenda with
  | nil => simp [agenda] at starts
  | cons activity rest =>
      rw [agenda, List.head?_cons, Option.any_some] at starts
      obtain ⟨other, run, routine, turn, rfl⟩ := Activity.beginsCopy_cases starts
      have member : Activity.engage other run (.copy p routine) turn ∈ machine.duties other := by
        rw [duties_cons agenda rfl]
        exact List.mem_cons_self
      obtain ⟨here, found, own, named⟩ :=
        (reachable.copiesAtHome other).carried _ member run.task p routine rfl
      obtain ⟨held, there, _, home, task'⟩ := stopped.inactive
      cases found.symm.trans there
      cases own.symm.trans home
      exact stopped.unhanded _ member (congrArg some (named.symm.trans task'))

end Stopped

namespace Returns

variable {below : List Activity} {steps : Nat}

theorem completed (returns : machine.Returns below steps)
    (agenda : machine.agenda = .enter number (.complete task) :: below) :
    ¬ (machine.run steps).IsAdmitted number task := by
  have more : below.length < machine.agenda.length := by
    rw [agenda]
    exact Nat.lt_succ_self _
  -- By induction on the steps: while another holds the lock, each leaves the machine as it is.
  induction steps with
  | zero =>
      obtain ⟨fewer, none, _⟩ := returns.step more
      cases none
  | succ steps ih =>
      obtain ⟨_, same, after⟩ := returns.step more
      cases same
      rw [run_succ]
      rintro ⟨record, here, admitted⟩
      obtain ⟨later, holds, found⟩ := Option.bind_eq_some_iff.mp here
      change (machine.step.run steps).scheduler? number = some later at holds
      cases present : machine.scheduler? number with
      | none =>
          have gone := step_enter_gone agenda present
          rw [after.done (by rw [gone])] at holds
          change machine.step.scheduler? number = some later at holds
          rw [gone] at holds
          cases present.symm.trans holds
      | some scheduler =>
          cases held : scheduler.locked with
          | true =>
              rw [step_enter_locked agenda present held] at after here
              exact ih after ⟨record, here, admitted⟩
          | false =>
              have nothing : ((Section.complete task).effect scheduler number machine.clock
                  machine.pipelines.length).next = [] := by
                simp only [Section.effect, Effect.change]
                split <;> rfl
              have entered := step_enter_eq agenda present held rfl
              obtain ⟨stepped, _⟩ := step_enter machine number _ below scheduler agenda present held
              have leaving : machine.step.agenda = .leave number :: below := by
                rw [entered, nothing]
                rfl
              obtain ⟨fewer, rfl, back⟩ := after.step (by
                rw [leaving]
                exact Nat.lt_succ_self _)
              have left := step_leave leaving stepped
              have own := scheduler?_setScheduler_self machine.step number _
                { (Section.complete task).effect scheduler number machine.clock
                  machine.pipelines.length |>.scheduler with locked := false } stepped
              rw [run_succ, back.done (by rw [left])] at holds
              change machine.step.step.scheduler? number = some later at holds
              rw [left] at holds
              cases own.symm.trans holds
              rw [Section.complete_out scheduler number machine.clock machine.pipelines.length
                task record found] at admitted
              cases admitted

end Returns

theorem step_stop {current : Option TaskHandle} {command : PipelineCommand} {below : List Activity}
    {pipeline : Pipeline}
    (agenda : machine.agenda = .call current (.pipeline p (.command command)) :: below)
    (stops : command = .pause ∨ command = .stop)
    (found : machine.pipelines[p]? = some pipeline) :
    machine.step.agenda = .acquire pipeline.scheduler (.complete pipeline.task) :: below := by
  rw [step_cons agenda]
  simp only [carryOut, perform, found, performPipeline, performCommand]
  rcases stops with rfl | rfl <;> rfl

theorem Returns.stops {current : Option TaskHandle} {command : PipelineCommand}
    {rest : List Activity} {pipeline : Pipeline} {steps : Nat} (returns : called.Returns rest steps)
    (agenda : called.agenda = .call current (.pipeline p (.command command)) :: rest)
    (stops : command = .pause ∨ command = .stop)
    (found : called.pipelines[p]? = some pipeline) :
    ¬ (called.run steps).IsAdmitted pipeline.scheduler pipeline.task := by
  have stepped := step_stop agenda stops found
  obtain ⟨fewer, rfl, after⟩ := returns.step (by
    rw [agenda]
    exact Nat.lt_succ_self _)
  obtain ⟨more, rfl, later⟩ := after.step (by
    rw [stepped]
    exact Nat.lt_succ_self _)
  obtain ⟨above, acquired⟩ := step_acquire stepped
  obtain ⟨k, last, rfl, entering, back⟩ := later.reaches acquired
  rw [run_succ, run_succ, run_add]
  exact back.completed entering

theorem Stopped.of_not_lingers (home : machine.IsHome p number task)
    (out : ¬ machine.IsAdmitted number task) (gone : ¬ machine.Lingers p number task) :
    machine.Stopped p number task where
  inactive := by
    obtain ⟨pipeline, found, own, named⟩ := home
    refine ⟨pipeline, found, ?_, own, named⟩
    cases active : pipeline.active with
    | false => rfl
    | true => exact (gone (.started pipeline found active)).elim
  unasked duty member startUs deadlineUs asked :=
    gone (.insertion duty member startUs deadlineUs asked)
  withdrawn := by
    constructor
    · intro record here
      cases state : record.state.isAdmitted with
      | false => rfl
      | true => exact (out ⟨record, here, state⟩).elim
    · exact fun link member run startUs deadlineUs again same =>
        gone (.reinsertion link member run startUs deadlineUs again same)
  unhanded duty member handed := gone (.dispatch duty member handed)

/-- An insertion that its own checks accept admits the task, whatever happened to the
pipeline since it was asked for. -/
theorem step_admits {part : Section} {below : List Activity} {startUs deadlineUs : UInt64}
    {window : Window} {table : TaskTable Work}
    (agenda : machine.agenda = .enter number part :: below)
    (inserts : part = .insert task startUs deadlineUs ∨
      ∃ run, run.task = task ∧ part = .reinsert run startUs deadlineUs)
    (found : machine.scheduler? number = some scheduler) (free : scheduler.locked = false)
    (accepts : scheduler.table.insert scheduler.config machine.clock task startUs deadlineUs =
      .ok (window, table)) : machine.step.IsAdmitted number task := by
  obtain ⟨stepped, _⟩ := step_enter machine number part below scheduler agenda found free
  obtain ⟨record, here, queued⟩ := TaskTable.insert_queued accepts
  refine ⟨record, ?_, by rw [queued]; rfl⟩
  rw [Focus.record?, focus, stepped]
  rcases inserts with rfl | ⟨run, same, rfl⟩
  · simp only [Section.effect, Effect.insert, accepts]
    exact here
  · simp only [Section.effect, Effect.reinsert, same, accepts]
    exact here

/-- What can bring a pipeline back that was paused or stopped. When the command returns, the
task is neither queued nor running; as long as nobody starts the pipeline or inserts its task
besides it, the task comes back and the copy begins only if something lingered at that
return; and an insertion that lingers does admit the task whenever its window is valid. -/
theorem stopped_resumes_only_if_lingering (reachable : Reachable called)
    {current : Option TaskHandle} {command : PipelineCommand} {rest : List Activity}
    {pipeline : Pipeline} {steps : Nat}
    (agenda : called.agenda = .call current (.pipeline p (.command command)) :: rest)
    (stops : command = .pause ∨ command = .stop)
    (found : called.pipelines[p]? = some pipeline) (returns : called.Returns rest steps) :
    ¬ (called.run steps).IsAdmitted pipeline.scheduler pipeline.task ∧
      (∀ later,
        Avoids (isResumedNext p pipeline.scheduler pipeline.task) (called.run steps) later →
        later.IsAdmitted pipeline.scheduler pipeline.task ∨ later.startsCopy p = true →
        (called.run steps).Lingers p pipeline.scheduler pipeline.task) ∧
      ∀ middle part ahead holder startUs deadlineUs window table,
        Avoids (isResumedNext p pipeline.scheduler pipeline.task) (called.run steps) middle →
        middle.agenda = .enter pipeline.scheduler part :: ahead →
        (part = .insert pipeline.task startUs deadlineUs ∨
          ∃ run, run.task = pipeline.task ∧ part = .reinsert run startUs deadlineUs) →
        middle.scheduler? pipeline.scheduler = some holder → holder.locked = false →
        holder.table.insert holder.config middle.clock pipeline.task startUs deadlineUs =
          .ok (window, table) →
        middle.step.IsAdmitted pipeline.scheduler pipeline.task := by
  have out := returns.stops agenda stops found
  refine ⟨out, fun later avoids resumed => ?_, ?_⟩
  · by_contra gone
    have home : (called.run steps).IsHome p pipeline.scheduler pipeline.task :=
      IsHome.run ⟨pipeline, found, rfl, rfl⟩ steps
    -- Were nothing lingering, the pipeline would be stopped, and would stay so.
    have stopped := Stopped.of_not_lingers home out gone
    have still := stopped.unresumed (reachable.run steps) avoids
    rcases resumed with admitted | starts
    · exact still.not_isAdmitted admitted
    · rw [still.startsCopy_eq_false (avoids.reachable (reachable.run steps))] at starts
      cases starts
  · exact fun middle part ahead holder startUs deadlineUs window table _ agenda inserts held free
      accepts => step_admits agenda inserts held free accepts

def playing (timerDriven : Bool) : Machine :=
  let alone : Nat → Option Script := fun _ => none
  let set := (boot 0).exec 1 (.init ⟨1000000, 0, 7, 2⟩ .inline) alone
  let made := set.exec 4 (.scheduler 0 (.createPipeline ⟨1, 1000, 0, 0, 0, timerDriven⟩ [])) alone
  made.exec 4 (.pipeline 0 (.command .start)) alone

/-- Up to then only the pipeline's own operations have touched its task. -/
theorem playing_untouched (timerDriven : Bool) :
    Avoids (isTouchedNext 0 0 ⟨0, 0⟩) (boot 0) (playing timerDriven) := by
  cases timerDriven <;> unfold playing exec
  all_goals
    refine .run (.start _ _ (.run (.start _ _ (.run (.start _ _ .refl rfl) 1 ?_) rfl) 4 ?_)
      rfl) 4 ?_
    all_goals decide

/-- A pipeline whose task is queued is stopped while nothing else goes on. -/
def silenced : Machine := (playing true).start (.pipeline 0 (.command .stop)) fun _ => none

/-- With nothing lingering, it stays stopped until somebody resumes it. -/
theorem silenced_stays_out :
    (silenced.run 4).agenda = [] ∧
      ∀ later, Avoids (isResumedNext 0 0 ⟨0, 0⟩) (silenced.run 4) later →
        ¬ later.IsAdmitted 0 ⟨0, 0⟩ ∧ later.startsCopy 0 = false := by
  have reachable : Reachable silenced :=
    .start _ _ ((playing_untouched true).reachable (.boot 0)) rfl
  have found : silenced.pipelines[0]? = some ⟨0, ⟨0, 0⟩, ⟨1, 1000, 0, 0, 0, true⟩, true, false⟩ :=
    rfl
  have returns : silenced.Returns [] 4 := ⟨rfl, by decide⟩
  obtain ⟨_, resumed, _⟩ :=
    stopped_resumes_only_if_lingering reachable rfl (.inr rfl) found returns
  have agenda : (silenced.run 4).agenda = [] := rfl
  have gone : ¬ (silenced.run 4).Lingers 0 0 ⟨0, 0⟩ := by
    rintro (⟨pipeline, there, active⟩ | ⟨duty, member, _⟩ | ⟨link, member, _⟩ | ⟨duty, member, _⟩)
    · cases there
      cases active
    · cases agenda ▸ member
    · cases member
    · cases member
  refine ⟨agenda, fun later avoids => ?_⟩
  refine ⟨fun admitted => gone (resumed later avoids (.inl admitted)), ?_⟩
  by_contra starts
  exact gone (resumed later avoids (.inr (Bool.not_eq_false _ ▸ starts)))

/-- A copy is being scheduled, and has found its pipeline active, when somebody stops it. -/
def outrun : Machine :=
  ((playing false).start (.pipeline 0 (.scheduleCopy 0))
    (interposeAt 1 [.pipeline 0 (.command .stop)])).run 3

/-- The copy is scheduled all the same. -/
theorem outrun_resumed :
    ¬ ∀ (called later : Machine) (p : Nat) (pipeline : Pipeline) (rest : List Activity)
        (steps : Nat),
      Avoids (isTouchedNext p pipeline.scheduler pipeline.task) (boot 0) called →
      called.agenda = .call none (.pipeline p (.command .stop)) :: rest →
      called.pipelines[p]? = some pipeline → called.Returns rest steps →
      Avoids (fun machine => isTouchedNext p pipeline.scheduler pipeline.task machine ||
        isResumedNext p pipeline.scheduler pipeline.task machine) (called.run steps) later →
      ¬ later.IsAdmitted pipeline.scheduler pipeline.task := by
  intro law
  have untouched : Avoids (isTouchedNext 0 0 ⟨0, 0⟩) (boot 0) outrun :=
    .run (.start _ _ (playing_untouched false) rfl) 3 (by decide)
  have found : outrun.pipelines[0]? = some ⟨0, ⟨0, 0⟩, ⟨1, 1000, 0, 0, 0, false⟩, true, false⟩ :=
    rfl
  have returns : outrun.Returns [.report, .script none [], .enter 0 (.insert ⟨0, 0⟩ 0 1000)] 4 :=
    ⟨rfl, by decide⟩
  refine law outrun ((outrun.run 4).run 3) 0 _ _ 4 untouched rfl found returns ?_ ⟨_, rfl, rfl⟩
  exact .run .refl 3 (by decide)

end Machine

end EdfKernel
