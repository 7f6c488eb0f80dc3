import EdfKernel.Proofs.TableInvariant

/-!
Once a task was cancelled or completed, a pass does not admit it again on its
own, except in one place: a pass that has put the work back and is about to
honour its wish for another run does so without looking whether somebody
withdrew the task in between. The laws below say that this is the only way.
-/

namespace EdfKernel

namespace Activity

def reinsert? : Activity → Option (Dispatch × UInt64 × UInt64)
  | acquire _ (.reinsert run startUs deadlineUs) | enter _ (.reinsert run startUs deadlineUs) =>
      some (run, startUs, deadlineUs)
  | _ => none

theorem reinsert?_enter (number : Nat) (part : Section) :
    (enter number part).reinsert? = (acquire number part).reinsert? := by
  cases part <;> rfl

end Activity

/-- A pass reinserts only a task that was running when its work came back. -/
theorem Worked.reinsert_running {number : Nat} {clock : Ticks} {table after : TaskTable Work}
    {part : Section} {next : List Activity} (worked : Worked number clock table part after next)
    {link : Activity} (member : link ∈ next) {run : Dispatch} {startUs deadlineUs : UInt64}
    (again : link.reinsert? = some (run, startUs, deadlineUs)) :
    (∃ work status, part = .finish run work status) ∧
      ∃ record, table.find? run.task = some record ∧ record.state = .running := by
  cases worked with
  | asked run' work startUs' deadlineUs' running =>
      cases List.mem_singleton.mp member
      cases again
      refine ⟨⟨work, _, rfl⟩, ?_⟩
      cases found : table.find? run.task with
      | none =>
          rw [TaskTable.finish_of_none work found] at running
          cases running
      | some record =>
          by_cases still : record.state = .running
          · exact ⟨record, rfl, still⟩
          · rw [TaskTable.finish_of_changed work record found still] at running
            cases running
  | idle | due | abandoned | claimed | finished | refused | readmitted =>
      cases List.mem_singleton.mp member
      cases again
  | call | looked => cases member

/-- What a pass is about to admit again it already was, or it has just put the
work of a running task back. -/
theorem Move.reinserts {number : Nat} {clock : Ticks} {pipelines : Nat} {done : Option Activity}
    {before after : Focus} (move : Move number clock pipelines done before after)
    {link : Activity} (member : link ∈ after.duties) {run : Dispatch}
    {startUs deadlineUs : UInt64} (again : link.reinsert? = some (run, startUs, deadlineUs)) :
    (∃ other ∈ before.duties, other.reinsert? = some (run, startUs, deadlineUs)) ∨
      (∃ work status, done = some (.enter number (.finish run work status))) ∧
        ∃ record, before.record? run.task = some record ∧ record.state = .running := by
  have blank {activity : Activity} {duties : List Activity} (empty : activity.reinsert? = none)
      (member : link ∈ activity :: duties) : link ∈ duties := by
    rcases List.mem_cons.mp member with rfl | later
    · rw [empty] at again
      cases again
    · exact later
  cases move with
  | rest | setUp | drop | coalesce => exact .inl ⟨link, member, again⟩
  | begin => exact .inl ⟨link, blank rfl member, again⟩
  | ask scheduler duties part called =>
      have empty : (Activity.acquire number part).reinsert? = none := by
        cases part <;> first | rfl | cases called
      exact .inl ⟨link, blank empty member, again⟩
  | acquire scheduler duties part =>
      rcases List.mem_cons.mp member with rfl | later
      · rw [Activity.reinsert?_enter] at again
        exact .inl ⟨_, List.mem_cons_self, again⟩
      · exact .inl ⟨link, List.mem_cons_of_mem _ later, again⟩
  | enter scheduler duties part free =>
      obtain ⟨_, worked⟩ := part.effect_done scheduler number clock pipelines
      rcases List.mem_append.mp (blank rfl member) with made | later
      · obtain ⟨⟨work, status, finishes⟩, running⟩ := worked.reinsert_running made again
        exact .inr ⟨⟨work, status, by rw [finishes]⟩, running⟩
      · exact .inl ⟨link, List.mem_cons_of_mem _ later, again⟩
  | leave | conclude | vanish => exact .inl ⟨link, List.mem_cons_of_mem _ member, again⟩
  | hand | skip | run | spare | back | lookUp =>
      exact .inl ⟨link, List.mem_cons_of_mem _ (blank rfl member), again⟩

/-- The task is not in the queue, and whatever is about to put it there is known. -/
structure Focus.Withdrawn (focus : Focus) (task : TaskHandle)
    (known : Dispatch → UInt64 → UInt64 → Prop) : Prop where
  out : ∀ record, focus.record? task = some record → record.state.isAdmitted = false
  asked : ∀ link ∈ focus.duties, ∀ run startUs deadlineUs,
    link.reinsert? = some (run, startUs, deadlineUs) → run.task = task →
    known run startUs deadlineUs

/-- A move that does not enter a caller's insertion leaves the task withdrawn,
unless it is a reinsertion that was known of. -/
theorem Move.withdrawn {number : Nat} {clock : Ticks} {pipelines : Nat} {done : Option Activity}
    {before after : Focus} (move : Move number clock pipelines done before after)
    (sound : ∀ scheduler, before.scheduler = some scheduler → scheduler.TableSound)
    {task : TaskHandle} {known : Dispatch → UInt64 → UInt64 → Prop}
    (withdrawn : before.Withdrawn task known)
    (spared : ∀ startUs deadlineUs, done ≠ some (.enter number (.insert task startUs deadlineUs))) :
    after.Withdrawn task known ∨
      (∃ record, after.record? task = some record ∧ record.state.isAdmitted = true) ∧
        ∃ run startUs deadlineUs, done = some (.enter number (.reinsert run startUs deadlineUs)) ∧
          run.task = task ∧ known run startUs deadlineUs := by
  have asked : ∀ link ∈ after.duties, ∀ run startUs deadlineUs,
      link.reinsert? = some (run, startUs, deadlineUs) → run.task = task →
      known run startUs deadlineUs := by
    intro link member run startUs deadlineUs again same
    rcases move.reinserts member again with ⟨other, there, before⟩ | ⟨_, record, found, running⟩
    · exact withdrawn.asked other there run startUs deadlineUs before same
    · have out := withdrawn.out record (same ▸ found)
      rw [running] at out
      cases out
  -- Either the task is still out, or the section that has just run admitted it.
  by_cases admitted : ∃ record, after.record? task = some record ∧ record.state.isAdmitted = true
  · right
    refine ⟨admitted, ?_⟩
    obtain ⟨record, found, state⟩ := admitted
    obtain ⟨scheduler, holds, here⟩ := Option.bind_eq_some_iff.mp found
    have out (earlier : Scheduler) (held : before.scheduler = some earlier)
        (record : TaskRecord Work) (there : earlier.table.find? task = some record) :
        record.state.isAdmitted = false :=
      withdrawn.out record (by rw [Focus.record?, held]; exact there)
    rcases move.table_cases scheduler holds with
      ⟨_, config, executor, rfl⟩ | ⟨earlier, held, _, same | ⟨part, next, enters, worked⟩⟩
    · cases here
    · rw [out earlier held record (same ▸ here)] at state
      cases state
    · rcases worked.admitted (sound earlier held).consistent here state with
        ⟨record', there, state'⟩ | ⟨startUs, deadlineUs, rfl⟩ |
          ⟨run, startUs, deadlineUs, rfl, same⟩
      · rw [out earlier held record' there] at state'
        cases state'
      · exact absurd enters (spared startUs deadlineUs)
      · refine ⟨run, startUs, deadlineUs, enters, same, ?_⟩
        subst enters
        cases move with
        | enter => exact withdrawn.asked _ List.mem_cons_self run startUs deadlineUs rfl same
        | vanish => cases holds
  · left
    refine ⟨fun record found => ?_, asked⟩
    cases state : record.state.isAdmitted with
    | false => rfl
    | true => exact absurd ⟨record, found, state⟩ admitted

namespace Machine

def IsAdmitted (machine : Machine) (number : Nat) (task : TaskHandle) : Prop :=
  ∃ record, (machine.focus number).record? task = some record ∧ record.state.isAdmitted = true

inductive Spares (number : Nat) (task : TaskHandle) (first : Machine) : Machine → Prop where
  | refl : Spares number task first first
  | start {machine : Machine} (call : Call) (interposed : Nat → Option Script) :
      Spares number task first machine → machine.agenda = [] →
      Spares number task first (machine.start call interposed)
  | step {machine : Machine} : Spares number task first machine →
      (∀ startUs deadlineUs rest,
        machine.agenda ≠ .enter number (.insert task startUs deadlineUs) :: rest) →
      Spares number task first machine.step

theorem Spares.reachable {number : Nat} {task : TaskHandle} {first later : Machine}
    (spares : Spares number task first later) (reachable : Reachable first) :
    Reachable later := by
  induction spares with
  | refl => exact reachable
  | start call interposed _ rest ih => exact .start call interposed ih rest
  | step _ _ ih => exact .step ih

/-- The step of a pass that undid a withdrawal. -/
def Undone (number : Nat) (task : TaskHandle) (first later : Machine)
    (known : Dispatch → UInt64 → UInt64 → Prop) : Prop :=
  ∃ middle run startUs deadlineUs rest, Spares number task first middle ∧
    Spares number task middle.step later ∧
    middle.agenda = .enter number (.reinsert run startUs deadlineUs) :: rest ∧
    run.task = task ∧ known run startUs deadlineUs ∧
    ¬ middle.IsAdmitted number task ∧ middle.step.IsAdmitted number task

theorem Spares.withdrawn {number : Nat} {task : TaskHandle} {first later : Machine}
    (spares : Spares number task first later) (reachable : Reachable first)
    {known : Dispatch → UInt64 → UInt64 → Prop}
    (withdrawn : (first.focus number).Withdrawn task known) :
    (later.focus number).Withdrawn task known ∨ Undone number task first later known := by
  induction spares with
  | refl => exact .inl withdrawn
  | @start machine call interposed before rest ih =>
      rw [focus_start machine call interposed number rest]
      rcases ih with still | ⟨middle, run, startUs, deadlineUs, ahead, here, there, undone⟩
      · exact .inl still
      · exact .inr ⟨middle, run, startUs, deadlineUs, ahead, here,
          there.start call interposed rest, undone⟩
  | @step machine before spared ih =>
      rcases ih with still | ⟨middle, run, startUs, deadlineUs, ahead, here, there, undone⟩
      -- Up to here the task stayed out, so this is the first step that could undo it.
      · obtain ⟨done, comes, moves⟩ := step_moves machine number
        have sound (scheduler : Scheduler)
            (held : (machine.focus number).scheduler = some scheduler) : scheduler.TableSound :=
          (before.reachable reachable).tableSound held
        have apart (startUs deadlineUs : UInt64) :
            done ≠ some (.enter number (.insert task startUs deadlineUs)) := by
          intro enters
          obtain ⟨rest, agenda⟩ := comes _ enters
          exact spared startUs deadlineUs rest agenda
        rcases moves.withdrawn sound still apart with
          after | ⟨admitted, run, startUs, deadlineUs, enters, same, asked⟩
        · exact .inl after
        · obtain ⟨rest, agenda⟩ := comes _ enters
          have out : ¬ machine.IsAdmitted number task := by
            rintro ⟨record, found, state⟩
            rw [still.out record found] at state
            cases state
          exact .inr ⟨machine, run, startUs, deadlineUs, rest, before, .refl, agenda, same, asked,
            out, admitted⟩
      · exact .inr ⟨middle, run, startUs, deadlineUs, ahead, here, there.step spared, undone⟩

variable {machine : Machine} {number : Nat} {scheduler : Scheduler} {task : TaskHandle}

theorem step_withdraw {part : Section} {rest : List Activity}
    (agenda : machine.agenda = .enter number part :: rest)
    (withdraws : part = .cancel task ∨ part = .complete task)
    (found : machine.scheduler? number = some scheduler) (free : scheduler.locked = false)
    (accepted : machine.step.reply = .ok .done) (record : TaskRecord Work)
    (here : (machine.step.focus number).record? task = some record) :
    record.state.isAdmitted = false := by
  obtain ⟨stepped, replied⟩ := step_enter machine number part rest scheduler agenda found free
  rw [accepted] at replied
  rw [Focus.record?, focus, stepped] at here
  change (part.effect scheduler number machine.clock machine.pipelines.length).scheduler.table.find?
    task = some record at here
  rcases withdraws with rfl | rfl
  · simp only [Section.effect] at here replied
    cases done : scheduler.table.cancel task with
    | error error =>
        rw [done] at replied
        cases replied
    | ok after =>
        rw [done] at here
        obtain ⟨earlier, there, _, rfl⟩ := TaskTable.idle?_map_eq_ok done
        change TaskTable.find? (TaskTable.dequeue _ task) task = some record at here
        rw [TaskTable.find?_dequeue, TaskTable.find?_update, if_pos rfl, there] at here
        cases here
        rfl
  · simp only [Section.effect] at here replied
    cases done : scheduler.table.complete task with
    | error error =>
        rw [done] at replied
        cases replied
    | ok after =>
        rw [done] at here
        change after.find? task = some record at here
        unfold TaskTable.complete at done
        cases there : scheduler.table.find? task with
        | none =>
            rw [there] at done
            cases done
        | some earlier =>
            rw [there] at done
            cases done
            rw [TaskTable.find?_dequeue, TaskTable.find?_update, if_pos rfl, there] at here
            cases here
            rfl

/-- What undoes an accepted withdrawal, and what does not. In a run in which no
caller inserts the task, only a reinsertion that the pass had before it when the
withdrawal was accepted can admit the task; it does so whenever the window is valid. -/
theorem withdrawal_undone_iff_pending (reachable : Reachable machine) {part : Section}
    {rest : List Activity} (agenda : machine.agenda = .enter number part :: rest)
    (withdraws : part = .cancel task ∨ part = .complete task)
    (found : machine.scheduler? number = some scheduler) (free : scheduler.locked = false)
    (accepted : machine.step.reply = .ok .done) :
    ¬ machine.step.IsAdmitted number task ∧
      (∀ later, Spares number task machine.step later → later.IsAdmitted number task →
        Undone number task machine.step later fun run startUs deadlineUs =>
          ∃ link ∈ machine.duties number, link.reinsert? = some (run, startUs, deadlineUs)) ∧
      ∀ middle run startUs deadlineUs ahead holder window table,
        Spares number task machine.step middle →
        middle.agenda = .enter number (.reinsert run startUs deadlineUs) :: ahead →
        run.task = task → middle.scheduler? number = some holder → holder.locked = false →
        holder.table.insert holder.config middle.clock task startUs deadlineUs =
          .ok (window, table) →
        middle.step.IsAdmitted number task := by
  have out (record : TaskRecord Work)
      (here : (machine.step.focus number).record? task = some record) :
      record.state.isAdmitted = false :=
    step_withdraw agenda withdraws found free accepted record here
  have quiet : ¬ machine.step.IsAdmitted number task := by
    rintro ⟨record, here, admitted⟩
    rw [out record here] at admitted
    cases admitted
  refine ⟨quiet, ?_, ?_⟩
  · intro later spares ⟨record, here, admitted⟩
    obtain ⟨done, comes, moves⟩ := step_moves machine number
    have withdrawn : (machine.step.focus number).Withdrawn task fun run startUs deadlineUs =>
        ∃ link ∈ machine.duties number, link.reinsert? = some (run, startUs, deadlineUs) := by
      refine ⟨out, ?_⟩
      intro link member run startUs deadlineUs again same
      rcases moves.reinserts member again with pending | ⟨⟨work, status, finishes⟩, _⟩
      · exact pending
      · obtain ⟨ahead, head⟩ := comes _ finishes
        rw [agenda] at head
        rcases withdraws with rfl | rfl
        · cases head
        · cases head
    rcases spares.withdrawn reachable.step withdrawn with still | undone
    · rw [still.out record here] at admitted
      cases admitted
    · exact undone
  · intro middle run startUs deadlineUs ahead holder window table _ agenda same found free accepts
    obtain ⟨stepped, _⟩ := step_enter middle number _ ahead holder agenda found free
    obtain ⟨record, here, queued⟩ := TaskTable.insert_queued accepts
    refine ⟨record, ?_, by rw [queued]; rfl⟩
    rw [Focus.record?, focus, stepped]
    simp only [Section.effect, Effect.reinsert, same, accepts]
    exact here

/-- A task that is queued, and whose work will ask for another run. -/
def recurring : Machine :=
  let alone : Nat → Option Script := fun _ => none
  let turn : Turn Call := ⟨[], .reschedule 1000 1000⟩
  let set := (boot 0).exec 1 (.init ⟨1000000, 0, 7, 2⟩ .inline) alone
  let made := set.exec 4 (.scheduler 0 (.create [turn] .default)) alone
  made.exec 4 (.scheduler 0 (.insert (some ⟨0, 0⟩) 0 1000)) alone

theorem recurring_reachable : Reachable recurring := by
  unfold recurring exec
  refine .run (.start _ _ (.run (.start _ _ ?_ rfl) 4) rfl) 4
  exact .run (.start _ _ (.boot 0) rfl) 1

/-- The task is about to be cancelled with no pass under way. -/
def revoked : Machine :=
  (recurring.start (.scheduler 0 (.cancel (some ⟨0, 0⟩))) fun _ => none).run 2

/-- With nothing pending, the cancelled task stays out until a caller inserts it. -/
theorem revoked_stays_out :
    revoked.step.reply = .ok .done ∧
      ∀ later, Spares 0 ⟨0, 0⟩ revoked.step later → ¬ later.IsAdmitted 0 ⟨0, 0⟩ := by
  have reachable : Reachable revoked := .run (.start _ _ recurring_reachable rfl) 2
  have agenda : revoked.agenda = [.enter 0 (.cancel ⟨0, 0⟩)] := rfl
  have found : revoked.scheduler? 0 = some _ := rfl
  obtain ⟨_, undone, _⟩ :=
    withdrawal_undone_iff_pending reachable agenda (.inl rfl) found rfl rfl
  refine ⟨rfl, fun later spares admitted => ?_⟩
  obtain ⟨_, _, _, _, _, _, _, _, _, ⟨link, member, pending⟩, _⟩ := undone later spares admitted
  have alone : revoked.duties 0 = [.enter 0 (.cancel ⟨0, 0⟩)] := rfl
  rw [alone, List.mem_singleton] at member
  subst member
  cases pending

/-- The task is about to be cancelled between the section of a pass that put its
work back and the one that inserts it again. -/
def overtaken : Machine :=
  (recurring.start (.scheduler 0 .runPass)
    (interposeAt 4 [.scheduler 0 (.cancel (some ⟨0, 0⟩))])).run 20

def inserts (machine : Machine) (number : Nat) (task : TaskHandle) : Bool :=
  match machine.agenda with
  | .enter other (.insert named _ _) :: _ => other = number && named = task
  | _ => false

theorem Spares.run {first : Machine} (fuel : Nat)
    (spared : ∀ steps < fuel, (first.run steps).inserts number task = false) :
    Spares number task first (first.run fuel) := by
  induction fuel with
  | zero => exact .refl
  | succ fuel ih =>
      have before := ih fun steps less => spared steps (Nat.lt_succ_of_lt less)
      have last := spared fuel (Nat.lt_succ_self fuel)
      rw [run_add, run_succ]
      apply before.step
      intro startUs deadlineUs rest agenda
      simp [inserts, agenda] at last

/-- The cancellation is accepted, and the pass admits the task all the same. -/
theorem overtaken_undone :
    ¬ ∀ (machine later : Machine) (task : TaskHandle) (rest : List Activity),
      Reachable machine → machine.agenda = .enter 0 (.cancel task) :: rest →
      machine.step.reply = .ok .done → Spares 0 task machine.step later →
      ¬ later.IsAdmitted 0 task := by
  intro law
  have reachable : Reachable overtaken := .run (.start _ _ recurring_reachable rfl) 20
  refine law overtaken (overtaken.step.run 6) ⟨0, 0⟩ _ reachable rfl rfl (.run 6 ?_) ?_
  · decide
  · exact ⟨_, rfl, rfl⟩

end Machine

end EdfKernel
