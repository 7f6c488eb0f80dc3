import EdfKernel.Proofs.Choices
import EdfKernel.Proofs.Performances
import EdfKernel.Proofs.Revisions

/-!
A queue in which every task is due and its work is done after one run: what a pass finds in
it, takes out of it and leaves. Run down to the end, one task a pass, its tasks come in the
order of their effective deadlines and, where these are the same, of the queue.
-/

namespace EdfKernel

theorem Work.Finishes.nextRun {work : Work} {pipelines : List Pipeline}
    (finishes : work.Finishes pipelines) (task : TaskHandle) :
    ∃ event, work.nextRun? pipelines task = some event := by
  cases work with
  | task routine => exact ⟨_, rfl⟩
  | copy p routine =>
      obtain ⟨pipeline, found, _⟩ := Option.map_eq_some_iff.mp finishes.done
      exact ⟨_, congrArg (Option.map _) found⟩

namespace TaskTable

variable {clock : Ticks} {pipelines : List Pipeline} {table after : TaskTable Work}
  {task other : TaskHandle} {record held : TaskRecord Work}

structure Due (table : TaskTable Work) (clock : Ticks) (pipelines : List Pipeline)
    (task : TaskHandle) (record : TaskRecord Work) : Prop where
  found : table.find? task = some record
  queued : record.state = .queued
  begun : record.timing.start ≤ clock
  sight : record.timing.isPassedOver clock = false
  work : ∃ work, record.work = some work ∧ work.Finishes pipelines

structure AllDue (table : TaskTable Work) (clock : Ticks) (pipelines : List Pipeline) : Prop where
  once : table.queue.Nodup
  due : ∀ task ∈ table.queue, ∃ record, table.Due clock pipelines task record

def nextRun? (table : TaskTable Work) (pipelines : List Pipeline) (task : TaskHandle) :
    Option Event :=
  (table.find? task).bind fun record =>
    record.work.bind fun work => work.nextRun? pipelines task

structure Ran (table : TaskTable Work) (task : TaskHandle) (after : TaskTable Work) : Prop where
  queue : after.queue = table.queue.erase task
  own : ∃ record, after.find? task = some record ∧ record.state = .completed
  others : ∀ other, other ≠ task → after.find? other = table.find? other

theorem AllDue.punctual (due : table.AllDue clock pipelines) :
    table.Punctual table.queue clock := by
  intro task member record found _
  obtain ⟨held, waits⟩ := due.due task member
  cases found.symm.trans waits.found
  exact waits.sight

theorem AllDue.ran (due : table.AllDue clock pipelines) (ran : table.Ran task after) :
    after.AllDue clock pipelines where
  once := by
    rw [ran.queue]
    exact due.once.erase task
  due other member := by
    rw [ran.queue, due.once.mem_erase_iff] at member
    obtain ⟨record, waits⟩ := due.due other member.2
    exact ⟨record, { waits with found := (ran.others other member.1).trans waits.found }⟩

theorem Ran.precedes {first second : TaskHandle} (ran : table.Ran task after)
    (apart : first ≠ task) (distinct : second ≠ task) (precedes : after.Precedes first second) :
    table.Precedes first second := by
  obtain ⟨one, other, here, there, sooner⟩ := precedes
  rw [ran.others first apart] at here
  rw [ran.others second distinct] at there
  refine ⟨one, other, here, there, sooner.imp_right ?_⟩
  rintro ⟨same, behind⟩
  rw [ran.queue] at behind
  exact ⟨same, behind.trans List.erase_sublist⟩

theorem Ran.nextRun? (ran : table.Ran task after) (apart : other ≠ task) :
    after.nextRun? pipelines other = table.nextRun? pipelines other := by
  rw [TaskTable.nextRun?, TaskTable.nextRun?, ran.others other apart]

structure Claims (table : TaskTable Work) (task : TaskHandle) (claimed : TaskTable Work) :
    Prop where
  queue : claimed.queue = table.queue
  own : ∃ record, claimed.find? task = some record ∧ record.state = .running
  others : ∀ other, other ≠ task → claimed.find? other = table.find? other

variable {claimed : TaskTable Work}

theorem Due.claim (waits : table.Due clock pipelines task record) :
    ∃ claimed, table.claim clock task = some (record.work, claimed) ∧
      table.Claims task claimed := by
  obtain ⟨claimed, taken, revises⟩ := claim_revises waits.found waits.queued waits.begun
  exact ⟨claimed, taken, revises.queue, ⟨_, revises.record, rfl⟩, revises.others⟩

theorem Claims.select (claims : table.Claims task claimed)
    (due : table.AllDue clock pipelines) :
    ∃ next slack, claimed.select clock = ⟨claimed, ⟨next, none, 0, 0⟩, slack, []⟩ ∧
      ((next = none ∧ table.queue.erase task = []) ∨
        ∃ second record, next = some second ∧ second ∈ table.queue.erase task ∧
          table.Due clock pipelines second record) := by
  obtain ⟨running, here, runs⟩ := claims.own
  have waiting {other : TaskHandle} {record : TaskRecord Work}
      (found : claimed.find? other = some record) (queued : record.state = .queued) :
      other ≠ task := by
    rintro rfl
    cases here.symm.trans found
    rw [runs] at queued
    cases queued
  have punctual : claimed.Punctual claimed.queue clock := by
    intro other member record found queued
    rw [claims.queue] at member
    rw [claims.others other (waiting found queued)] at found
    exact due.punctual other member record found queued
  have unique : claimed.queue.Nodup := claims.queue ▸ due.once
  rcases select_punctual punctual unique with ⟨kept, out⟩ | ⟨second, record, chooses, chosen⟩
  · refine ⟨none, Ticks.last, kept, .inl ⟨rfl, ?_⟩⟩
    rw [List.eq_nil_iff_forall_not_mem]
    intro other left
    rw [due.once.mem_erase_iff] at left
    obtain ⟨record, waits⟩ := due.due other left.2
    have found := (claims.others other left.1).trans waits.found
    exact out other (claims.queue ▸ left.2) record found waits.queued
  · have apart := waiting chooses.found chooses.queued
    have member : second ∈ table.queue := claims.queue ▸ List.mem_of_mem_filter chooses.mem
    obtain ⟨held, waits⟩ := due.due second member
    have left := due.once.mem_erase_iff.mpr ⟨apart, member⟩
    exact ⟨some second, _, chosen, .inr ⟨second, held, rfl, left, waits⟩⟩

theorem Claims.finish (claims : table.Claims task claimed) (work : Option Work) :
    ∃ after, claimed.finish task work = (true, after) ∧ table.Ran task after := by
  obtain ⟨record, here, running⟩ := claims.own
  obtain ⟨after, finished, revises⟩ := finish_revises here running work
  refine ⟨after, finished, ?_, ⟨_, revises.record, rfl⟩, ?_⟩
  · rw [revises.queue, claims.queue]
  · intro other apart
    rw [revises.others other apart, claims.others other apart]

theorem select_of_queue_eq_nil (empty : table.queue = []) (clock : Ticks) :
    table.select clock = Scan.start table := by
  rw [select, empty]
  rfl

theorem AllDue.select (due : table.AllDue clock pipelines) (waiting : table.queue ≠ []) :
    ∃ task record slack, task ∈ table.queue ∧ table.Due clock pipelines task record ∧
      table.select clock = ⟨table, ⟨some task, none, 0, 0⟩, slack, []⟩ ∧
      ∀ other ∈ table.queue, other ≠ task → table.Precedes task other := by
  rcases select_punctual due.punctual due.once with ⟨_, out⟩ | ⟨task, _, chooses, chosen⟩
  · obtain ⟨task, member⟩ := List.exists_mem_of_ne_nil _ waiting
    obtain ⟨record, waits⟩ := due.due task member
    exact absurd waits.queued (out task member record waits.found)
  · have inside := List.mem_of_mem_filter chooses.mem
    obtain ⟨record, waits⟩ := due.due task inside
    refine ⟨task, record, _, inside, waits, chosen, ?_⟩
    intro other member apart
    obtain ⟨held, there⟩ := due.due other member
    have timely := due.punctual.mem_timelyTasks member there.found there.queued
    exact chooses.precedes List.filter_sublist timely apart there.found there.queued

/-- The tasks of a queue are run one after the other, each being the first of those that are
left, until the queue is empty. -/
inductive Drains (pipelines : List Pipeline) :
    TaskTable Work → List TaskHandle → List Event → TaskTable Work → Prop where
  | done (table : TaskTable Work) (empty : table.queue = []) : Drains pipelines table [] [] table
  | next {table after last : TaskTable Work} {task : TaskHandle} {event : Event}
      {order : List TaskHandle} {runs : List Event} (member : task ∈ table.queue)
      (first : ∀ other ∈ table.queue, other ≠ task → table.Precedes task other)
      (begins : table.nextRun? pipelines task = some event) (ran : table.Ran task after)
      (drains : Drains pipelines after order runs last) :
      Drains pipelines table (task :: order) (event :: runs) last

namespace Drains

variable {last : TaskTable Work} {order : List TaskHandle} {runs : List Event}

theorem empty (drains : Drains pipelines table order runs last) : last.queue = [] := by
  induction drains with
  | done _ empty => exact empty
  | next _ _ _ _ _ ih => exact ih

theorem perm (drains : Drains pipelines table order runs last) : order.Perm table.queue := by
  induction drains with
  | done _ empty => rw [empty]
  | next member _ _ ran _ ih =>
      rw [ran.queue] at ih
      exact (ih.cons _).trans (List.perm_cons_erase member).symm

theorem apart (drains : Drains pipelines after order runs last) (once : table.queue.Nodup)
    (ran : table.Ran task after) (member : other ∈ order) :
    other ≠ task ∧ other ∈ table.queue := by
  have left := drains.perm.mem_iff.mp member
  rw [ran.queue] at left
  exact once.mem_erase_iff.mp left

theorem sorted (drains : Drains pipelines table order runs last) (once : table.queue.Nodup) :
    order.Pairwise table.Precedes := by
  induction drains with
  | done => exact .nil
  | next member first _ ran drains ih =>
      refine .cons ?_ ?_
      · intro other later
        obtain ⟨apart, inside⟩ := drains.apart once ran later
        exact first other inside apart
      · have left := ih (ran.queue ▸ once.erase _)
        refine left.imp_of_mem ?_
        intro one other here there precedes
        exact ran.precedes (drains.apart once ran here).1 (drains.apart once ran there).1 precedes

theorem events (drains : Drains pipelines table order runs last) (once : table.queue.Nodup) :
    order.map (table.nextRun? pipelines) = runs.map some := by
  induction drains with
  | done => rfl
  | next member first begins ran drains ih =>
      rw [List.map_cons, List.map_cons, begins, ← ih (ran.queue ▸ once.erase _)]
      refine congrArg (List.cons _) (List.map_congr_left ?_)
      intro other later
      exact (ran.nextRun? (drains.apart once ran later).1).symm

theorem kept (drains : Drains pipelines table order runs last) (idle : other ∉ order) :
    last.find? other = table.find? other := by
  induction drains with
  | done => rfl
  | next _ _ _ ran _ ih =>
      rw [ih (List.not_mem_of_not_mem_cons idle), ran.others _ (List.ne_of_not_mem_cons idle)]

theorem completed (drains : Drains pipelines table order runs last) (once : table.queue.Nodup)
    (member : other ∈ order) :
    ∃ record, last.find? other = some record ∧ record.state = .completed := by
  induction drains with
  | done => cases member
  | next _ _ _ ran drains ih =>
      rcases List.mem_cons.mp member with rfl | later
      · have idle : other ∉ _ := fun later => (drains.apart once ran later).1 rfl
        rw [drains.kept idle]
        exact ran.own
      · exact ih (ran.queue ▸ once.erase _) later

end Drains

end TaskTable

end EdfKernel
