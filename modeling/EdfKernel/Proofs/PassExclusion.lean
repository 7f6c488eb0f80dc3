import EdfKernel.Proofs.TableInvariant

/-!
A pass is a chain of activities, and a scheduler has one link of it left to do
while the pass is under way and none at any other time. Between the section that
takes a task out of the table and the one that puts its work back, the link
carries the work; no other task can run or lack its work meanwhile.
-/

namespace EdfKernel

namespace Section

def isPass : Section → Bool
  | select _ | dispatch _ _ _ | finish _ _ _ | reinsert _ _ _ => true
  | _ => false

theorem isPass_of_isCall (part : Section) (called : part.isCall = true) : part.isPass = false := by
  cases part <;> first | rfl | cases called

end Section

namespace Activity

def isLink : Activity → Bool
  | acquire _ part | enter _ part => part.isPass
  | execute _ _ _ | engage _ _ _ _ | returned _ _ _ _ _ | conclude _ _ _ => true
  | _ => false

/-- The task that a pass has taken out of the table, and the work that came with it. -/
def carries? : Activity → Option (TaskHandle × Option Work)
  | acquire _ (.finish run work _) | enter _ (.finish run work _) | execute _ run work =>
      some (run.task, work)
  | engage _ run work _ | returned _ run work _ _ => some (run.task, some work)
  | _ => none

def isExecution : Activity → Bool
  | engage _ _ _ _ | returned _ _ _ _ _ => true
  | _ => false

theorem isLink_of_isExecution (activity : Activity) (executing : activity.isExecution = true) :
    activity.isLink = true := by
  cases activity with
  | engage | returned => rfl
  | _ => cases executing

theorem carries?_enter (number : Nat) (part : Section) :
    (enter number part).carries? = (acquire number part).carries? := by
  cases part <;> rfl

end Activity

namespace TaskTable

variable {ω : Type}

/-- Only the task `out` may be running or without its work. -/
def OnlyOut (table : TaskTable ω) (out : Option TaskHandle) : Prop :=
  ∀ task record, table.find? task = some record →
    record.state = .running ∨ record.work = none → out = some task

theorem empty_onlyOut (capacity : Nat) (out : Option TaskHandle) :
    (empty capacity : TaskTable ω).OnlyOut out := by
  intro task record found
  simp [empty, find?] at found

theorem Handled.occupied {admitted : Bool} {before : Option (TaskRecord ω)} {after : TaskRecord ω}
    (handled : Handled admitted before (some after))
    (occupied : after.state = .running ∨ after.work = none) :
    ∃ record, before = some record ∧ (record.state = .running ∨ record.work = none) := by
  cases handled with
  | same => exact ⟨after, rfl, occupied⟩
  | made work settings => simp [TaskRecord.fresh] at occupied
  | configured record settings idle => exact ⟨record, rfl, occupied⟩
  | queued record start deadline idle chosen => exact ⟨record, rfl, .inr (by simpa using occupied)⟩
  | cancelled record idle => exact ⟨record, rfl, .inr (by simpa [TaskRecord.cancel] using occupied)⟩
  | completed record => exact ⟨record, rfl, .inr (by simpa using occupied)⟩

theorem OnlyOut.change {table after : TaskTable ω} {admits out : Option TaskHandle}
    {brings : Option ω} (only : table.OnlyOut out) (consistent : table.Consistent)
    (change : table.Change admits brings after) : after.OnlyOut out := by
  intro task record found occupied
  have handled := change.handled consistent task
  rw [found] at handled
  obtain ⟨earlier, here, busy⟩ := handled.occupied occupied
  exact only task earlier here busy

theorem OnlyOut.select {table : TaskTable ω} {out : Option TaskHandle} (only : table.OnlyOut out)
    (consistent : table.Consistent) (current : Ticks) :
    (table.select current).table.OnlyOut out := by
  intro task record found occupied
  obtain ⟨earlier, here, scanned⟩ := find?_of_select consistent current task record found
  apply only task earlier here
  rcases occupied with running | detached
  · exact .inl (scanned.running_iff.mp running)
  · exact .inr (scanned.work ▸ detached)

theorem OnlyOut.claim {table after : TaskTable ω} (settled : table.OnlyOut none)
    {current : Ticks} {task : TaskHandle} {work : Option ω}
    (claimed : table.claim current task = some (work, after)) :
    after.OnlyOut (some task) ∧ ∃ own, work = some own := by
  obtain ⟨record, found, queued, _, rfl, _⟩ := claim_cases claimed
  constructor
  · intro other held here occupied
    rw [find?_claim claimed] at here
    by_cases same : other = task
    · rw [same]
    · rw [if_neg same] at here
      cases settled other held here occupied
  · cases attached : record.work with
    | some own => exact ⟨own, rfl⟩
    | none => cases settled task record found (.inr attached)

theorem OnlyOut.finish {table : TaskTable ω} {task : TaskHandle}
    (only : table.OnlyOut (some task)) (work : ω) :
    (table.finish task (some work)).2.OnlyOut none := by
  intro other held here occupied
  rw [find?_finish] at here
  by_cases same : other = task
  · rw [if_pos same] at here
    obtain ⟨record, _, rfl⟩ := Option.map_eq_some_iff.mp here
    rcases occupied with running | detached
    · dsimp only at running
      split at running
      case isTrue => cases running
      case isFalse idle => exact absurd running idle
    · cases detached
  · rw [if_neg same] at here
    cases only other held here occupied
    exact absurd rfl same

end TaskTable

namespace Focus

/-- One link of a pass while it is under way, none otherwise, and only the task
that the link carries is out. -/
inductive Excluded : Focus → Prop where
  | absent (duties : List Activity) (unlinked : duties.filter Activity.isLink = []) :
      Excluded ⟨none, duties⟩
  | between (scheduler : Scheduler) (duties : List Activity) (idle : scheduler.inPass = false)
      (unlinked : duties.filter Activity.isLink = []) (settled : scheduler.table.OnlyOut none) :
      Excluded ⟨some scheduler, duties⟩
  | during (scheduler : Scheduler) (duties : List Activity) (link : Activity)
      (busy : scheduler.inPass = true) (one : duties.filter Activity.isLink = [link])
      (carried : ∀ task, link.carries? ≠ some (task, none))
      (only : scheduler.table.OnlyOut (link.carries?.map Prod.fst)) :
      Excluded ⟨some scheduler, duties⟩

theorem excluded_cons (scheduler : Option Scheduler) (activity : Activity)
    (duties : List Activity) (other : activity.isLink = false) :
    Excluded ⟨scheduler, activity :: duties⟩ ↔ Excluded ⟨scheduler, duties⟩ := by
  have same : (activity :: duties).filter Activity.isLink = duties.filter Activity.isLink := by
    simp [other]
  constructor
  · intro excluded
    cases excluded with
    | absent _ unlinked => exact .absent duties (same ▸ unlinked)
    | between held _ idle unlinked settled =>
        exact .between held duties idle (same ▸ unlinked) settled
    | during held _ link busy one carried only =>
        exact .during held duties link busy (same ▸ one) carried only
  · intro excluded
    cases excluded with
    | absent _ unlinked => exact .absent _ (same.trans unlinked)
    | between held _ idle unlinked settled =>
        exact .between held _ idle (same.trans unlinked) settled
    | during held _ link busy one carried only =>
        exact .during held _ link busy (same.trans one) carried only

theorem Excluded.of_link {scheduler : Option Scheduler} {link : Activity} {duties : List Activity}
    (excluded : Excluded ⟨scheduler, link :: duties⟩) (linked : link.isLink = true) :
    ∃ held, scheduler = some held ∧ held.inPass = true ∧
      duties.filter Activity.isLink = [] ∧ (∀ task, link.carries? ≠ some (task, none)) ∧
      held.table.OnlyOut (link.carries?.map Prod.fst) := by
  have first : (link :: duties).filter Activity.isLink =
      link :: duties.filter Activity.isLink := by
    simp [linked]
  cases excluded with
  | absent _ unlinked =>
      rw [first] at unlinked
      cases unlinked
  | between held _ idle unlinked settled =>
      rw [first] at unlinked
      cases unlinked
  | during held _ other busy one carried only =>
      rw [first] at one
      obtain ⟨same, rest⟩ := List.cons.inj one
      exact ⟨held, rfl, busy, rest, same ▸ carried, same ▸ only⟩

theorem Excluded.follow {before after : Scheduler} {link next : Activity}
    {duties : List Activity} (excluded : Excluded ⟨some before, link :: duties⟩)
    (linked : link.isLink = true) (follows : next.isLink = true)
    (inPass : after.inPass = before.inPass)
    (handed : (∀ task, link.carries? ≠ some (task, none)) →
      before.table.OnlyOut (link.carries?.map Prod.fst) →
      (∀ task, next.carries? ≠ some (task, none)) ∧
        after.table.OnlyOut (next.carries?.map Prod.fst)) :
    Excluded ⟨some after, next :: duties⟩ := by
  obtain ⟨held, same, busy, rest, carried, only⟩ := excluded.of_link linked
  cases same
  obtain ⟨carries, out⟩ := handed carried only
  exact .during after _ next (inPass.trans busy) (by simp [follows, rest]) carries out

theorem Excluded.reset {before after : Scheduler} {duties : List Activity}
    (excluded : Excluded ⟨some before, duties⟩) (inPass : after.inPass = before.inPass)
    (table : after.table = before.table) : Excluded ⟨some after, duties⟩ := by
  cases excluded with
  | between _ _ idle unlinked settled =>
      exact .between after duties (inPass.trans idle) unlinked (table ▸ settled)
  | during _ _ link busy one carried only =>
      exact .during after duties link (inPass.trans busy) one carried (table ▸ only)

theorem Excluded.change {before after : Scheduler} {duties : List Activity}
    (excluded : Excluded ⟨some before, duties⟩) (inPass : after.inPass = before.inPass)
    (kept : ∀ out, before.table.OnlyOut out → after.table.OnlyOut out) :
    Excluded ⟨some after, duties⟩ := by
  cases excluded with
  | between _ _ idle unlinked settled =>
      exact .between after duties (inPass.trans idle) unlinked (kept none settled)
  | during _ _ link busy one carried only =>
      exact .during after duties link (inPass.trans busy) one carried (kept _ only)

end Focus

theorem Worked.excluded {number : Nat} {clock : Ticks} {before : Scheduler} (after : Scheduler)
    {part : Section} {duties next : List Activity}
    (worked : Worked number clock before.table part after.table next)
    (consistent : before.table.Consistent) (inPass : after.inPass = before.inPass)
    (excluded : Focus.Excluded ⟨some before, .enter number part :: duties⟩) :
    Focus.Excluded ⟨some after, .leave number :: (next ++ duties)⟩ := by
  rw [Focus.excluded_cons _ _ _ rfl]
  have nothing {scheduler : Nat} {wakes : Bool} {outcome : PassOutcome} (task : TaskHandle) :
      (Activity.conclude scheduler wakes outcome).carries? ≠ some (task, none) := by
    simp [Activity.carries?]
  generalize tables : before.table = table at worked
  generalize made : after.table = changed at worked
  cases worked with
  | call part admits brings after' called change asked works =>
      rw [Focus.excluded_cons _ (.enter number part) _ (part.isPass_of_isCall called)] at excluded
      apply excluded.change inPass
      intro out only
      rw [made]
      exact (tables ▸ only).change (tables ▸ consistent) change
  | looked outcome task =>
      rw [Focus.excluded_cons _ _ _ rfl] at excluded
      exact excluded.reset inPass (made.trans tables.symm)
  | idle wakes next =>
      refine excluded.follow rfl rfl inPass fun _ only => ⟨nothing, ?_⟩
      rw [made]
      exact (tables ▸ only).select (tables ▸ consistent) clock
  | due wakes task =>
      refine excluded.follow rfl rfl inPass fun _ only => ⟨by simp [Activity.carries?], ?_⟩
      rw [made]
      exact (tables ▸ only).select (tables ▸ consistent) clock
  | abandoned wakes current task lost =>
      refine excluded.follow rfl rfl inPass fun _ only => ⟨nothing, ?_⟩
      rw [made]
      exact tables ▸ only
  | claimed wakes current task work claimed taken =>
      refine excluded.follow rfl rfl inPass fun _ only => ?_
      have settled : table.OnlyOut none := tables ▸ only
      obtain ⟨out, own, rfl⟩ := settled.claim taken
      refine ⟨by simp [Activity.carries?], ?_⟩
      rw [made]
      exact out.select ((tables ▸ consistent : table.Consistent).claim taken) current
  | finished run work status =>
      refine excluded.follow rfl rfl inPass fun carried only => ⟨nothing, ?_⟩
      rw [made]
      cases work with
      | none => exact absurd rfl (carried run.task)
      | some work => exact (tables ▸ only).finish work
  | asked run work startUs deadlineUs running =>
      refine excluded.follow rfl rfl inPass fun carried only => ⟨by simp [Activity.carries?], ?_⟩
      rw [made]
      cases work with
      | none => exact absurd rfl (carried run.task)
      | some work => exact (tables ▸ only).finish work
  | refused run startUs deadlineUs =>
      refine excluded.follow rfl rfl inPass fun _ only => ⟨nothing, ?_⟩
      rw [made]
      exact tables ▸ only
  | readmitted run startUs deadlineUs after' change =>
      refine excluded.follow rfl rfl inPass fun _ only => ⟨nothing, ?_⟩
      rw [made]
      exact (tables ▸ only).change (tables ▸ consistent) change

theorem Move.excluded {number : Nat} {clock : Ticks} {pipelines : Nat} {done : Option Activity}
    {before after : Focus} (move : Move number clock pipelines done before after)
    (sound : ∀ scheduler, before.scheduler = some scheduler → scheduler.TableSound)
    (excluded : before.Excluded) : after.Excluded := by
  cases move with
  | rest => exact excluded
  | setUp config executor duties valid =>
      cases excluded with
      | absent _ unlinked =>
          exact .between _ duties rfl unlinked (TaskTable.empty_onlyOut config.maxTasks none)
  | drop scheduler duties | coalesce scheduler duties busy => exact excluded.reset rfl rfl
  | leave scheduler duties =>
      rw [Focus.excluded_cons _ _ _ rfl] at excluded
      exact excluded.reset rfl rfl
  | begin scheduler duties wakes idle =>
      cases excluded with
      | between _ _ _ unlinked settled =>
          have alone : (Activity.acquire number (.select wakes) :: duties).filter Activity.isLink =
              [.acquire number (.select wakes)] :=
            congrArg (List.cons _) unlinked
          exact .during _ _ _ rfl alone (fun _ carried => nomatch carried) settled
      | during _ _ link busy one carried only =>
          rw [idle] at busy
          cases busy
  | ask scheduler duties part called =>
      rw [Focus.excluded_cons _ (.acquire number part) _ (part.isPass_of_isCall called)]
      exact excluded
  | acquire scheduler duties part =>
      cases pass : part.isPass with
      | false =>
          rw [Focus.excluded_cons _ (.acquire number part) _ pass] at excluded
          rw [Focus.excluded_cons _ (.enter number part) _ pass]
          exact excluded
      | true =>
          obtain ⟨held, rfl, _⟩ := excluded.of_link pass
          refine excluded.follow pass pass rfl fun carried only => ?_
          rw [Activity.carries?_enter]
          exact ⟨carried, only⟩
  | enter scheduler duties part free =>
      obtain ⟨⟨table, statistics, issued, framed⟩, worked⟩ :=
        part.effect_done scheduler number clock pipelines
      rw [framed] at worked ⊢
      exact worked.excluded { scheduler with table, statistics, issued, locked := true }
        (sound scheduler rfl).consistent rfl excluded
  | hand scheduler duties run work =>
      exact excluded.follow rfl rfl rfl fun carried only => ⟨by simp [Activity.carries?], only⟩
  -- A pass that carries a task carries its work, so this never happens.
  | skip scheduler duties run =>
      obtain ⟨_, _, _, _, carried, _⟩ := excluded.of_link rfl
      exact absurd rfl (carried run.task)
  | run scheduler duties run work turn verdict =>
      obtain ⟨held, rfl, _⟩ := excluded.of_link rfl
      exact excluded.follow rfl rfl rfl fun carried only => ⟨by simp [Activity.carries?], only⟩
  | spare scheduler duties run work turn status =>
      obtain ⟨held, rfl, _⟩ := excluded.of_link rfl
      exact excluded.follow rfl rfl rfl fun carried only => ⟨by simp [Activity.carries?], only⟩
  | back scheduler duties run work verdict script status =>
      obtain ⟨held, rfl, _⟩ := excluded.of_link rfl
      exact excluded.follow rfl rfl rfl fun carried only => ⟨by simp [Activity.carries?], only⟩
  | conclude scheduler duties wakes outcome ended =>
      obtain ⟨held, same, _, rest, _, only⟩ := excluded.of_link rfl
      cases same
      exact .between _ duties rfl rest only
  | lookUp scheduler duties outcome task next =>
      obtain ⟨held, same, _, rest, _, only⟩ := excluded.of_link rfl
      cases same
      exact .between _ _ rfl (by simpa [Activity.isLink, Section.isPass] using rest) only
  | vanish duties activity duty =>
      cases excluded with
      | absent _ unlinked => exact .absent duties (List.filter_eq_nil_iff.mpr fun other member =>
          List.filter_eq_nil_iff.mp unlinked other (List.mem_cons_of_mem _ member))

/-! A running task stays where it is until it is done. -/

namespace TaskTable

variable {ω : Type}

theorem Handled.running {admitted : Bool} {record : TaskRecord ω} {after : Option (TaskRecord ω)}
    (handled : Handled admitted (some record) after) (running : record.state = .running) :
    ∃ held, after = some held ∧ (held.state = .running ∨ held.state = .completed) := by
  cases handled with
  | same => exact ⟨record, rfl, .inl running⟩
  | completed => exact ⟨_, rfl, .inr rfl⟩
  | ended idle | configured settings idle | queued start deadline idle chosen | cancelled idle =>
      exact absurd running ‹_›

theorem select_running {table : TaskTable ω} (consistent : table.Consistent) (current : Ticks)
    {task : TaskHandle} {record : TaskRecord ω} (found : table.find? task = some record)
    (running : record.state = .running) :
    ∃ held, (table.select current).table.find? task = some held ∧ held.state = .running := by
  obtain ⟨after, here, scanned⟩ := find?_select consistent current task record found
  exact ⟨after, here, scanned.running_iff.mpr running⟩

end TaskTable

theorem Worked.running {number : Nat} {clock : Ticks} {table after : TaskTable Work}
    {part : Section} {next : List Activity} (worked : Worked number clock table part after next)
    (consistent : table.Consistent) {task : TaskHandle} {record : TaskRecord Work}
    (found : table.find? task = some record) (running : record.state = .running) :
    ∃ held, after.find? task = some held ∧
      (held.state = .running ∨ held.state = .completed) := by
  have changed {admits : Option TaskHandle} {brings : Option Work} {after : TaskTable Work}
      (change : table.Change admits brings after) :
      ∃ held, after.find? task = some held ∧
        (held.state = .running ∨ held.state = .completed) := by
    have handled := change.handled consistent task
    rw [found] at handled
    exact handled.running running
  have finished (run : TaskHandle) (work : Option Work) :
      ∃ held, (table.finish run work).2.find? task = some held ∧
        (held.state = .running ∨ held.state = .completed) := by
    rw [TaskTable.find?_finish, found]
    by_cases same : task = run
    · rw [if_pos same]
      exact ⟨_, rfl, .inr (by simp [running])⟩
    · rw [if_neg same]
      exact ⟨record, rfl, .inl running⟩
  cases worked with
  | call part admits brings after called change asked made => exact changed change
  | idle | due =>
      obtain ⟨held, here, still⟩ := TaskTable.select_running consistent clock found running
      exact ⟨held, here, .inl still⟩
  | abandoned | refused | looked => exact ⟨record, found, .inl running⟩
  -- A claim takes a queued task, so not the one that is running.
  | claimed wakes current other work claimed taken =>
      obtain ⟨queued, here, waiting, _⟩ := TaskTable.claim_cases taken
      have apart : task ≠ other := by
        intro same
        rw [← same, found] at here
        cases here
        rw [running] at waiting
        cases waiting
      have still : claimed.find? task = some record := by
        rw [TaskTable.find?_claim taken, if_neg apart, found]
      obtain ⟨held, there, runs⟩ :=
        TaskTable.select_running (consistent.claim taken) current still running
      exact ⟨held, there, .inl runs⟩
  | finished run work status => exact finished run.task work
  | asked run work startUs deadlineUs running => exact finished run.task work
  | readmitted run startUs deadlineUs after change => exact changed change

theorem Move.persists {number : Nat} {clock : Ticks} {pipelines : Nat} {done : Option Activity}
    {before after : Focus} (move : Move number clock pipelines done before after)
    (scheduler : Scheduler) (found : before.scheduler = some scheduler) :
    ∃ later, after.scheduler = some later := by
  cases move with
  | rest | ask | acquire | run | spare | back => exact ⟨scheduler, found⟩
  | setUp | vanish => cases found
  | drop | coalesce | begin | enter | leave | hand | skip | conclude | lookUp => exact ⟨_, rfl⟩

namespace Machine

variable {machine : Machine} {number : Nat} {scheduler : Scheduler}

theorem Reachable.excluded (reachable : Reachable machine) (number : Nat) :
    (machine.focus number).Excluded := by
  let law (focus : Focus) : Prop :=
    (∀ held, focus.scheduler = some held → held.TableSound) ∧ focus.Excluded
  have boot : law ⟨none, []⟩ := by
    constructor
    · intro held absent
      cases absent
    · exact .absent [] rfl
  have both : law (machine.focus number) := by
    apply reachable.focus_induction boot
    rintro clock pipelines done before after move ⟨sound, excluded⟩
    exact ⟨move.tableSound sound, move.excluded sound excluded⟩
  exact both.2

/-- While a pass is under way one link of it is left to do, else none. -/
theorem Reachable.links (reachable : Reachable machine)
    (found : machine.scheduler? number = some scheduler) :
    ((machine.duties number).filter Activity.isLink).length =
      if scheduler.inPass then 1 else 0 := by
  have excluded := reachable.excluded number
  rw [focus_of_scheduler? machine number _ found] at excluded
  cases excluded with
  | between _ _ idle unlinked settled => rw [unlinked, idle]; rfl
  | during _ _ link busy one carried only => rw [one, busy]; rfl

theorem Reachable.inPass_of_mem (reachable : Reachable machine)
    (found : machine.scheduler? number = some scheduler) {link : Activity}
    (member : link ∈ machine.duties number) (linked : link.isLink = true) :
    scheduler.inPass = true := by
  have one := reachable.links found
  have there : link ∈ (machine.duties number).filter Activity.isLink :=
    List.mem_filter.mpr ⟨member, linked⟩
  cases busy : scheduler.inPass with
  | true => rfl
  | false =>
      rw [busy] at one
      rw [List.eq_nil_of_length_eq_zero one] at there
      cases there

theorem Reachable.idle_of_rest (reachable : Reachable machine)
    (found : machine.scheduler? number = some scheduler) (rest : machine.agenda = []) :
    scheduler.inPass = false := by
  have links := reachable.links found
  rw [duties, rest] at links
  cases busy : scheduler.inPass with
  | false => rfl
  | true =>
      rw [busy] at links
      cases links

/-- A task that is running or without its work is the one that the pass under
way has taken out, and its work is with the pass. -/
theorem Reachable.out (reachable : Reachable machine)
    (found : machine.scheduler? number = some scheduler) {task : TaskHandle}
    {record : TaskRecord Work} (here : scheduler.table.find? task = some record)
    (occupied : record.state = .running ∨ record.work = none) :
    scheduler.inPass = true ∧
      ∃ link work, (machine.duties number).filter Activity.isLink = [link] ∧
        link.carries? = some (task, some work) := by
  have excluded := reachable.excluded number
  rw [focus_of_scheduler? machine number _ found] at excluded
  cases excluded with
  | between _ _ idle unlinked settled => cases settled task record here occupied
  | during _ _ link busy one carried only =>
      have out := only task record here occupied
      obtain ⟨⟨carriedTask, work⟩, carries, rfl⟩ := Option.map_eq_some_iff.mp out
      cases work with
      | none => exact absurd carries (carried carriedTask)
      | some work => exact ⟨busy, link, work, one, carries⟩

theorem Reachable.settled (reachable : Reachable machine)
    (found : machine.scheduler? number = some scheduler) (idle : scheduler.inPass = false) :
    scheduler.table.OnlyOut none := by
  intro task record here occupied
  obtain ⟨busy, _⟩ := reachable.out found here occupied
  cases idle.symm.trans busy

theorem Reachable.step_running (reachable : Reachable machine)
    (found : machine.scheduler? number = some scheduler) {task : TaskHandle}
    {record : TaskRecord Work} (here : scheduler.table.find? task = some record)
    (running : record.state = .running) :
    ∃ after held, machine.step.scheduler? number = some after ∧
      after.table.find? task = some held ∧
      (held.state = .running ∨ held.state = .completed) := by
  obtain ⟨done, _, move⟩ := step_moves machine number
  obtain ⟨after, there⟩ := move.persists scheduler found
  refine ⟨after, ?_⟩
  rcases move.table_cases after there with
    ⟨absent, _⟩ | ⟨earlier, before, _, same | ⟨part, next, _, worked⟩⟩
  · rw [show (machine.focus number).scheduler = some scheduler from found] at absent
    cases absent
  · cases (found : (machine.focus number).scheduler = some scheduler).symm.trans before
    exact ⟨record, there, same ▸ here, .inl running⟩
  · cases (found : (machine.focus number).scheduler = some scheduler).symm.trans before
    obtain ⟨held, still, state⟩ :=
      worked.running (reachable.tableSound found).consistent here running
    exact ⟨held, there, still, state⟩

theorem Reachable.executions (reachable : Reachable machine) {run : Dispatch}
    {work : Option Work} {rest : List Activity}
    (agenda : machine.agenda = .execute number run work :: rest) :
    (machine.duties number).filter Activity.isExecution = [] := by
  have here := duties_cons agenda rfl
  have excluded := reachable.excluded number
  rw [focus, here] at excluded
  obtain ⟨_, _, _, unlinked, _⟩ := excluded.of_link rfl
  rw [here, List.filter_eq_nil_iff]
  intro activity member executing
  rcases List.mem_cons.mp member with rfl | later
  · cases executing
  · have linked := List.filter_eq_nil_iff.mp unlinked activity later
    exact linked (activity.isLink_of_isExecution executing)

theorem Reachable.claim_work (reachable : Reachable machine)
    (found : machine.scheduler? number = some scheduler) {wakes : Bool} {current : Ticks}
    {task : TaskHandle} {rest : List Activity}
    (agenda : machine.agenda = .enter number (.dispatch wakes current task) :: rest)
    {work : Option Work} {after : TaskTable Work}
    (claimed : scheduler.table.claim current task = some (work, after)) :
    ∃ own, work = some own := by
  have here := duties_cons agenda rfl
  have excluded := reachable.excluded number
  rw [focus, here, found] at excluded
  obtain ⟨held, same, _, _, _, settled⟩ := excluded.of_link rfl
  cases same
  exact (settled.claim claimed).2

theorem beginPass_of_busy (found : machine.scheduler? number = some scheduler)
    (busy : scheduler.inPass = true) (wakes : Bool) :
    machine.beginPass number wakes =
      { machine with
        schedulers := machine.schedulers.set number (some scheduler.coalesce)
        irq := machine.irq.request scheduler.config.line
        reply := .ok (.outcome .idle) } := by
  simp only [beginPass, found, busy, if_true]
  rfl

end Machine

end EdfKernel
