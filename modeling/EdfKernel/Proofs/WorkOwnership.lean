import EdfKernel.Proofs.PassExclusion
import Mathlib.Logic.Function.Iterate

/-!
A work stays with its task. A history tells which work each task was created
with and how often each slot was freed during the pass under way. As long as no
slot goes once around its generations within one pass, a record that has a work
has its own, also when its slot was freed and taken again while the work ran.
-/

namespace EdfKernel

namespace Work

/-- The same work, some runs later. -/
def Continues (origin work : Work) : Prop := ∃ runs, work = Nat.iterate advance runs origin

theorem Continues.refl (work : Work) : work.Continues work := ⟨0, rfl⟩

theorem Continues.advance {origin work : Work} (continues : origin.Continues work) :
    origin.Continues work.advance := by
  obtain ⟨runs, rfl⟩ := continues
  exact ⟨runs + 1, (Function.iterate_succ_apply' Work.advance runs origin).symm⟩

end Work

namespace TaskTable

variable {ω : Type}

def occupancy (table : TaskTable ω) (index : Nat) : Option (UInt32 × Bool) :=
  table.slots[index]?.map fun slot => (slot.generation, slot.record.isSome)

theorem isVacant_eq_occupancy (table : TaskTable ω) (index : Nat) :
    table.isVacant index = (table.occupancy index).any fun held => !held.2 := by
  unfold isVacant occupancy
  cases table.slots[index]? with
  | none => rfl
  | some slot => cases held : slot.record <;> simp [held]

theorem occupancy_of_find? {table : TaskTable ω} {task : TaskHandle} {record : TaskRecord ω}
    (found : table.find? task = some record) :
    table.occupancy task.index = some (task.generation, true) := by
  rw [find?_eq_some_iff] at found
  simp [occupancy, found]

theorem find?_of_occupancy {table : TaskTable ω} {task : TaskHandle}
    (held : table.occupancy task.index = some (task.generation, true)) :
    ∃ record, table.find? task = some record := by
  obtain ⟨slot, there, same⟩ := Option.map_eq_some_iff.mp held
  obtain ⟨generation, full⟩ := Prod.mk.inj same
  obtain ⟨record, content⟩ := Option.isSome_iff_exists.mp full
  refine ⟨record, (find?_eq_some_iff table task record).mpr ?_⟩
  rw [there, ← generation, ← content]

theorem occupancy_update (table : TaskTable ω) (task : TaskHandle)
    (f : TaskRecord ω → TaskRecord ω) (index : Nat) :
    (table.update task f).occupancy index = table.occupancy index := by
  unfold occupancy TaskTable.update
  simp only [List.getElem?_modify]
  cases table.slots[index]? with
  | none => rfl
  | some slot =>
      by_cases here : task.index = index
      · by_cases current : slot.generation = task.generation
        · simp [here, Slot.update, current]
        · simp [here, Slot.update, current]
      · simp [here]

theorem occupancy_enqueue (table : TaskTable ω) (task : TaskHandle) (index : Nat) :
    (table.enqueue task).occupancy index = table.occupancy index := by
  unfold enqueue
  split <;> rfl

theorem occupancy_dequeue (table : TaskTable ω) (task : TaskHandle) (index : Nat) :
    (table.dequeue task).occupancy index = table.occupancy index := rfl

theorem occupancy_release {table : TaskTable ω} {task : TaskHandle} {record : TaskRecord ω}
    (found : table.find? task = some record) :
    (table.release task).occupancy task.index = some (task.generation + 1, false) := by
  rw [find?_eq_some_iff] at found
  simp [occupancy, release, found, Slot.release]

/-- A slot keeps its generation and its record, or is released. -/
def Lodges (table after : TaskTable ω) : Prop :=
  ∀ index generation live, table.occupancy index = some (generation, live) →
    (∃ still, after.occupancy index = some (generation, still) ∧ (live = true → still = true)) ∨
      live = true ∧ after.occupancy index = some (generation + 1, false)

theorem Lodges.of_same {table after : TaskTable ω}
    (same : ∀ index, after.occupancy index = table.occupancy index) : table.Lodges after := by
  intro index generation live held
  exact .inl ⟨live, (same index).trans held, id⟩

theorem Change.lodges {table after : TaskTable ω} {admits : Option TaskHandle}
    {brings : Option ω} (change : table.Change admits brings after) : table.Lodges after := by
  cases change with
  | nothing => exact .of_same fun _ => rfl
  | create work settings task _ taken =>
      intro index generation live held
      left
      rcases alloc_cases table after _ task taken with
        ⟨slotted, free, slot, stack, found, rfl, rfl⟩ | ⟨_, _, rfl, rfl⟩
      · by_cases here : slotted = index
        · subst here
          simp only [occupancy, found, Option.map_some, Option.some.injEq, Prod.mk.injEq] at held
          have inside := (List.getElem?_eq_some_iff.mp found).1
          exact ⟨true, by simp [occupancy, inside, held.1], fun _ => rfl⟩
        · exact ⟨live, by simpa [occupancy, here] using held, id⟩
      · obtain ⟨slot, there, _⟩ := Option.map_eq_some_iff.mp held
        have inside := (List.getElem?_eq_some_iff.mp there).1
        exact ⟨live, by simpa [occupancy, List.getElem?_append_left inside] using held, id⟩
  | configure task record settings found idle => exact .of_same fun _ => occupancy_update ..
  | retire task record found idle =>
      intro index generation live held
      by_cases here : task.index = index
      · subst here
        right
        cases (occupancy_of_find? found).symm.trans held
        exact ⟨rfl, occupancy_release found⟩
      · exact .inl ⟨live, by simpa [occupancy, TaskTable.release, here] using held, id⟩
  | insert task record start deadline found idle window =>
      exact .of_same fun _ => (occupancy_enqueue ..).trans (occupancy_update ..)
  | cancel task record found idle =>
      exact .of_same fun _ => (occupancy_dequeue ..).trans (occupancy_update ..)
  | complete task record found =>
      exact .of_same fun _ => (occupancy_dequeue ..).trans (occupancy_update ..)

theorem occupancy_visit (scan : Scan ω) (current : Ticks) (task : TaskHandle) (index : Nat) :
    (scan.visit current task).table.occupancy index = scan.table.occupancy index := by
  rcases Scan.visit_cases scan current task with same | ⟨_, _, _, _, given | moved⟩
  · rw [same]
  · rw [given, occupancy_dequeue, occupancy_update]
  · rw [moved, occupancy_update]

theorem occupancy_select (table : TaskTable ω) (current : Ticks) (index : Nat) :
    (table.select current).table.occupancy index = table.occupancy index := by
  have folded (entries : List TaskHandle) (scan : Scan ω) :
      (entries.foldl (Scan.visit current) scan).table.occupancy index =
        scan.table.occupancy index := by
    induction entries generalizing scan with
    | nil => rfl
    | cons entry rest ih => exact (ih _).trans (occupancy_visit scan current entry index)
  exact folded table.queue (.start table)

theorem occupancy_finish (table : TaskTable ω) (task : TaskHandle) (work : Option ω)
    (index : Nat) : (table.finish task work).2.occupancy index = table.occupancy index := by
  unfold finish
  split
  · rfl
  · split
    · exact (occupancy_dequeue ..).trans (occupancy_update ..)
    · exact occupancy_update ..

end TaskTable

theorem Worked.lodges {number : Nat} {clock : Ticks} {table after : TaskTable Work}
    {part : Section} {next : List Activity} (worked : Worked number clock table part after next) :
    table.Lodges after := by
  cases worked with
  | call part admits brings after called change asked made => exact change.lodges
  | idle | due => exact .of_same fun _ => TaskTable.occupancy_select ..
  | abandoned | refused | looked => exact .of_same fun _ => rfl
  | claimed wakes current task work claimed taken =>
      obtain ⟨_, _, _, _, _, rfl⟩ := TaskTable.claim_cases taken
      exact .of_same fun _ =>
        (TaskTable.occupancy_select ..).trans (TaskTable.occupancy_update ..)
  | finished | asked => exact .of_same fun _ => TaskTable.occupancy_finish ..
  | readmitted run startUs deadlineUs after change => exact change.lodges

theorem Worked.attached {number : Nat} {clock : Ticks} {table after : TaskTable Work}
    {part : Section} {next : List Activity} (worked : Worked number clock table part after next)
    (consistent : table.Consistent) {task : TaskHandle} {record : TaskRecord Work} {work : Work}
    (found : after.find? task = some record) (has : record.work = some work) :
    (table.find? task = none ∧ part.routine? = some work.routine) ∨
      ∃ earlier, table.find? task = some earlier ∧
        (earlier.work = some work ∨
          (Activity.enter number part).carries? = some (task, some work)) := by
  have changed {admits : Option TaskHandle} {brings : Option Work} {after : TaskTable Work}
      (change : table.Change admits brings after) (found : after.find? task = some record) :
      (table.find? task = none ∧ brings = some work) ∨
        ∃ earlier, table.find? task = some earlier ∧ earlier.work = some work := by
    have handled := change.handled consistent task
    rw [found] at handled
    cases here : table.find? task with
    | none => exact .inl ⟨rfl, (change.brought consistent here found).2.symm.trans has⟩
    | some earlier =>
        rw [here] at handled
        cases handled with
        | same | configured | queued | cancelled | completed => exact .inr ⟨_, rfl, has⟩
  -- A scan moves windows and cancels, but leaves every work where it is.
  have kept (current : Ticks) (table' : TaskTable Work) (consistent' : table'.Consistent)
      (found : (table'.select current).table.find? task = some record) :
      ∃ earlier, table'.find? task = some earlier ∧ earlier.work = some work := by
    obtain ⟨earlier, here, scanned⟩ :=
      TaskTable.find?_of_select consistent' current task record found
    exact ⟨earlier, here, scanned.work ▸ has⟩
  -- Only the record of the task that ran is given a work, the one the pass carried.
  have finished (run : Dispatch) (given : Option Work)
      (found : (table.finish run.task given).2.find? task = some record) :
      ∃ earlier, table.find? task = some earlier ∧
        (earlier.work = some work ∨ (run.task, given) = (task, some work)) := by
    rw [TaskTable.find?_finish] at found
    by_cases same : task = run.task
    · rw [if_pos same] at found
      obtain ⟨earlier, here, rfl⟩ := Option.map_eq_some_iff.mp found
      exact ⟨earlier, here, .inr (Prod.ext same.symm has)⟩
    · rw [if_neg same] at found
      exact ⟨record, found, .inl has⟩
  cases worked with
  | call part admits brings after called change asked made =>
      rcases changed change found with ⟨absent, brought⟩ | ⟨earlier, here, held⟩
      · exact .inl ⟨absent, made work brought⟩
      · exact .inr ⟨earlier, here, .inl held⟩
  | idle | due =>
      obtain ⟨earlier, here, held⟩ := kept clock table consistent found
      exact .inr ⟨earlier, here, .inl held⟩
  | abandoned | refused | looked => exact .inr ⟨record, found, .inl has⟩
  | claimed wakes current other given claimed taken =>
      obtain ⟨earlier, here, held⟩ := kept current claimed (consistent.claim taken) found
      rw [TaskTable.find?_claim taken] at here
      -- The task that was claimed has no work left to speak of.
      by_cases same : task = other
      · rw [if_pos same] at here
        obtain ⟨_, _, rfl⟩ := Option.map_eq_some_iff.mp here
        cases held
      · rw [if_neg same] at here
        exact .inr ⟨earlier, here, .inl held⟩
  | finished run given status =>
      obtain ⟨earlier, here, held | given⟩ := finished run given found
      · exact .inr ⟨earlier, here, .inl held⟩
      · exact .inr ⟨earlier, here, .inr (congrArg some given)⟩
  | asked run given startUs deadlineUs running =>
      obtain ⟨earlier, here, held | given⟩ := finished run given found
      · exact .inr ⟨earlier, here, .inl held⟩
      · exact .inr ⟨earlier, here, .inr (congrArg some given)⟩
  | readmitted run startUs deadlineUs after change =>
      rcases changed change found with ⟨_, brought⟩ | ⟨earlier, here, held⟩
      · cases brought
      · exact .inr ⟨earlier, here, .inl held⟩

theorem Worked.carried {number : Nat} {clock : Ticks} {table after : TaskTable Work}
    {part : Section} {next : List Activity} (worked : Worked number clock table part after next)
    {link : Activity} (member : link ∈ next) {task : TaskHandle} {work : Work}
    (carries : link.carries? = some (task, some work)) :
    part.isPass = true ∧
      ∃ record, table.find? task = some record ∧ record.work = some work := by
  cases worked with
  | claimed wakes current other given claimed taken =>
      cases List.mem_singleton.mp member
      obtain ⟨record, found, _, _, own, _⟩ := TaskTable.claim_cases taken
      cases carries
      exact ⟨rfl, record, found, own.symm⟩
  | idle | due | abandoned | finished | asked | refused | readmitted =>
      cases List.mem_singleton.mp member
      cases carries
  | call | looked => cases member

namespace Focus

def isVacant (focus : Focus) (index : Nat) : Bool :=
  focus.scheduler.any fun scheduler => scheduler.table.isVacant index

def inPass (focus : Focus) : Bool := focus.scheduler.any fun scheduler => scheduler.inPass

end Focus

/-- The works that the tasks of one scheduler were created with, and how often
each of its slots was freed in the pass under way. -/
structure History where
  created : TaskHandle → Option Work
  freed : Nat → Nat

namespace History

def start : History := ⟨fun _ => none, fun _ => 0⟩

def follow (history : History) (before after : Focus) : History where
  created task :=
    match before.record? task, after.record? task with
    | none, some record => record.work
    | _, _ => history.created task
  freed index :=
    if before.inPass then
      if !before.isVacant index && after.isVacant index then history.freed index + 1
      else history.freed index
    else 0

def Bounded (history : History) : Prop := ∀ index, history.freed index < 4294967296

/-- The task is one that was created with this work, some runs ago. -/
def Owns (history : History) (task : TaskHandle) (work : Work) : Prop :=
  ∃ origin, history.created task = some origin ∧ origin.Continues work

end History

/-- A machine that some run leads to, with the history of one scheduler in that run. -/
inductive Followed (number : Nat) : Machine → History → Prop where
  | boot (start : Ticks) : Followed number (.boot start) .start
  | start {machine : Machine} {history : History} (call : Call)
      (interposed : Nat → Option Script) :
      Followed number machine history → machine.agenda = [] →
      Followed number (machine.start call interposed) history
  | step {machine : Machine} {history : History} :
      Followed number machine history →
      (history.follow (machine.focus number) (machine.step.focus number)).Bounded →
      Followed number machine.step
        (history.follow (machine.focus number) (machine.step.focus number))

/-- How works can move in one step. A record has a work because it is new, had
it before or is given it back; a slot lodges its task or is released; and a link
carries what the link before did, perhaps one run later, or what it took out of
the table. -/
structure Transfer (before after : Focus) : Prop where
  attached : ∀ task record work, after.record? task = some record → record.work = some work →
    before.record? task = none ∨ ∃ earlier, before.record? task = some earlier ∧
      (earlier.work = some work ∨
        ∃ link ∈ before.duties, link.carries? = some (task, some work))
  lodged : ∀ held, before.scheduler = some held →
    ∃ later, after.scheduler = some later ∧ held.table.Lodges later.table
  carried : ∀ link ∈ after.duties, ∀ task work, link.carries? = some (task, some work) →
    before.inPass = true ∧
      ((∃ earlier ∈ before.duties, ∃ given, earlier.carries? = some (task, some given) ∧
          (work = given ∨ work = given.advance)) ∨
        ∃ record, before.record? task = some record ∧ record.work = some work)

theorem Activity.isLink_of_carries? {activity : Activity} {carried : TaskHandle × Option Work}
    (carries : activity.carries? = some carried) : activity.isLink = true := by
  cases activity with
  | acquire number part | enter number part =>
      cases part with
      | finish => rfl
      | _ => cases carries
  | execute | engage | returned => rfl
  | _ => cases carries

theorem Focus.Excluded.inPass_of_carries {focus : Focus} (excluded : focus.Excluded)
    {link : Activity} (member : link ∈ focus.duties) {carried : TaskHandle × Option Work}
    (carries : link.carries? = some carried) : focus.inPass = true := by
  have linked : link ∈ focus.duties.filter Activity.isLink :=
    List.mem_filter.mpr ⟨member, Activity.isLink_of_carries? carries⟩
  cases excluded with
  | absent _ unlinked | between _ _ _ unlinked =>
      rw [unlinked] at linked
      cases linked
  | during scheduler _ other busy => exact busy

/-- A link that carries a work carries on from one that was there before. -/
def Relays (before after : List Activity) : Prop :=
  ∀ link ∈ after, ∀ task work, link.carries? = some (task, some work) →
    ∃ other ∈ before, ∃ given, other.carries? = some (task, some given) ∧
      (work = given ∨ work = given.advance)

namespace Relays

variable {duties : List Activity}

theorem refl (duties : List Activity) : Relays duties duties := by
  intro link member task work carries
  exact ⟨link, member, work, carries, .inl rfl⟩

theorem tail (activity : Activity) (duties : List Activity) :
    Relays (activity :: duties) duties := by
  intro link member task work carries
  exact ⟨link, List.mem_cons_of_mem _ member, work, carries, .inl rfl⟩

theorem head {activity next : Activity}
    (handed : ∀ task work, next.carries? = some (task, some work) →
      ∃ given, activity.carries? = some (task, some given) ∧
        (work = given ∨ work = given.advance)) :
    Relays (activity :: duties) (next :: duties) := by
  intro link member task work carries
  rcases List.mem_cons.mp member with rfl | later
  · obtain ⟨given, carried, continued⟩ := handed task work carries
    exact ⟨activity, List.mem_cons_self, given, carried, continued⟩
  · exact ⟨link, List.mem_cons_of_mem _ later, work, carries, .inl rfl⟩

theorem blank {activity : Activity} (empty : activity.carries? = none) :
    Relays duties (activity :: duties) := by
  intro link member task work carries
  rcases List.mem_cons.mp member with rfl | later
  · rw [empty] at carries
    cases carries
  · exact ⟨link, later, work, carries, .inl rfl⟩

end Relays

theorem Transfer.of_same {before after : Focus} (excluded : before.Excluded)
    (kept : ∀ earlier, before.scheduler = some earlier →
      ∃ later, after.scheduler = some later ∧ later.table = earlier.table)
    (relays : Relays before.duties after.duties) : Transfer before after where
  attached task record work found has := by
    cases held : before.scheduler with
    | none => exact .inl (by rw [Focus.record?, held]; rfl)
    | some earlier =>
        obtain ⟨later, holds, same⟩ := kept earlier held
        rw [Focus.record?, holds] at found
        change later.table.find? task = some record at found
        rw [same] at found
        exact .inr ⟨record, by rw [Focus.record?, held]; exact found, .inl has⟩
  lodged scheduler there := by
    obtain ⟨later, holds, same⟩ := kept scheduler there
    exact ⟨later, holds, .of_same fun _ => by rw [same]⟩
  carried link member task work carries := by
    obtain ⟨other, there, given, carried, continued⟩ := relays link member task work carries
    exact ⟨excluded.inPass_of_carries there carried, .inl ⟨other, there, given, carried, continued⟩⟩

theorem Worked.transfer {number : Nat} {clock : Ticks} {before : Scheduler} (after : Scheduler)
    {part : Section} {duties next : List Activity}
    (worked : Worked number clock before.table part after.table next)
    (consistent : before.table.Consistent)
    (excluded : Focus.Excluded ⟨some before, .enter number part :: duties⟩) :
    Transfer ⟨some before, .enter number part :: duties⟩
      ⟨some after, .leave number :: (next ++ duties)⟩ where
  attached task record work found has := by
    rcases worked.attached consistent found has with ⟨absent, _⟩ | ⟨earlier, here, own | given⟩
    · exact .inl absent
    · exact .inr ⟨earlier, here, .inl own⟩
    · exact .inr ⟨earlier, here, .inr ⟨_, List.mem_cons_self, given⟩⟩
  lodged scheduler there := by
    cases there
    exact ⟨after, rfl, worked.lodges⟩
  carried link member task work carries := by
    rcases List.mem_cons.mp member with rfl | member
    · cases carries
    · rcases List.mem_append.mp member with made | rest
      · obtain ⟨pass, record, found, own⟩ := worked.carried made carries
        obtain ⟨held, same, busy, _⟩ := excluded.of_link pass
        cases same
        exact ⟨busy, .inr ⟨record, found, own⟩⟩
      · have there : link ∈ Activity.enter number part :: duties := List.mem_cons_of_mem _ rest
        exact ⟨excluded.inPass_of_carries there carries,
          .inl ⟨link, there, work, carries, .inl rfl⟩⟩

theorem Move.transfer {number : Nat} {clock : Ticks} {pipelines : Nat} {done : Option Activity}
    {before after : Focus} (move : Move number clock pipelines done before after)
    (sound : ∀ scheduler, before.scheduler = some scheduler → scheduler.TableSound)
    (excluded : before.Excluded) : Transfer before after := by
  have changed {earlier later : Scheduler} (same : later.table = earlier.table) (held : Scheduler)
      (there : some earlier = some held) :
      ∃ after, some later = some after ∧ after.table = held.table := by
    cases there
    exact ⟨later, rfl, same⟩
  have kept {scheduler : Option Scheduler} (held : Scheduler) (there : scheduler = some held) :
      ∃ after, scheduler = some after ∧ after.table = held.table :=
    ⟨held, there, rfl⟩
  cases move with
  | rest => exact .of_same excluded kept (.refl _)
  | setUp config executor duties valid =>
      exact .of_same excluded (fun _ there => nomatch there) (.refl _)
  | drop scheduler duties | coalesce scheduler duties busy =>
      exact .of_same excluded (changed rfl) (.refl _)
  | leave scheduler duties => exact .of_same excluded (changed rfl) (.tail _ _)
  | begin scheduler duties wakes idle => exact .of_same excluded (changed rfl) (.blank rfl)
  | ask scheduler duties part called =>
      have empty : (Activity.acquire number part).carries? = none := by
        cases part <;> first | rfl | cases called
      exact .of_same excluded kept (.blank empty)
  | acquire scheduler duties part =>
      refine .of_same excluded kept (.head ?_)
      intro task work carries
      rw [Activity.carries?_enter] at carries
      exact ⟨work, carries, .inl rfl⟩
  | enter scheduler duties part free =>
      obtain ⟨⟨table, statistics, issued, framed⟩, worked⟩ :=
        part.effect_done scheduler number clock pipelines
      rw [framed] at worked ⊢
      exact worked.transfer { scheduler with table, statistics, issued, locked := true }
        (sound scheduler rfl).consistent excluded
  | hand scheduler duties run work =>
      exact .of_same excluded (changed rfl)
        (.head fun _ given carries => ⟨given, carries, .inl rfl⟩)
  | skip scheduler duties run =>
      exact .of_same excluded (changed rfl) (.head fun _ _ carries => nomatch carries)
  | run scheduler duties run work turn verdict =>
      refine .of_same excluded kept (.head ?_)
      intro task given carries
      cases carries
      exact ⟨work, rfl, .inr rfl⟩
  | spare scheduler duties run work turn status =>
      exact .of_same excluded kept (.head fun _ given carries => ⟨given, carries, .inl rfl⟩)
  | back scheduler duties run work verdict script status =>
      exact .of_same excluded kept (.head fun _ given carries => ⟨given, carries, .inl rfl⟩)
  | conclude scheduler duties wakes outcome ended =>
      exact .of_same excluded (changed rfl) (.tail _ _)
  | lookUp scheduler duties outcome task next =>
      exact .of_same excluded (changed rfl) (.head fun _ _ carries => nomatch carries)
  | vanish duties activity duty =>
      exact .of_same excluded (fun _ there => nomatch there) (.tail _ _)

/-! With the slots bounded, a carried work comes back to its own task. -/

/-- The task that a pass carries the work of: it still lives and owns the work,
or its slot was freed since. -/
inductive Lent (focus : Focus) (history : History) (task : TaskHandle) (work : Work) : Prop where
  | kept (record : TaskRecord Work) (found : focus.record? task = some record)
      (owns : history.Owns task work)
  | gone (scheduler : Scheduler) (held : focus.scheduler = some scheduler) (times : Nat)
      (live : Bool) (freed : 0 < times) (counted : times ≤ history.freed task.index)
      (moved : scheduler.table.occupancy task.index =
        some (task.generation + UInt32.ofNat times, live))

structure Owned (focus : Focus) (history : History) : Prop where
  attached : ∀ task record work, focus.record? task = some record → record.work = some work →
    history.Owns task work
  carried : ∀ link ∈ focus.duties, ∀ task work, link.carries? = some (task, some work) →
    Lent focus history task work

theorem History.created_follow (history : History) (before after : Focus) (task : TaskHandle)
    (record : TaskRecord Work) (found : before.record? task = some record) :
    (history.follow before after).created task = history.created task := by
  simp only [follow, found]

theorem History.created_new (history : History) (before after : Focus) (task : TaskHandle)
    (record : TaskRecord Work) (absent : before.record? task = none)
    (found : after.record? task = some record) :
    (history.follow before after).created task = record.work := by
  simp only [follow, absent, found]

theorem History.freed_follow_le (history : History) (before after : Focus) (index : Nat)
    (busy : before.inPass = true) :
    history.freed index ≤ (history.follow before after).freed index := by
  simp only [follow, busy, if_true]
  split
  · exact Nat.le_succ _
  · exact Nat.le_refl _

theorem History.freed_follow_le_succ (history : History) (before after : Focus) (index : Nat) :
    (history.follow before after).freed index ≤ history.freed index + 1 := by
  simp only [follow]
  split
  · split
    · exact Nat.le_refl _
    · exact Nat.le_succ _
  · exact Nat.zero_le _

theorem History.freed_follow_released (history : History) (before after : Focus) (index : Nat)
    (busy : before.inPass = true) (held : before.isVacant index = false)
    (released : after.isVacant index = true) :
    (history.follow before after).freed index = history.freed index + 1 := by
  simp [follow, busy, held, released]

theorem generation_apart (generation : UInt32) (times : Nat) (freed : 0 < times)
    (bounded : times < 4294967296) : generation + UInt32.ofNat times ≠ generation := by
  intro same
  have none : UInt32.ofNat times = 0 := by simpa using same
  have zero := congrArg UInt32.toNat none
  simp only [UInt32.toNat_ofNat', UInt32.toNat_zero] at zero
  omega

theorem Lent.advance {focus : Focus} {history : History} {task : TaskHandle} {work : Work}
    (lent : Lent focus history task work) : Lent focus history task work.advance := by
  cases lent with
  | kept record found owns =>
      obtain ⟨origin, made, continues⟩ := owns
      exact .kept record found ⟨origin, made, continues.advance⟩
  | gone scheduler held times live freed counted moved =>
      exact .gone scheduler held times live freed counted moved

theorem Lent.owns {focus : Focus} {history : History} {task : TaskHandle} {work : Work}
    (lent : Lent focus history task work) (bounded : history.Bounded)
    (record : TaskRecord Work) (found : focus.record? task = some record) :
    history.Owns task work := by
  cases lent with
  | kept _ _ owns => exact owns
  | gone scheduler held times live freed counted moved =>
      rw [Focus.record?, held] at found
      have lodged : scheduler.table.occupancy task.index = some (task.generation, true) :=
        TaskTable.occupancy_of_find? found
      rw [moved] at lodged
      have same := (Prod.mk.inj (Option.some.inj lodged)).1
      exact absurd same
        (generation_apart _ times freed (Nat.lt_of_le_of_lt counted (bounded task.index)))

/-- During a pass, slots are released one generation at a time, and counted. -/
theorem Lent.follow {before after : Focus} {history : History} {task : TaskHandle} {work : Work}
    (lent : Lent before history task work) (busy : before.inPass = true)
    (transfer : Transfer before after) : Lent after (history.follow before after) task work := by
  have vacancy {focus : Focus} {scheduler : Scheduler} (held : focus.scheduler = some scheduler)
      {generation : UInt32} {live : Bool}
      (lodged : scheduler.table.occupancy task.index = some (generation, live)) :
      focus.isVacant task.index = !live := by
    rw [Focus.isVacant, held, Option.any_some, TaskTable.isVacant_eq_occupancy, lodged]
    rfl
  have least := history.freed_follow_le before after task.index busy
  cases lent with
  | kept record found owns =>
      obtain ⟨held, there, here⟩ := Option.bind_eq_some_iff.mp found
      obtain ⟨later, holds, lodges⟩ := transfer.lodged held there
      have lodged := TaskTable.occupancy_of_find? here
      -- Either the task lives on in its slot, or this step freed the slot for the first time.
      rcases lodges _ _ _ lodged with ⟨still, stays, lives⟩ | ⟨_, released⟩
      · rw [lives rfl] at stays
        obtain ⟨record', found'⟩ := TaskTable.find?_of_occupancy stays
        have owns' : (history.follow before after).Owns task work := by
          rw [History.Owns, history.created_follow before after task record found]
          exact owns
        exact .kept record' (by rw [Focus.record?, holds]; exact found') owns'
      · have counted := history.freed_follow_released before after task.index busy
          (vacancy there lodged) (vacancy holds released)
        exact .gone later holds 1 false Nat.one_pos (by omega) released
  | gone held there times live freed counted moved =>
      obtain ⟨later, holds, lodges⟩ := transfer.lodged held there
      -- Each time the slot is freed it moves on by one generation, and is counted once.
      rcases lodges _ _ _ moved with ⟨still, stays, _⟩ | ⟨rfl, released⟩
      · exact .gone later holds times still freed (Nat.le_trans counted least) stays
      · have once := history.freed_follow_released before after task.index busy
          (vacancy there moved) (vacancy holds released)
        refine .gone later holds (times + 1) false (Nat.succ_pos _) (by omega) ?_
        rw [released, UInt32.ofNat_add, UInt32.add_assoc]
        rfl

theorem Owned.follow {before after : Focus} {history : History} (owned : Owned before history)
    (bounded : history.Bounded) (transfer : Transfer before after) :
    Owned after (history.follow before after) where
  attached task record work found has := by
    rcases transfer.attached task record work found has with
      absent | ⟨earlier, here, own | ⟨link, member, given⟩⟩
    · refine ⟨work, ?_, .refl work⟩
      rw [history.created_new before after task record absent found, has]
    · rw [History.Owns, history.created_follow before after task earlier here]
      exact owned.attached task earlier work here own
    · rw [History.Owns, history.created_follow before after task earlier here]
      exact (owned.carried link member task work given).owns bounded earlier here
  carried link member task work carries := by
    obtain ⟨busy, ⟨earlier, there, given, carried, continued⟩ | ⟨record, found, own⟩⟩ :=
      transfer.carried link member task work carries
    · have lent := owned.carried earlier there task given carried
      rcases continued with rfl | rfl
      · exact lent.follow busy transfer
      · exact lent.advance.follow busy transfer
    · have kept := Lent.kept record found (owned.attached task record work found own)
      exact kept.follow busy transfer

namespace Followed

variable {number : Nat} {machine : Machine} {history : History}

theorem reachable (followed : Followed number machine history) : machine.Reachable := by
  induction followed with
  | boot start => exact .boot start
  | start call interposed _ rest ih => exact .start call interposed ih rest
  | step _ _ ih => exact .step ih

theorem bounded (followed : Followed number machine history) : history.Bounded := by
  induction followed with
  | boot start =>
      intro index
      exact Nat.zero_lt_succ _
  | start call interposed _ rest ih => exact ih
  | step _ bounded _ => exact bounded

theorem owned (followed : Followed number machine history) :
    Owned (machine.focus number) history := by
  induction followed with
  | boot start =>
      constructor
      · intro task record work found
        cases found
      · intro link member
        cases member
  | @start machine history call interposed _ rest ih =>
      rw [machine.focus_start call interposed number rest]
      exact ih
  | @step machine history before _ ih =>
      have sound (scheduler : Scheduler)
          (held : (machine.focus number).scheduler = some scheduler) :
          scheduler.TableSound := before.reachable.tableSound held
      obtain ⟨done, _, moves⟩ := machine.step_moves number
      exact ih.follow before.bounded (moves.transfer sound (before.reachable.excluded number))

end Followed

/-- Some run leads here in which no slot was freed more than `count` times in the
pass under way. -/
def Tracked (number : Nat) (machine : Machine) (count : Nat) : Prop :=
  ∃ history, Followed number machine history ∧ ∀ index, history.freed index ≤ count

namespace Tracked

variable {number count : Nat} {machine : Machine}

theorem boot (number : Nat) (start : Ticks) : Tracked number (.boot start) 0 :=
  ⟨.start, .boot start, fun _ => Nat.le_refl 0⟩

theorem start (tracked : Tracked number machine count) (call : Call)
    (interposed : Nat → Option Script) (rest : machine.agenda = []) :
    Tracked number (machine.start call interposed) count := by
  obtain ⟨history, followed, bound⟩ := tracked
  exact ⟨history, followed.start call interposed rest, bound⟩

theorem step (tracked : Tracked number machine count) (room : count + 1 < 4294967296) :
    Tracked number machine.step (count + 1) := by
  obtain ⟨history, followed, bound⟩ := tracked
  have least (index : Nat) : (history.follow (machine.focus number)
      (machine.step.focus number)).freed index ≤ count + 1 := by
    have once :=
      history.freed_follow_le_succ (machine.focus number) (machine.step.focus number) index
    have before := bound index
    omega
  refine ⟨_, followed.step fun index => ?_, least⟩
  have small := least index
  omega

theorem run (tracked : Tracked number machine count) (fuel : Nat)
    (room : count + fuel < 4294967296) : Tracked number (machine.run fuel) (count + fuel) := by
  induction fuel generalizing machine count with
  | zero => exact tracked
  | succ fuel ih =>
      have stepped := tracked.step (by omega)
      have ran := ih stepped (by omega)
      rw [Machine.run_succ]
      exact (by omega : count + 1 + fuel = count + (fuel + 1)) ▸ ran

end Tracked

end EdfKernel
