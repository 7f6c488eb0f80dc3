import EdfKernel.Proofs.Candidates
import EdfKernel.Proofs.Lapses

/-!
Where a lapse comes from. A pass that ends with nothing to wake for had a scan
that chose nothing, and whatever is queued at its end was passed over by that
scan, since whoever queues a task later raises the line.
-/

namespace EdfKernel

namespace Section

inductive Scans (scheduler : Scheduler) (clock : Ticks) :
    Section → Ticks → TaskTable Work → Prop where
  | first (wakes : Bool) : Scans scheduler clock (.select wakes) clock scheduler.table
  | second (wakes : Bool) (current : Ticks) (task : TaskHandle) (work : Option Work)
      (table : TaskTable Work) (claimed : scheduler.table.claim current task = some (work, table)) :
      Scans scheduler clock (.dispatch wakes current task) current table

def next? : Section → Option (Option TaskHandle)
  | finish run _ _ | reinsert run _ _ => some run.next
  | _ => none

end Section

namespace Activity

def next? : Activity → Option (Option TaskHandle)
  | acquire _ part | enter _ part => part.next?
  | execute _ run _ | engage _ run _ _ | returned _ run _ _ _ => some run.next
  | conclude _ _ outcome => some outcome.next
  | _ => none

theorem isLink_of_next? {activity : Activity} {next : Option TaskHandle}
    (ends : activity.next? = some next) : activity.isLink = true := by
  cases activity with
  | acquire number part | enter number part =>
      cases part with
      | finish | reinsert => rfl
      | _ => cases ends
  | execute | engage | returned | conclude => rfl
  | _ => cases ends

end Activity

namespace Effect

variable (scheduler : Scheduler) (number : Nat)

theorem select_barren (clock : Ticks) (wakes : Bool) {link : Activity}
    (member : link ∈ (select scheduler number clock wakes).next)
    (ends : link.next? = some none) :
    (scheduler.table.select clock).selection.next = none ∧
      (select scheduler number clock wakes).scheduler.table =
        (scheduler.table.select clock).table := by
  simp only [select] at member ⊢
  split at member
  case h_1 unfound =>
    constructor
    · cases next : (scheduler.table.select clock).selection.next with
      | none => rfl
      | some task =>
          obtain ⟨record, found⟩ := scheduler.table.select_next_found clock next
          simp [next, found] at unfound
    · rfl
  case h_2 task start _ =>
    split at member
    · cases List.mem_singleton.mp member
      cases ends
    · cases List.mem_singleton.mp member
      cases ends

theorem dispatch_barren (wakes : Bool) (current : Ticks) (task : TaskHandle) {link : Activity}
    (member : link ∈ (dispatch scheduler number wakes current task).next)
    (ends : link.next? = some none) :
    (dispatch scheduler number wakes current task).requests = true ∨
      ∃ work table, scheduler.table.claim current task = some (work, table) ∧
        (table.select current).selection.next = none ∧
        (dispatch scheduler number wakes current task).scheduler.table =
          (table.select current).table := by
  cases taken : scheduler.table.claim current task with
  | none =>
      left
      simp only [dispatch, taken]
  | some pair =>
      right
      obtain ⟨work, table⟩ := pair
      simp only [dispatch, taken] at member ⊢
      cases List.mem_singleton.mp member
      exact ⟨work, table, rfl, Option.some.inj ends, rfl⟩

end Effect

namespace Section

variable (part : Section) (scheduler : Scheduler) (number : Nat) (clock : Ticks) (pipelines : Nat)

theorem next?_of_isCall (called : part.isCall = true) {link : Activity}
    (member : link ∈ (part.effect scheduler number clock pipelines).next) :
    link.next? = none := by
  rcases part.next_duties scheduler number clock pipelines link member with
    mine | ⟨pipeline, rfl⟩
  · have worked := (part.effect_done scheduler number clock pipelines).worked
    have duty : link ∈ (part.effect scheduler number clock pipelines).next.filter
        fun activity => activity.isDuty number :=
      List.mem_filter.mpr ⟨member, by simp [Activity.isDuty, mine]⟩
    generalize (part.effect scheduler number clock pipelines).next.filter
      (fun activity => activity.isDuty number) = next at worked duty
    generalize (part.effect scheduler number clock pipelines).scheduler.table = changed at worked
    cases worked with
    | call => cases duty
    | _ => cases called
  · rfl

/-- A pass that is left with nothing to wake for knew so before this section, or
is asked for again, or just scanned in vain. -/
theorem next?_effect {link : Activity}
    (member : link ∈ (part.effect scheduler number clock pipelines).next)
    (ends : link.next? = some none) :
    part.next? = some none ∨ (part.effect scheduler number clock pipelines).requests = true ∨
      ∃ current table, part.Scans scheduler clock current table ∧
        (table.select current).selection.next = none ∧
        (part.effect scheduler number clock pipelines).scheduler.table =
          (table.select current).table := by
  cases part with
  | select wakes =>
      right
      right
      obtain ⟨barren, table⟩ := Effect.select_barren scheduler number clock wakes member ends
      exact ⟨clock, scheduler.table, .first wakes, barren, table⟩
  | dispatch wakes current task =>
      right
      rcases Effect.dispatch_barren scheduler number wakes current task member ends with
        requests | ⟨work, table, claimed, barren, same⟩
      · exact .inl requests
      · exact .inr ⟨current, table, .second wakes current task work table claimed, barren, same⟩
  | finish run work status =>
      left
      simp only [effect, Effect.finish] at member
      split at member
      · split at member
        · cases List.mem_singleton.mp member
          exact ends
        · cases List.mem_singleton.mp member
          exact ends
      · cases List.mem_singleton.mp member
        exact ends
  | reinsert run startUs deadlineUs =>
      left
      simp only [effect, Effect.reinsert] at member
      split at member
      · cases List.mem_singleton.mp member
        exact ends
      · cases List.mem_singleton.mp member
        exact ends
  | wake outcome task =>
      simp only [effect, Effect.wake] at member
      split at member
      · cases member
      · split at member
        · cases member
        · cases member
  | _ =>
      rw [next?_of_isCall _ scheduler number clock pipelines rfl member] at ends
      cases ends

end Section

theorem Move.next? {number : Nat} {clock : Ticks} {pipelines : Nat} {done : Option Activity}
    {before after : Focus} (move : Move number clock pipelines done before after)
    {link : Activity} (member : link ∈ after.duties) (ends : link.next? = some none) :
    (∃ other ∈ before.duties, other.next? = some none) ∨
      ∃ part scheduler, done = some (.enter number part) ∧
        before.scheduler = some scheduler ∧ scheduler.locked = false ∧
        link ∈ (part.effect scheduler number clock pipelines).next := by
  have blank {activity : Activity} {duties : List Activity} (empty : activity.next? = none)
      (member : link ∈ activity :: duties) : link ∈ duties := by
    rcases List.mem_cons.mp member with rfl | later
    · rw [empty] at ends
      cases ends
    · exact later
  -- The link in front hands on what it will wake for.
  have handed {first next : Activity} {duties : List Activity}
      (member : link ∈ next :: duties) (same : next.next? = first.next?) :
      ∃ other ∈ first :: duties, other.next? = some none := by
    rcases List.mem_cons.mp member with rfl | later
    · exact ⟨first, List.mem_cons_self, same ▸ ends⟩
    · exact ⟨link, List.mem_cons_of_mem _ later, ends⟩
  cases move with
  | rest | setUp | drop | coalesce => exact .inl ⟨link, member, ends⟩
  | begin => exact .inl ⟨link, blank rfl member, ends⟩
  | ask scheduler duties part called =>
      have empty : (Activity.acquire number part).next? = none := by
        cases part <;> first | rfl | cases called
      exact .inl ⟨link, blank empty member, ends⟩
  | acquire scheduler duties part => exact .inl (handed member rfl)
  | enter scheduler duties part free =>
      rcases List.mem_append.mp (blank rfl member) with made | later
      · exact .inr ⟨part, scheduler, rfl, rfl, free, (List.mem_filter.mp made).1⟩
      · exact .inl ⟨link, List.mem_cons_of_mem _ later, ends⟩
  | leave | conclude | vanish => exact .inl ⟨link, List.mem_cons_of_mem _ member, ends⟩
  | hand | skip | run | spare | back => exact .inl (handed member rfl)
  | lookUp => exact .inl ⟨link, List.mem_cons_of_mem _ (blank rfl member), ends⟩

namespace Machine

/-- The scan that the pass in front of `first` is about to make on `table`, for the
instant `current`, and all that came of it up to this machine: it chose nothing, its
pass is still under way, and what is queued now was passed over then. -/
structure Barren (config : SchedulerConfig) (first machine : Machine) (current : Ticks)
    (table : TaskTable Work) : Prop where
  driven : Driven (fun machine => ¬ machine.Lapse config) config first
  scans : ∃ scheduler part rest, first.scheduler? 0 = some scheduler ∧
    scheduler.locked = false ∧ first.agenda = .enter 0 part :: rest ∧
    part.Scans scheduler first.clock current table
  barren : (table.select current).selection.next = none
  later : ∃ steps, machine = first.run (steps + 1) ∧
    ∀ earlier, earlier ≤ steps + 1 → ∃ scheduler,
      (first.run earlier).scheduler? 0 = some scheduler ∧ scheduler.inPass = true
  queued : ∀ task record, (machine.focus 0).record? task = some record →
    record.state = .queued →
    ∃ earlier, table.find? task = some earlier ∧ earlier.state = .queued ∧
      earlier.timing.isPassedOver current = true

end Machine

namespace Tended

variable {machine : Machine} {config : SchedulerConfig}

theorem step_queued (tended : Tended machine config) (reachable : machine.Reachable)
    {task : TaskHandle} {record : TaskRecord Work}
    (found : (machine.step.focus 0).record? task = some record) (queued : record.state = .queued) :
    (∃ earlier, (machine.focus 0).record? task = some earlier ∧ earlier.state = .queued) ∨
      machine.step.Signals config := by
  obtain ⟨first, alone, _⟩ := tended.scheduler?
  obtain ⟨done, comes, move⟩ := machine.step_moves 0
  obtain ⟨scheduler, there, here⟩ := Option.bind_eq_some_iff.mp found
  have before (record : TaskRecord Work) (held : first.table.find? task = some record) :
      (machine.focus 0).record? task = some record := by
    rw [Focus.record?, show (machine.focus 0).scheduler = some first from alone]
    exact held
  rcases move.table_cases scheduler there with
    ⟨absent, _⟩ | ⟨earlier, held, _, same | ⟨part, next, rfl, _⟩⟩
  · cases absent.symm.trans (alone : (machine.focus 0).scheduler = some first)
  · cases held.symm.trans (alone : (machine.focus 0).scheduler = some first)
    exact .inl ⟨record, before record (same ▸ here), queued⟩
  · obtain ⟨rest, agenda⟩ := comes _ rfl
    have free : first.locked = false := by
      generalize focused : machine.focus 0 = focus at move
      generalize machine.step.focus 0 = changed at move
      cases move with
      | enter scheduler duties part free =>
          cases (congrArg Focus.scheduler focused).symm.trans alone
          exact free
      | vanish => cases (congrArg Focus.scheduler focused).symm.trans alone
    obtain ⟨stepped, _⟩ := Machine.step_enter machine 0 part rest first agenda alone free
    cases stepped.symm.trans there
    have consistent := (reachable.tableSound alone).consistent
    rcases part.queued_effect first 0 machine.clock machine.pipelines.length consistent here
      queued with ⟨earlier, waiting, state⟩ | requests
    · exact .inl ⟨earlier, before earlier waiting, state⟩
    · exact .inr (tended.enter_signals_of_effect agenda alone free (.inl requests))

end Tended

namespace Machine

variable {machine : Machine} {config : SchedulerConfig}

/-- What a scan in vain leaves stays so until the end of its pass or a signal. -/
theorem Barren.step {first : Machine} {current : Ticks} {table : TaskTable Work}
    (barren : Barren config first machine current table) (tended : Tended machine config)
    (reachable : machine.Reachable) (quiet : ¬ machine.step.Signals config)
    (during : ∃ scheduler, machine.step.scheduler? 0 = some scheduler ∧
      scheduler.inPass = true) : Barren config first machine.step current table where
  driven := barren.driven
  scans := barren.scans
  barren := barren.barren
  later := by
    obtain ⟨steps, same, before⟩ := barren.later
    have next : machine.step = first.run (steps + 1 + 1) := by
      rw [run_add, ← same, run_succ, run]
    refine ⟨steps + 1, next, ?_⟩
    intro earlier within
    rcases Nat.lt_or_eq_of_le within with less | last
    · exact before earlier (Nat.le_of_lt_succ less)
    · rw [last, ← next]
      exact during
  queued := by
    intro task record found queued
    rcases tended.step_queued reachable found queued with ⟨earlier, here, waiting⟩ | signals
    · exact barren.queued task earlier here waiting
    · exact absurd signals quiet

theorem Driven.scanned (driven : Driven (fun machine => ¬ machine.Lapse config) config machine)
    {part : Section} {rest : List Activity} {scheduler : Scheduler} {current : Ticks}
    {table : TaskTable Work} (agenda : machine.agenda = .enter 0 part :: rest)
    (found : machine.scheduler? 0 = some scheduler) (free : scheduler.locked = false)
    (scans : part.Scans scheduler machine.clock current table)
    (nothing : (table.select current).selection.next = none)
    (selected : (part.effect scheduler 0 machine.clock machine.pipelines.length).scheduler.table =
      (table.select current).table) : Barren config machine machine.step current table := by
  have reachable := driven.reachable
  obtain ⟨stepped, _⟩ := step_enter machine 0 part rest scheduler agenda found free
  have sound := (reachable.tableSound found).consistent
  have linked : (Activity.enter 0 part).isLink = true := by
    cases scans <;> rfl
  have busy : scheduler.inPass = true := by
    apply reachable.inPass_of_mem found _ linked
    rw [duties_cons agenda rfl]
    exact List.mem_cons_self
  constructor
  case driven => exact driven
  case scans => exact ⟨scheduler, part, rest, found, free, agenda, scans⟩
  case barren => exact nothing
  case later =>
    refine ⟨0, (run_succ machine 0).symm, ?_⟩
    intro earlier within
    rcases Nat.le_one_iff_eq_zero_or_eq_one.mp within with rfl | rfl
    · exact ⟨scheduler, found, busy⟩
    · obtain ⟨⟨_, _, _, framed⟩, _⟩ :=
        part.effect_done scheduler 0 machine.clock machine.pipelines.length
      refine ⟨_, (congrArg (scheduler? · 0) (run_succ machine 0)).trans stepped, ?_⟩
      rw [framed]
      exact busy
  case queued =>
    intro task record here queued
    obtain ⟨held, holds, there⟩ := Option.bind_eq_some_iff.mp here
    cases stepped.symm.trans holds
    dsimp only at there
    rw [selected] at there
    have consistent : table.Consistent := by
      cases scans with
      | first => exact sound
      | second wakes current task work table claimed => exact sound.claim claimed
    -- Whoever is still queued after the scan was so before it, and was no candidate.
    obtain ⟨earlier, before, scanned⟩ :=
      TaskTable.find?_of_select consistent current task record there
    have waiting := scanned.queued queued
    have passed := (TaskTable.select_next_eq_none_iff consistent.queueAgrees current).mp nothing
    exact ⟨earlier, before, waiting, passed task earlier before waiting⟩

/-- A pass that is left with nothing to wake for was asked for again since, or
scanned in vain. -/
theorem Driven.barren (driven : Driven (fun machine => ¬ machine.Lapse config) config machine)
    {link : Activity} (member : link ∈ machine.duties 0) (ends : link.next? = some none) :
    machine.Signals config ∨ ∃ first current table, Barren config first machine current table := by
  induction driven generalizing link with
  | setUp start executor valid gentle =>
      have set : Driven (fun machine => ¬ machine.Lapse config) config
          (alone start config executor) := .setUp start executor valid gentle
      obtain ⟨scheduler, found, _⟩ := set.tended.scheduler?
      have busy := set.reachable.inPass_of_mem found member (Activity.isLink_of_next? ends)
      obtain ⟨config, executor, rfl⟩ := alone_scheduler? start executor found
      cases busy
  | start call interposed gentle interposes _ rest ih => cases member
  | @step machine before kept ih =>
      have tended := before.tended
      have reachable := before.reachable
      have linked := Activity.isLink_of_next? ends
      obtain ⟨scheduler, found, _⟩ := (Driven.step before kept).tended.scheduler?
      have during : ∃ scheduler, machine.step.scheduler? 0 = some scheduler ∧
          scheduler.inPass = true :=
        ⟨scheduler, found, reachable.step.inPass_of_mem found member linked⟩
      -- Without a signal afterwards there was none before: the pass was under way already.
      by_cases quiet : machine.step.Signals config
      · exact .inl quiet
      · have carried {other : Activity} (there : other ∈ machine.duties 0)
            (same : other.next? = some none) :
            ∃ first current table, Barren config first machine.step current table := by
          rcases ih there same with signals | ⟨first, current, table, barren⟩
          · rcases tended.step_signals signals with still | ⟨idle, _⟩
            · exact absurd still quiet
            · obtain ⟨earlier, here, _⟩ := tended.scheduler?
              have busy := reachable.inPass_of_mem here there (Activity.isLink_of_next? same)
              rw [idle earlier here] at busy
              cases busy
          · exact ⟨first, current, table, barren.step tended reachable quiet during⟩
        obtain ⟨done, comes, move⟩ := machine.step_moves 0
        rcases move.next? member ends with
          ⟨other, there, same⟩ | ⟨part, held, rfl, holds, free, made⟩
        · exact .inr (carried there same)
        · obtain ⟨rest, agenda⟩ := comes _ rfl
          rcases part.next?_effect held 0 machine.clock machine.pipelines.length made ends with
            same | requests | ⟨current, table, scans, nothing, selected⟩
          · have there : Activity.enter 0 part ∈ machine.duties 0 := by
              rw [duties_cons agenda rfl]
              exact List.mem_cons_self
            exact .inr (carried there same)
          · exact .inl (tended.enter_signals_of_effect agenda holds free (.inl requests))
          · exact .inr ⟨machine, current, table,
              before.scanned agenda holds free scans nothing selected⟩

/-- Along a run of one scheduler that nobody meddles with, a queued task has a signal
or a pass at hand up to the first lapse, and a lapse is where it loses them: a run
ends whose candidate was withdrawn, or whose last scan passed over every task that
is now in the queue. -/
theorem wakeup_lost_iff_lapse
    (driven : Driven (fun machine => ¬ machine.Lapse config) config machine) :
    machine.Attended config ∧
      (machine.agenda = [] → ∀ scheduler, machine.scheduler? 0 = some scheduler →
        scheduler.table.HasQueued → machine.Signals config) ∧
      (machine.step.Attended config ↔ ¬ machine.Lapse config) ∧
      ∀ outcome rest, machine.Lapse config →
        machine.agenda = .conclude 0 true outcome :: rest →
        ∃ first current table, Barren config first machine current table := by
  have attended := driven.attended
  refine ⟨attended, ?_, ?_, ?_⟩
  · intro rest scheduler found queued
    have idle := driven.reachable.idle_of_rest found rest
    rcases attended scheduler found queued with signals | busy | looks
    · exact signals
    · rw [idle] at busy
      cases busy
    · rw [rest] at looks
      cases looks
  · constructor
    · exact fun still lapse => lapse.not_attended still
    · exact driven.tended.step_attended driven.reachable attended
  · intro outcome rest lapse agenda
    obtain ⟨scheduler, behind, found, ends, queued, quiet, _⟩ := lapse
    have there : Activity.conclude 0 true outcome ∈ machine.duties 0 := by
      rw [duties_cons agenda rfl]
      exact List.mem_cons_self
    cases ends with
    | idle other same none =>
        cases agenda.symm.trans same
        rcases driven.barren there (congrArg some none) with signals | barren
        · exact absurd signals quiet
        · exact barren
    | withdrawn _ _ same => cases agenda.symm.trans same

def plain : SchedulerConfig := ⟨1000000, 0, 7, 32⟩

/-- A scheduler with two tasks in its queue that are both too late. -/
def overdue : Machine :=
  let create : Call := .scheduler 0 (.create [] .default)
  let insert (index : Nat) : Call := .scheduler 0 (.insert (some ⟨index, 0⟩) 0 10)
  let quiet : Nat → Option Script := fun _ => none
  let made := ((alone 0 plain .inline).exec 4 create quiet).exec 4 create quiet
  ((made.exec 4 (insert 0) quiet).exec 4 (insert 1) quiet).exec 1
    (.platform (.advanceClock 25)) quiet

theorem overdue_driven :
    Driven (fun machine => ¬ machine.Lapse plain) plain overdue := by
  have asks (call : SchedulerCall Call) (through : call.isBarePass = false)
      (none : call.turns = []) : Call.Gentle false (.scheduler 0 call) := by
    refine .scheduler false 0 call (by simp [through]) ?_
    intro turn member
    rw [none] at member
    cases member
  have clock : Call.Gentle false (.platform (.advanceClock 25)) := .platform false _ rfl
  refine .exec_calm ?_ clock rfl 1 (by decide)
  refine .exec_calm ?_ (asks _ rfl rfl) rfl 4 (by decide)
  refine .exec_calm ?_ (asks _ rfl rfl) rfl 4 (by decide)
  refine .exec_calm ?_ (asks _ rfl rfl) rfl 4 (by decide)
  refine .exec_calm ?_ (asks _ rfl rfl) rfl 4 (by decide)
  exact .setUp 0 .inline rfl trivial

/-- The scheduler's run is about to end: one task was given up, the other was moved. -/
def stranding : Machine := (overdue.start (.platform .step) fun _ => none).run 14

theorem stranding_lapses :
    stranding.Lapse plain ∧ ¬ stranding.step.Attended plain ∧
      ∃ first current table, Barren plain first stranding current table := by
  have driven : Driven (fun machine => ¬ machine.Lapse plain) plain stranding :=
    overdue_driven.exec_calm (.platform false .step rfl) rfl 14 (by decide)
  have lapse : stranding.Lapse plain := by
    refine ⟨_, _, rfl, .idle _ rfl rfl, ⟨⟨1, 0⟩, _, rfl, rfl⟩, ?_, rfl⟩
    rintro (pending | ⟨arming, armed, _⟩)
    · cases pending
    · cases armed
  obtain ⟨_, _, kept, vain⟩ := wakeup_lost_iff_lapse driven
  exact ⟨lapse, fun attended => kept.mp attended lapse, vain _ _ lapse rfl⟩

/-- Once the step is over, nothing will make a pass look at the task that was moved. -/
theorem overdue_task_stranded :
    ¬ ∀ (config : SchedulerConfig) (machine : Machine),
      Driven (fun _ => True) config machine → machine.agenda = [] →
      ∀ scheduler, machine.scheduler? 0 = some scheduler → scheduler.table.HasQueued →
      machine.Signals config := by
  intro law
  have driven : Driven (fun _ => True) plain overdue :=
    overdue_driven.mono fun _ _ => trivial
  have started := driven.start (.platform .step) (fun _ => none) (.platform false .step rfl)
    (by simp) rfl
  have ended := started.run 80 fun _ _ => trivial
  rcases law _ _ ended rfl _ rfl ⟨⟨1, 0⟩, _, rfl, rfl⟩ with pending | ⟨arming, armed, _⟩
  · cases pending
  · cases armed

end Machine

end EdfKernel
