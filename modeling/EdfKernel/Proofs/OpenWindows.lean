import EdfKernel.Proofs.TableInvariant

/-!
A queued task has a window with a tick in it. A window is chosen in three places: an
insertion refuses one without a tick, a late task is moved to one that fits before the end
of the ticks, and a task that is taken out of the queue is no longer queued while its start
is another. The sums and differences in between stop at the end of the range; the bounds
that keep the inequality strict are stated in natural numbers.
-/

namespace EdfKernel

namespace Timing

def IsOpen (timing : Timing) : Prop := timing.start < timing.deadline

theorem isOpen_iff (timing : Timing) :
    timing.IsOpen ↔ timing.start.toNat < timing.deadline.toNat :=
  UInt64.lt_iff_toNat_lt

theorem place_isOpen (timing : Timing) {start length : Ticks} (some' : 0 < length.toNat)
    (room : start.toNat + length.toNat ≤ Ticks.last.toNat) :
    (timing.place start length).IsOpen := by
  rw [Ticks.toNat_last] at room
  simp only [isOpen_iff, place, Ticks.toNat_satAdd]
  omega

theorem seek_le_latest {length horizon latest start found : Ticks} {attempt attempts tries : Nat}
    (seeks : seek length horizon latest start attempt tries = some (found, attempts)) :
    found ≤ latest := by
  induction tries generalizing start attempt with
  | zero => cases seeks
  | succ tries ih =>
      simp only [seek] at seeks
      split at seeks
      case isTrue => cases seeks
      case isFalse within =>
        split at seeks
        case isTrue =>
          cases seeks
          exact UInt64.not_lt.mp within
        case isFalse => exact ih seeks

theorem realign_isOpen {timing : Timing} (before : timing.IsOpen) (current : Ticks) :
    (timing.realign current).1.IsOpen := by
  rw [isOpen_iff] at before
  let length := timing.window.satMul 2
  let latest := Ticks.last.satSub length
  have some' : 0 < length.toNat := by
    have window := timing.toNat_window
    rw [Ticks.toNat_satMul]
    omega
  -- No start after `latest` is ever chosen, and from there the window still fits.
  have fits (start : Ticks) (within : start ≤ latest) :
      (timing.place start length).IsOpen := by
    have bound : length.toNat ≤ Ticks.last.toNat := Ticks.le_last length
    have least := UInt64.le_iff_toNat_le.mp within
    rw [Ticks.toNat_satSub] at least
    exact timing.place_isOpen some' (by omega)
  simp only [realign]
  split
  case h_1 start attempts found => exact fits start (seek_le_latest found)
  case h_2 => exact fits _ Std.min_le_right

end Timing

theorem TaskRecord.Scanned.isOpen {ω : Type} {current : Ticks} {record after : TaskRecord ω}
    (scanned : record.Scanned current after) (queued : after.state = .queued)
    (before : record.timing.IsOpen) : after.timing.IsOpen := by
  cases scanned with
  | same => exact before
  | missed => cases queued
  | moved => exact Timing.realign_isOpen before current

namespace TaskTable

variable {ω : Type}

/-- Each task that is queued has a tick in its window. -/
def WindowsOpen (table : TaskTable ω) : Prop :=
  ∀ task record, table.find? task = some record → record.state = .queued →
    record.timing.IsOpen

theorem empty_windowsOpen (capacity : Nat) : (empty capacity : TaskTable ω).WindowsOpen := by
  intro task record found
  simp [empty, find?] at found

namespace WindowsOpen

variable {table after : TaskTable ω}

theorem update (before : table.WindowsOpen) (task : TaskHandle)
    (f : TaskRecord ω → TaskRecord ω)
    (opens : ∀ record, (record.state = .queued → record.timing.IsOpen) →
      (f record).state = .queued → (f record).timing.IsOpen) :
    (table.update task f).WindowsOpen := by
  intro other record found queued
  rw [find?_update] at found
  by_cases same : other = task
  · rw [if_pos same] at found
    obtain ⟨earlier, here, rfl⟩ := Option.map_eq_some_iff.mp found
    exact opens earlier (before other earlier here) queued
  · rw [if_neg same] at found
    exact before other record found queued

theorem change {admits : Option TaskHandle} {brings : Option ω} (before : table.WindowsOpen)
    (consistent : table.Consistent) (change : table.Change admits brings after) :
    after.WindowsOpen := by
  cases change with
  | nothing => exact before
  | create work settings task _ taken =>
      intro other record found queued
      rw [find?_alloc consistent taken] at found
      split at found
      case isTrue =>
        cases found
        cases queued
      case isFalse => exact before other record found queued
  | configure task record settings found idle =>
      exact before.update task _ fun record kept => kept
  | retire task record found idle =>
      intro other record found' queued
      rw [find?_release found] at found'
      split at found'
      case isTrue => cases found'
      case isFalse => exact before other record found' queued
  | insert task record start deadline found idle window =>
      intro other record found queued
      rw [find?_enqueue] at found
      refine before.update task _ ?_ other record found queued
      intro held _ _
      exact window
  | cancel task record found idle => exact before.update task _ nofun
  | complete task record found => exact before.update task _ nofun

theorem select (before : table.WindowsOpen) (consistent : table.Consistent) (current : Ticks) :
    (table.select current).table.WindowsOpen := by
  intro task record found queued
  obtain ⟨earlier, here, scanned⟩ := find?_of_select consistent current task record found
  exact scanned.isOpen queued (before task earlier here (scanned.queued queued))

theorem claim (before : table.WindowsOpen) {current : Ticks} {task : TaskHandle}
    {work : Option ω} (claimed : table.claim current task = some (work, after)) :
    after.WindowsOpen := by
  obtain ⟨_, _, _, _, _, rfl⟩ := claim_cases claimed
  exact before.update task _ nofun

theorem finish (before : table.WindowsOpen) (task : TaskHandle) (work : Option ω) :
    (table.finish task work).2.WindowsOpen := by
  intro other record found queued
  rw [find?_finish] at found
  split at found
  case isTrue =>
    obtain ⟨earlier, here, rfl⟩ := Option.map_eq_some_iff.mp found
    dsimp only at queued
    split at queued
    case isTrue => cases queued
    case isFalse => exact before other earlier here queued
  case isFalse => exact before other record found queued

end WindowsOpen

end TaskTable

theorem Worked.windowsOpen {number : Nat} {clock : Ticks} {table after : TaskTable Work}
    {part : Section} {next : List Activity} (worked : Worked number clock table part after next)
    (consistent : table.Consistent) (before : table.WindowsOpen) : after.WindowsOpen := by
  cases worked with
  | call part admits brings after called change asked made =>
      exact before.change consistent change
  | idle | due => exact before.select consistent clock
  | abandoned | refused | looked => exact before
  | claimed wakes current task work claimed taken =>
      exact (before.claim taken).select (consistent.claim taken) current
  | finished run work status => exact before.finish run.task work
  | asked run work startUs deadlineUs running => exact before.finish run.task work
  | readmitted run startUs deadlineUs after change => exact before.change consistent change

theorem Move.windowsOpen {number : Nat} {clock : Ticks} {pipelines : Nat}
    {done : Option Activity} {before after : Focus}
    (move : Move number clock pipelines done before after)
    (sound : ∀ scheduler, before.scheduler = some scheduler → scheduler.TableSound)
    (windows : ∀ scheduler, before.scheduler = some scheduler → scheduler.table.WindowsOpen)
    (scheduler : Scheduler) (found : after.scheduler = some scheduler) :
    scheduler.table.WindowsOpen := by
  rcases move.table_cases scheduler found with
    ⟨_, config, executor, rfl⟩ | ⟨earlier, there, _, same | ⟨part, next, _, worked⟩⟩
  · exact TaskTable.empty_windowsOpen config.maxTasks
  · exact same ▸ windows earlier there
  · exact worked.windowsOpen (sound earlier there).consistent (windows earlier there)

namespace Machine

variable {machine : Machine} {number : Nat} {scheduler : Scheduler}

theorem Reachable.windowsOpen (reachable : Reachable machine)
    (found : machine.scheduler? number = some scheduler) : scheduler.table.WindowsOpen := by
  let law (focus : Focus) : Prop :=
    ∀ held, focus.scheduler = some held → held.TableSound ∧ held.table.WindowsOpen
  have every : law (machine.focus number) := by
    apply reachable.focus_induction
    · intro held absent
      cases absent
    · intro clock pipelines done before after move both held there
      have sound := fun earlier here => (both earlier here).1
      have windows := fun earlier here => (both earlier here).2
      exact ⟨move.tableSound sound held there, move.windowsOpen sound windows held there⟩
  exact (every scheduler found).2

/-- In every reachable state each queued task has a window that is not empty, within the
range of ticks; and so it is after any section that a caller or a pass carries out next, on
whatever task, for whatever window and at whatever time. -/
theorem queued_window_nonempty (reachable : Reachable machine)
    (found : machine.scheduler? number = some scheduler) :
    (∀ task record, scheduler.table.find? task = some record → record.state = .queued →
      record.timing.start.toNat < record.timing.deadline.toNat ∧
        record.timing.deadline.toNat < UInt64.size) ∧
    ∀ (part : Section) (clock : Ticks) (pipelines : Nat) (task : TaskHandle)
      (record : TaskRecord Work),
      (part.effect scheduler number clock pipelines).scheduler.table.find? task = some record →
      record.state = .queued →
      record.timing.start.toNat < record.timing.deadline.toNat ∧
        record.timing.deadline.toNat < UInt64.size := by
  have now := reachable.windowsOpen found
  have consistent := (reachable.tableSound found).consistent
  constructor
  · intro task record here queued
    exact ⟨record.timing.isOpen_iff.mp (now task record here queued),
      record.timing.deadline.toNat_lt_size⟩
  · intro part clock pipelines task record here queued
    have worked := (part.effect_done scheduler number clock pipelines).worked
    have later := worked.windowsOpen consistent now
    exact ⟨record.timing.isOpen_iff.mp (later task record here queued),
      record.timing.deadline.toNat_lt_size⟩

/-- A machine near the end of the ticks: of two late tasks, a pass has cancelled the first
and moved the second to the last window there is. -/
def brink : Machine :=
  let ask (machine : Machine) (call : Call) : Machine := machine.exec 20 call fun _ => none
  let one := ask (boot (Ticks.last - 100)) (.init ⟨1000000, 0, 7, 2⟩ .inline)
  let first := ask one (.scheduler 0 (.create [] .default))
  let both := ask first (.scheduler 0 (.create [] .default))
  let half := ask both (.scheduler 0 (.insert (some ⟨0, 0⟩) 0 20))
  let full := ask half (.scheduler 0 (.insert (some ⟨1, 0⟩) 0 20))
  ask (ask full (.platform (.setClock (Ticks.last - 10)))) (.scheduler 0 .runPass)

theorem brink_reachable : Reachable brink := by
  unfold brink
  refine .exec (.exec (.exec (.exec ?_ rfl _ _ _) rfl _ _ _) rfl _ _ _) rfl _ _ _
  exact .exec (.exec (.exec (.boot _) rfl _ _ _) rfl _ _ _) rfl _ _ _

/-- The window of the task that was moved ends with the last tick, and is not empty. -/
theorem brink_window :
    ∃ scheduler record, brink.scheduler? 0 = some scheduler ∧
      scheduler.table.find? ⟨1, 0⟩ = some record ∧ record.timing.deadline = Ticks.last ∧
      record.timing.start.toNat < record.timing.deadline.toNat := by
  have view : (brink.scheduler? 0).bind (fun scheduler => (scheduler.table.find? ⟨1, 0⟩).map
      fun record => (record.state, record.timing.deadline)) = some (.queued, Ticks.last) := by
    decide +kernel
  obtain ⟨scheduler, found, view⟩ := Option.bind_eq_some_iff.mp view
  obtain ⟨record, here, view⟩ := Option.map_eq_some_iff.mp view
  obtain ⟨queued, ends⟩ := Prod.mk.inj view
  obtain ⟨windows, _⟩ := queued_window_nonempty brink_reachable found
  exact ⟨scheduler, record, found, here, ends, (windows ⟨1, 0⟩ record here queued).1⟩

end Machine

end EdfKernel
