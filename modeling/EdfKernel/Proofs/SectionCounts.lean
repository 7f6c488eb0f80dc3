import EdfKernel.Proofs.AdmissionOrder
import EdfKernel.Proofs.Refusals

/-!
What a section adds to the counters of its scheduler: the task that a scan gives up, those
that it moves, and a refusal because the task is running. A caller who is refused is told so,
and a pass says so in the log.
-/

namespace EdfKernel

def Reply.isBusy : Reply → Bool
  | .failed (.scheduler error) => error.isBusy
  | _ => false

def Notice.isBusy : Notice → Bool
  | .notRescheduled _ error => error.isBusy
  | _ => false

namespace TaskTable

variable {ω : Type} {table after : TaskTable ω}

theorem Consistent.missedIn_self (consistent : table.Consistent) : table.missedIn table = [] := by
  rw [missedIn, List.filter_eq_nil_iff]
  intro task member missed
  obtain ⟨record, found, same⟩ := Option.any_eq_true _ _ |>.mp missed
  exact consistent.not_missed member found (of_decide_eq_true same)

theorem missedIn_congr {other : TaskTable ω} (queue : other.queue = table.queue) :
    other.missedIn after = table.missedIn after := by
  rw [missedIn, missedIn, queue]

theorem Handled.not_missed {admitted : Bool} {before : Option (TaskRecord ω)}
    {record : TaskRecord ω} (handled : Handled admitted before (some record))
    (missed : record.state = .cancelled .deadlineMissed) :
    ∃ earlier, before = some earlier ∧ earlier.state = .cancelled .deadlineMissed := by
  cases handled with
  | same => exact ⟨record, rfl, missed⟩
  | configured earlier settings idle => exact ⟨earlier, rfl, missed⟩
  | made | queued | cancelled | completed => cases missed

theorem Change.missedIn {admits : Option TaskHandle} {brings : Option ω}
    (change : table.Change admits brings after) (consistent : table.Consistent) :
    table.missedIn after = [] := by
  rw [TaskTable.missedIn, List.filter_eq_nil_iff]
  intro task member missed
  obtain ⟨record, found, same⟩ := Option.any_eq_true _ _ |>.mp missed
  have handled := change.handled consistent task
  rw [found] at handled
  obtain ⟨earlier, before, still⟩ := handled.not_missed (of_decide_eq_true same)
  exact consistent.not_missed member before still

theorem Consistent.missedIn_finish (consistent : table.Consistent) (task : TaskHandle)
    (work : Option ω) : table.missedIn (table.finish task work).2 = [] := by
  rw [missedIn, List.filter_eq_nil_iff]
  intro other member missed
  obtain ⟨record, found, same⟩ := Option.any_eq_true _ _ |>.mp missed
  have late := of_decide_eq_true same
  rw [find?_finish] at found
  split at found
  · obtain ⟨held, before, rfl⟩ := Option.map_eq_some_iff.mp found
    dsimp only at late
    split at late
    · cases late
    · exact consistent.not_missed member before late
  · exact consistent.not_missed member found late

theorem missedIn_claim {current : Ticks} {task : TaskHandle} {work : Option ω}
    {claimed : TaskTable ω}
    (taken : table.claim current task = some (work, claimed)) :
    claimed.missedIn after = table.missedIn after := by
  obtain ⟨_, _, _, _, _, rfl⟩ := claim_cases taken
  exact missedIn_congr rfl

end TaskTable

namespace Section

/-- The table that a section of a pass scans, and the instant for which it does. -/
def scanned? (part : Section) (scheduler : Scheduler) (clock : Ticks) :
    Option (TaskTable Work × Ticks) :=
  match part with
  | select _ => some (scheduler.table, clock)
  | dispatch _ current task =>
      (scheduler.table.claim current task).map fun claimed => (claimed.2, current)
  | _ => none

def moved (part : Section) (scheduler : Scheduler) (clock : Ticks) (after : TaskTable Work) :
    List TaskHandle :=
  match part.scanned? scheduler clock with
  | some (table, current) => table.movedIn after current
  | none => []

def restarted (part : Section) (scheduler : Scheduler) (clock : Ticks) (after : TaskTable Work) :
    List TaskHandle :=
  match part.scanned? scheduler clock with
  | some (table, current) => (table.movedIn after current).filter (table.losesPhase current)
  | none => []

/-- The section is refused because its task is running: a caller is told, a pass says so in
the log. -/
def isBusy (part : Section) (reply : Option Reply) (notices : List Notice) : Bool :=
  match part with
  | reinsert _ _ _ => notices.any Notice.isBusy
  | part => part.guards?.isSome && reply.any Reply.isBusy

/-- What a section does to the counters. -/
structure Accounts (part : Section) (scheduler : Scheduler) (clock : Ticks) (effect : Effect) :
    Prop where
  statistics : effect.scheduler.statistics =
    { scheduler.statistics with
      deadlineMisses := scheduler.statistics.deadlineMisses +
        UInt64.ofNat (scheduler.table.missedIn effect.scheduler.table).length
      repairs := scheduler.statistics.repairs +
        UInt64.ofNat (part.moved scheduler clock effect.scheduler.table).length
      exhaustedRepairs := scheduler.statistics.exhaustedRepairs +
        UInt64.ofNat (part.restarted scheduler clock effect.scheduler.table).length
      busyRejections := scheduler.statistics.busyRejections +
        if part.isBusy effect.reply effect.notices then 1 else 0 }

variable {part : Section} {scheduler : Scheduler} {clock : Ticks}

theorem effect_scanned {table : TaskTable Work} {current : Ticks}
    (scans : part.scanned? scheduler clock = some (table, current)) (number pipelines : Nat) :
    (part.effect scheduler number clock pipelines).scheduler.table =
      (table.select current).table := by
  cases part with
  | select wakes =>
      cases scans
      simp only [effect, Effect.select]
      split
      · rfl
      · split <;> rfl
  | dispatch wakes current task =>
      obtain ⟨⟨work, claimed⟩, taken, same⟩ := Option.map_eq_some_iff.mp scans
      cases same
      simp only [effect, Effect.dispatch, taken]
      rfl
  | _ => cases scans

theorem Accounts.of_unscanned {effect : Effect} (scans : part.scanned? scheduler clock = none)
    (missed : scheduler.table.missedIn effect.scheduler.table = [])
    (statistics : effect.scheduler.statistics =
      { scheduler.statistics with
        busyRejections := scheduler.statistics.busyRejections +
          if part.isBusy effect.reply effect.notices then 1 else 0 }) :
    part.Accounts scheduler clock effect := by
  constructor
  simp only [statistics, moved, restarted, scans, missed, List.length_nil, UInt64.reduceOfNat,
    UInt64.add_zero]

theorem refuse_statistics (error : SchedulerError) :
    (scheduler.refuse error).statistics =
      { scheduler.statistics with
        busyRejections :=
          scheduler.statistics.busyRejections + if error.isBusy then 1 else 0 } := by
  cases error <;> simp [Scheduler.refuse, SchedulerError.isBusy]

theorem Settles.isSome_reply {pipelines : Nat} {effect : Effect}
    (settles : part.Settles scheduler pipelines effect) : effect.reply.isSome = true := by
  cases settles with
  | unknown | busy | empty | full => rfl
  | done _ answer replies => rw [replies, Option.isSome_some]

/-- How a caller's section ends, for the one who counts refusals. -/
inductive Ends (part : Section) (scheduler : Scheduler) : Effect → Prop where
  | refused (effect : Effect) (error : SchedulerError)
      (counted : effect.scheduler = scheduler.refuse error)
      (replies : effect.reply = some (.failed (.scheduler error)))
      (guarded : error.isBusy = true → part.guards?.isSome = true) : Ends part scheduler effect
  | accepted (effect : Effect) (same : effect.scheduler.statistics = scheduler.statistics)
      (replies : effect.reply.any Reply.isBusy = false) : Ends part scheduler effect

theorem Ends.of_change (result : Except SchedulerError (TaskTable Work))
    (guarded : ∀ error, result = .error error → error.isBusy = true → part.guards?.isSome = true) :
    part.Ends scheduler (Effect.change scheduler result) := by
  cases result with
  | error error => exact .refused _ error rfl rfl (guarded error rfl)
  | ok table => exact .accepted _ rfl rfl

theorem Ends.of_create (work : Work) (settings : TaskSettings) :
    part.Ends scheduler (Effect.create scheduler work settings) := by
  unfold Effect.create Scheduler.create
  cases scheduler.table.alloc (.fresh work settings) with
  | none => exact .refused _ (.tableFull scheduler.table.capacity) rfl rfl nofun
  | some pair => exact .accepted _ rfl rfl

variable (number pipelines : Nat)

theorem call_ends (called : part.isCall = true) :
    part.Ends scheduler (part.effect scheduler number clock pipelines) := by
  cases part with
  | create routine settings => exact .of_create _ settings
  | createPipeline desc routine =>
      have created : (createPipeline desc routine).Ends scheduler
          (Effect.create scheduler (.copy pipelines routine) desc.settings) := .of_create _ _
      simp only [effect, Effect.createPipeline]
      split
      · cases created with
        | refused error counted replies guarded => exact .refused _ error counted replies guarded
        | accepted same replies => exact .accepted _ same replies
      · exact created
  | configure | cancel => exact .of_change _ fun _ _ _ => rfl
  | retire task =>
      simp only [effect, Effect.retire]
      split
      case h_1 error _ => exact .refused _ error rfl rfl fun _ => rfl
      case h_2 => exact .accepted _ rfl rfl
  | insert task startUs deadlineUs =>
      simp only [effect, Effect.insert]
      split
      case h_1 error _ => exact .refused _ error rfl rfl fun _ => rfl
      case h_2 => exact .accepted _ rfl rfl
  | complete task =>
      apply Ends.of_change
      intro error refused busy
      unfold TaskTable.complete at refused
      split at refused
      · cases refused
        cases busy
      · cases refused
  | check task =>
      simp only [effect, Effect.check]
      split
      case h_1 error refused =>
        refine .refused _ error rfl rfl fun busy => ?_
        unfold TaskTable.check at refused
        split at refused
        · cases refused
          cases busy
        · split at refused
          · cases refused
            cases busy
          · cases refused
      case h_2 => exact .accepted _ rfl rfl
  | inspect | queued | queuedLength | describe => exact .accepted _ rfl rfl
  | checkDeadline pipeline task =>
      simp only [effect, Effect.checkDeadline]
      split <;> exact .accepted _ rfl rfl
  | select | dispatch | finish | reinsert | wake => cases called

theorem call_accounts (called : part.isCall = true) (consistent : scheduler.table.Consistent) :
    part.Accounts scheduler clock (part.effect scheduler number clock pipelines) := by
  have scans : part.scanned? scheduler clock = none := by
    cases part <;> first | rfl | cases called
  have missed : scheduler.table.missedIn
      (part.effect scheduler number clock pipelines).scheduler.table = [] := by
    have worked := (part.effect_done scheduler number clock pipelines).worked
    generalize (part.effect scheduler number clock pipelines).scheduler.table = after at worked ⊢
    generalize (part.effect scheduler number clock pipelines).next.filter _ = next at worked
    cases worked with
    | call _ admits brings after _ change => exact change.missedIn consistent
    | _ => cases called
  apply Accounts.of_unscanned scans missed
  have busy (effect : Effect) : part.isBusy effect.reply effect.notices =
      (part.guards?.isSome && effect.reply.any Reply.isBusy) := by
    cases part <;> first | rfl | cases called
  rw [busy]
  have ends : part.Ends scheduler (part.effect scheduler number clock pipelines) :=
    call_ends number pipelines called
  cases ends with
  | refused error counted replies guarded =>
      rw [counted, refuse_statistics, replies]
      cases refused : error.isBusy with
      | false => simp [Reply.isBusy, refused]
      | true => simp [Reply.isBusy, refused, guarded refused]
  | accepted same replies => simp [same, replies]

theorem account_statistics (selection : Selection) :
    (scheduler.account selection).statistics =
      { scheduler.statistics with
        deadlineMisses := scheduler.statistics.deadlineMisses +
          UInt64.ofNat selection.cancelled.toList.length
        repairs := scheduler.statistics.repairs + UInt64.ofNat selection.repaired
        exhaustedRepairs := scheduler.statistics.exhaustedRepairs +
          UInt64.ofNat selection.exhausted } := by
  cases cancelled : selection.cancelled <;> simp [Scheduler.account, cancelled]

theorem Accounts.of_select {effect : Effect} {table : TaskTable Work} {current : Ticks}
    (scans : part.scanned? scheduler clock = some (table, current))
    (missed : ∀ after, scheduler.table.missedIn after = table.missedIn after)
    (consistent : table.Consistent)
    (after : effect.scheduler.table = (table.select current).table)
    (statistics : effect.scheduler.statistics =
      (scheduler.account (table.select current).selection).statistics)
    (answered : part.isBusy effect.reply effect.notices = false) :
    part.Accounts scheduler clock effect := by
  have selects := TaskTable.selects consistent.queue_nodup current
  constructor
  rw [statistics, account_statistics, after, missed, answered, selects.cancelled, selects.repaired,
    selects.exhausted, selects.missedIn consistent]
  simp only [Section.moved, Section.restarted, scans, selects.movedIn consistent,
    List.countP_eq_length_filter, Bool.false_eq_true, if_false, UInt64.add_zero]

theorem Accounts.of_kept {effect : Effect} (scans : part.scanned? scheduler clock = none)
    (missed : scheduler.table.missedIn effect.scheduler.table = [])
    (statistics : effect.scheduler.statistics = scheduler.statistics)
    (answered : part.isBusy effect.reply effect.notices = false) :
    part.Accounts scheduler clock effect := by
  apply Accounts.of_unscanned scans missed
  rw [statistics, answered]
  simp

theorem effect_accounts (part : Section) (scheduler : Scheduler) (number : Nat) (clock : Ticks)
    (pipelines : Nat) (consistent : scheduler.table.Consistent) :
    part.Accounts scheduler clock (part.effect scheduler number clock pipelines) := by
  cases part with
  | select wakes =>
      have made : (Effect.select scheduler number clock wakes).scheduler =
          { scheduler with table := (scheduler.table.select clock).table }.account
            (scheduler.table.select clock).selection := by
        unfold Effect.select
        dsimp only
        split
        · rfl
        · split <;> rfl
      refine .of_select rfl (fun _ => rfl) consistent ?_ ?_ rfl
      · exact congrArg Scheduler.table made
      · simp only [effect, made]
        rfl
  | dispatch wakes current task =>
      simp only [effect, Effect.dispatch]
      cases taken : scheduler.table.claim current task with
      | none => exact .of_kept (by simp [scanned?, taken]) consistent.missedIn_self rfl rfl
      | some pair =>
          obtain ⟨work, claimed⟩ := pair
          have scans : (dispatch wakes current task).scanned? scheduler clock =
              some (claimed, current) := by simp [scanned?, taken]
          exact .of_select scans (fun _ => (TaskTable.missedIn_claim taken).symm)
            (consistent.claim taken) rfl rfl rfl
  | finish run work status =>
      have made : (Effect.finish scheduler number run work status).scheduler =
          { scheduler with table := (scheduler.table.finish run.task work).2 } := by
        unfold Effect.finish
        dsimp only
        split
        · cases status <;> rfl
        · rfl
      refine .of_kept rfl ?_ ?_ rfl
      · simp only [effect, made]
        exact consistent.missedIn_finish run.task work
      · simp only [effect, made]
  | reinsert run startUs deadlineUs =>
      simp only [effect, Effect.reinsert]
      cases result : scheduler.table.insert scheduler.config clock run.task startUs deadlineUs with
      | error error =>
          apply Accounts.of_unscanned rfl
          · rw [show (Effect.quiet (scheduler.refuse error)).scheduler.table = scheduler.table from
              refuse_table error]
            exact consistent.missedIn_self
          · exact (refuse_statistics error).trans (by simp [isBusy, Notice.isBusy])
      | ok pair =>
          exact .of_kept rfl ((TaskTable.insert_change result).missedIn consistent) rfl rfl
  | wake outcome task =>
      have made : (Effect.wake scheduler outcome task).scheduler = scheduler := by
        unfold Effect.wake
        dsimp only
        split
        · rfl
        · split <;> rfl
      refine .of_kept rfl ?_ ?_ rfl
      · simp only [effect, made]
        exact consistent.missedIn_self
      · simp only [effect, made]
  | create | createPipeline | configure | retire | insert | cancel | complete | inspect | check
  | queued | queuedLength | describe | checkDeadline =>
      exact call_accounts number pipelines rfl consistent

end Section

end EdfKernel
