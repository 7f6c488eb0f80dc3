import EdfKernel.Proofs.GentleRuns

/-!
A task in the queue is looked at by some later pass if the line of its scheduler
is raised or the timer is armed with the scheduler's wake-up. Along a run that
nobody meddles with this holds whenever no pass is under way, up to the first
lapse: a run of the scheduler that ends with nothing to wake for, or with a task
to wake for that has left the queue, while another task is queued.
-/

namespace EdfKernel

namespace Activity

def isWake : Activity → Bool
  | acquire number (.wake _ _) | enter number (.wake _ _) => number = 0
  | _ => false

end Activity

namespace TaskTable

def HasQueued {ω : Type} (table : TaskTable ω) : Prop :=
  ∃ task record, table.find? task = some record ∧ record.state = .queued

end TaskTable

namespace Machine

/-- The line is raised, or the timer is armed with the scheduler's wake-up. -/
def Signals (machine : Machine) (config : SchedulerConfig) : Prop :=
  machine.irq.isPending config.line = true ∨
    ∃ arming, machine.timer.slot = some arming ∧ arming.wake = .scheduler 0

def Begins (before after : Machine) : Prop :=
  (∀ scheduler, before.scheduler? 0 = some scheduler → scheduler.inPass = false) ∧
    ∃ scheduler, after.scheduler? 0 = some scheduler ∧ scheduler.inPass = true

/-- While a task is queued, there is a signal, a pass under way, or a run that is
about to look what to wake for. -/
def Attended (machine : Machine) (config : SchedulerConfig) : Prop :=
  ∀ scheduler, machine.scheduler? 0 = some scheduler → scheduler.table.HasQueued →
    machine.Signals config ∨ scheduler.inPass = true ∨ machine.agenda.any Activity.isWake = true

end Machine

namespace Tended

variable {machine : Machine} {config : SchedulerConfig}

theorem inRange (tended : Tended machine config) : config.line < lineCount := by
  obtain ⟨state, found, _⟩ := Option.bind_eq_some_iff.mp tended.listens
  have some := machine.irq.line?_isSome config.line
  rw [found] at some
  exact of_decide_eq_true some.symm

theorem pending_request (tended : Tended machine config) {number line : Nat}
    {scheduler : Scheduler} (found : machine.scheduler? number = some scheduler)
    (own : line = scheduler.config.line) :
    (machine.irq.request line).isPending config.line = true := by
  obtain ⟨held, there, tame⟩ := tended.scheduler?
  cases tended.eq_zero_of_scheduler? found
  cases there.symm.trans found
  rw [Controller.isPending_request, own, tame.configured, if_pos rfl]
  exact decide_eq_true tended.inRange

/-- Whatever is done leaves a signal, or begins a pass. -/
theorem signals_of_deed {activity : Activity} {after : Machine}
    (deed : machine.Deed activity after) (tended : Tended machine config) {inside : Bool}
    (fits : activity.Fits inside) (signals : machine.Signals config) :
    after.Signals config ∨ machine.Begins after := by
  cases deed with
  | begun _ number wakes resumes passes scheduler found idle =>
      right
      cases tended.eq_zero_of_scheduler? found
      refine ⟨fun held same => ?_, scheduler.beginPass, ?_, rfl⟩
      · cases found.symm.trans same
        exact idle
      · exact Machine.scheduler?_setScheduler_self machine 0 _ _ found
  | putOff _ number wakes resumes passes scheduler found =>
      exact .inl (.inl (tended.pending_request found rfl))
  | woke _ now rest polls arming armed due number scheduler wakes alive found =>
      exact .inl (.inl (tended.pending_request found rfl))
  | requested current line | passRequested =>
      exact .inl (signals.imp_left fun pending => Controller.isPending_request_of_pending pending _)
  | enabled current line =>
      exact .inl (signals.imp_left (Controller.isPending_enable ..).trans)
  | rang _ _ _ polls arming armed due script wakes =>
      cases wakes.symm.trans (tended.timed arming armed)
  | wokeNobody _ now rest polls arming armed due number wakes dead =>
      cases wakes.symm.trans (tended.timed arming armed)
      cases dead.symm.trans tended.isAlive
  | interrupted line delivered tally state looked ready turns handles =>
      cases tended.handler_eq looked handles
  | spurious line delivered tally state looked ready unhandled =>
      -- A raised line without a handler is lowered; the scheduler's line has one.
      have other : config.line ≠ line := by
        intro same
        have listens := tended.listens
        rw [same, Controller.handler?, looked] at listens
        cases unhandled.symm.trans listens
      refine .inl (signals.imp_left fun pending => ?_)
      rw [Controller.isPending_clear, decide_eq_true other, pending]
      rfl
  | entered number part scheduler effect found free made =>
      left
      rcases signals with pending | ⟨arming, armed, own⟩
      · left
        dsimp only
        split
        · have masked : machine.irq.mask.isPending config.line = true := pending
          exact Controller.isPending_request_of_pending masked _
        · exact pending
      · right
        cases effect.arms with
        | none => exact ⟨arming, armed, own⟩
        | some instant =>
            exact ⟨⟨instant, .scheduler number⟩, rfl, by rw [tended.eq_zero_of_scheduler? found]⟩
  | armed | disarmed | registered | disabled | cleared =>
      cases Call.Gentle.isQuiet fits
  | initFailed | setUp | dropped => cases fits
  | _ => exact .inl signals

theorem step_signals (tended : Tended machine config) (signals : machine.Signals config) :
    machine.step.Signals config ∨ machine.Begins machine.step := by
  cases agenda : machine.agenda with
  | nil =>
      rw [Machine.step_of_isIdle machine (by simp [Machine.isIdle, agenda])]
      exact .inl signals
  | cons activity rest =>
      have calm := tended.calm
      rw [agenda] at calm
      have before : Tended { machine with agenda := rest } config :=
        tended.keep rfl (fun _ => rfl) rfl rfl calm.2
      have acted := signals_of_deed (Machine.step_deed agenda) before calm.1 signals
      exact acted

end Tended

end EdfKernel
