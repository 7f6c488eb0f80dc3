import EdfKernel.Proofs.Deeds

/-!
One scheduler seen on its own. Its duties are the activities left on the agenda
that work on it, what comes first in front. What is done on the platform, or
for another scheduler, leaves a scheduler and its duties as they are.
-/

namespace EdfKernel

namespace Activity

def isDuty (activity : Activity) (number : Nat) : Bool := activity.scheduler? = some number

end Activity

/-- One scheduler, and what is left to do on it. -/
structure Focus where
  scheduler : Option Scheduler
  duties : List Activity

namespace Machine

def duties (machine : Machine) (number : Nat) : List Activity :=
  machine.agenda.filter fun activity => activity.isDuty number

def focus (machine : Machine) (number : Nat) : Focus :=
  ⟨machine.scheduler? number, machine.duties number⟩

end Machine

/-- What a section leaves to do is for the scheduler it worked on, or an overrun to report. -/
theorem Section.next_duties (part : Section) (scheduler : Scheduler) (number : Nat)
    (clock : Ticks) (pipelines : Nat) :
    ∀ activity ∈ (part.effect scheduler number clock pipelines).next,
      activity.scheduler? = some number ∨ ∃ pipeline, activity = .xrun pipeline 0 := by
  intro activity member
  have nothing (change : Except SchedulerError (TaskTable Work)) :
      (Effect.change scheduler change).next = [] := by
    cases change <;> rfl
  have created (work : Work) (settings : TaskSettings) :
      (Effect.create scheduler work settings).next = [] := by
    unfold Effect.create
    split <;> rfl
  cases part with
  | create routine settings =>
      simp only [Section.effect, created, List.not_mem_nil] at member
  | createPipeline desc routine =>
      simp only [Section.effect, Effect.createPipeline] at member
      split at member <;> simp only [created, List.not_mem_nil] at member
  | configure | cancel | complete =>
      simp only [Section.effect, nothing, List.not_mem_nil] at member
  | retire task =>
      simp only [Section.effect, Effect.retire] at member
      split at member <;> cases member
  | insert task startUs deadlineUs =>
      simp only [Section.effect, Effect.insert] at member
      split at member <;> cases member
  | inspect | queued | queuedLength | describe => cases member
  | check task =>
      simp only [Section.effect, Effect.check] at member
      split at member <;> cases member
  | checkDeadline pipeline task =>
      simp only [Section.effect, Effect.checkDeadline] at member
      split at member
      · simp only [List.mem_singleton] at member
        exact .inr ⟨pipeline, member⟩
      · cases member
  | select wakes =>
      simp only [Section.effect, Effect.select] at member
      split at member
      · simp only [List.mem_singleton] at member
        exact .inl (member ▸ rfl)
      · split at member <;> simp only [List.mem_singleton] at member <;>
          exact .inl (member ▸ rfl)
  | dispatch wakes current task =>
      simp only [Section.effect, Effect.dispatch] at member
      split at member <;> simp only [List.mem_singleton] at member <;> exact .inl (member ▸ rfl)
  | finish run work status =>
      simp only [Section.effect, Effect.finish] at member
      split at member
      · split at member <;> simp only [List.mem_singleton] at member <;>
          exact .inl (member ▸ rfl)
      · simp only [List.mem_singleton] at member
        exact .inl (member ▸ rfl)
  | reinsert run startUs deadlineUs =>
      simp only [Section.effect, Effect.reinsert] at member
      split at member <;> simp only [List.mem_singleton] at member <;> exact .inl (member ▸ rfl)
  | wake outcome task =>
      simp only [Section.effect, Effect.wake] at member
      split at member
      · cases member
      · split at member <;> cases member

namespace Machine

variable (machine : Machine) (number : Nat)

theorem length_of_scheduler? (scheduler : Scheduler)
    (found : machine.scheduler? number = some scheduler) : number < machine.schedulers.length := by
  unfold scheduler? at found
  by_cases inside : number < machine.schedulers.length
  · exact inside
  · simp [List.getElem?_eq_none (Nat.le_of_not_lt inside)] at found

theorem scheduler?_setScheduler_self (before after : Scheduler)
    (found : machine.scheduler? number = some before) :
    (machine.setScheduler number after).scheduler? number = some after := by
  rw [scheduler?_setScheduler]
  exact if_pos ⟨rfl, length_of_scheduler? machine number before found⟩

theorem scheduler?_set_self {machine : Machine} {number : Nat} {before : Scheduler}
    (found : machine.scheduler? number = some before) (later : Scheduler) :
    (machine.schedulers.set number (some later))[number]?.join = some later :=
  scheduler?_setScheduler_self machine number before later found

theorem scheduler?_set_of_ne {other : Nat} (apart : number ≠ other) (after : Option Scheduler) :
    (machine.schedulers.set other after)[number]?.join = machine.scheduler? number := by
  rw [List.getElem?_set_ne (Ne.symm apart)]
  rfl

theorem focus_of_scheduler? (scheduler : Option Scheduler)
    (found : machine.scheduler? number = scheduler) :
    machine.focus number = ⟨scheduler, machine.duties number⟩ := by
  rw [← found]
  rfl

theorem duties_cons {machine : Machine} {number : Nat} {activity : Activity}
    {rest : List Activity} (agenda : machine.agenda = activity :: rest)
    (duty : activity.scheduler? = some number) :
    machine.duties number = activity :: rest.filter fun other => other.isDuty number := by
  rw [duties, agenda]
  simp [Activity.isDuty, duty]

variable {machine after : Machine} {number : Nat} {added : List Activity}

theorem focus_of_agenda (stacked : after.agenda = added ++ machine.agenda) :
    after.focus number =
      ⟨after.scheduler? number,
        (added.filter fun activity => activity.isDuty number) ++ machine.duties number⟩ := by
  rw [focus, duties, stacked, List.filter_append]
  rfl

theorem focus_of_duty {later : Option Scheduler} {duty : Activity}
    (scheduler : after.scheduler? number = later) (stacked : after.agenda = duty :: machine.agenda)
    (own : duty.scheduler? = some number) :
    after.focus number = ⟨later, duty :: machine.duties number⟩ := by
  rw [focus_of_agenda (stacked.trans (List.singleton_append).symm), scheduler]
  simp [Activity.isDuty, own]

theorem focus_of_script_duty {later : Option Scheduler} {current : Option TaskHandle}
    {script : Script} {duty : Activity} (scheduler : after.scheduler? number = later)
    (stacked : after.agenda = .script current script :: duty :: machine.agenda)
    (own : duty.scheduler? = some number) :
    after.focus number = ⟨later, duty :: machine.duties number⟩ := by
  have pushed : after.agenda = [.script current script, duty] ++ machine.agenda := stacked
  have other : (Activity.script current script).isDuty number = false := rfl
  have mine : duty.isDuty number = true := decide_eq_true own
  rw [focus_of_agenda pushed, scheduler]
  simp [other, mine]

theorem focus_of_section {later : Option Scheduler} {next : List Activity}
    (scheduler : after.scheduler? number = later)
    (stacked : after.agenda = .leave number :: (next ++ machine.agenda)) :
    after.focus number =
      ⟨later,
        .leave number :: (next.filter fun activity => activity.isDuty number) ++
          machine.duties number⟩ := by
  have pushed : after.agenda = (.leave number :: next) ++ machine.agenda := stacked
  have leaves : (Activity.leave number).isDuty number = true := decide_eq_true rfl
  rw [focus_of_agenda pushed, scheduler]
  simp [leaves]

end Machine

end EdfKernel
