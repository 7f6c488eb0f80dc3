import EdfKernel.Proofs.PipelineStops
import EdfKernel.Proofs.PipelineChanges
import EdfKernel.Proofs.Refusals
import EdfKernel.Proofs.Trails

/-!
What waits to be done to the task of a pipeline. While nobody interposes, a section that a
caller asked for comes next or is not there at all; and while only the pipeline's own
operations are about its task, that section admits the task for the pipeline's period, unless
the pipeline is inactive.
-/

namespace EdfKernel

theorem Section.touches?_eq (part : Section) : part.touches? = part.changes? := by
  cases part <;> rfl

namespace Section

/-- The task that a section would admit, and for which window. -/
def window? : Section → Option (TaskHandle × UInt64 × UInt64)
  | insert task startUs deadlineUs => some (task, startUs, deadlineUs)
  | reinsert run startUs deadlineUs => some (run.task, startUs, deadlineUs)
  | _ => none

end Section

namespace Machine

variable {machine : Machine} {p number : Nat} {task : TaskHandle} {past : List Machine}

/-- The start that the next section computes for a window of the task. -/
def nextStart? (machine : Machine) (number : Nat) (task : TaskHandle) : Option Ticks :=
  match machine.agenda.head? with
  | some (.enter other part) => do
      let (named, startUs, _) ← part.window?
      let scheduler ← machine.scheduler? number
      let record ← scheduler.table.find? task
      if other = number ∧ named = task ∧ record.state ≠ .running then
        some (TaskTable.startAfter scheduler.config machine.clock record.timing.start startUs)
      else none
  | _ => none

theorem nextStart?_enter {part : Section} {below : List Activity} {scheduler : Scheduler}
    {record : TaskRecord Work} {startUs deadlineUs : UInt64}
    (agenda : machine.agenda = .enter number part :: below)
    (wants : part.window? = some (task, startUs, deadlineUs))
    (held : machine.scheduler? number = some scheduler)
    (found : scheduler.table.find? task = some record) (idle : record.state ≠ .running) :
    machine.nextStart? number task =
      some (TaskTable.startAfter scheduler.config machine.clock record.timing.start startUs) := by
  simp [nextStart?, agenda, wants, held, found, idle]

def isInterposedNext (machine : Machine) : Bool :=
  machine.agenda.head?.any fun
    | .acquire _ _ => (machine.interposed (machine.acquisitions + 1)).isSome
    | _ => false

theorem not_interposed_acquire {part : Section} {below : List Activity}
    (agenda : machine.agenda = .acquire number part :: below)
    (alone : machine.isInterposedNext = false) :
    machine.interposed (machine.acquisitions + 1) = none := by
  simpa [isInterposedNext, agenda] using alone

/-- Nobody interposed, no call but those of pipeline `p` was about its task, and no start
computed for the task was the last instant. -/
structure Undisturbed (p number : Nat) (task : TaskHandle) (past : List Machine) : Prop where
  alone : ∀ machine ∈ past, machine.isInterposedNext = false
  untouched : ∀ machine ∈ past, isTouchedNext p number task machine = false
  early : ∀ machine ∈ past, machine.nextStart? number task ≠ some Ticks.last

theorem Undisturbed.earlier (undisturbed : Undisturbed p number task (machine :: past)) :
    Undisturbed p number task past where
  alone other member := undisturbed.alone other (List.mem_cons_of_mem _ member)
  untouched other member := undisturbed.untouched other (List.mem_cons_of_mem _ member)
  early other member := undisturbed.early other (List.mem_cons_of_mem _ member)

def AsksInFront (machine : Machine) : Prop :=
  ∀ duty ∈ machine.agenda.tail, duty.asked? = none

/-- A caller's section that comes next and is about the task admits it for the period of the
pipeline, or finds the pipeline inactive. -/
def AsksForPeriod (machine : Machine) (p number : Nat) (task : TaskHandle) : Prop :=
  ∀ activity below part pipeline, machine.agenda = activity :: below →
    activity.asked? = some (number, part) → part.changes? = some task →
    machine.pipelines[p]? = some pipeline → pipeline.task = task →
    (∃ startUs, part = .insert task startUs pipeline.desc.deadlineUs) ∨ pipeline.active = false

theorem step_asks {activity : Activity} {below : List Activity} {ask : Nat × Section}
    (agenda : machine.agenda = activity :: below) (asks : machine.asks? activity = some ask) :
    machine.step.agenda = .acquire ask.1 ask.2 :: below ∨ machine.step.agenda = below := by
  cases activity with
  | call current call =>
      cases call with
      | scheduler number call =>
          obtain ⟨part, wants, rfl⟩ := Option.map_eq_some_iff.mp asks
          rw [step_cons agenda]
          simp only [carryOut, perform]
          split
          · exact .inr rfl
          · split
            · left
              cases call <;> cases wants <;> rfl
            · exact .inr rfl
      | pipeline number call =>
          obtain ⟨pipeline, found, wanted⟩ := Option.bind_eq_some_iff.mp asks
          obtain ⟨part, wants, rfl⟩ := Option.map_eq_some_iff.mp wanted
          left
          rw [step_cons agenda]
          simp only [carryOut, perform, found]
          cases call with
          | command command =>
              cases command with
              | start | release =>
                  change (if pipeline.desc.timerDriven then _ else _) = _ at wants
                  split at wants
                  case isTrue driven =>
                    cases wants
                    simp only [performPipeline, performCommand, driven, if_true]
                    rfl
                  case isFalse => cases wants
              | pause | stop =>
                  cases wants
                  rfl
              | suspend | resume => cases wants
          | scheduleCopy startUs =>
              change (if pipeline.active then _ else _) = _ at wants
              split at wants
              case isTrue active =>
                cases wants
                simp only [performPipeline, active, if_true]
                rfl
              case isFalse => cases wants
          | free =>
              change (if pipeline.active then _ else _) = _ at wants
              split at wants
              case isTrue => cases wants
              case isFalse idle =>
                cases wants
                simp only [performPipeline, idle]
                rfl
          | checkDeadline | describe =>
              cases wants
              rfl
          | xrun | unknown => cases wants
      | _ => cases asks
  | _ => cases asks

theorem AsksInFront.step (front : machine.AsksInFront) (reachable : Reachable machine)
    (alone : machine.isInterposedNext = false) : machine.step.AsksInFront := by
  intro duty member
  cases agenda : machine.agenda with
  | nil =>
      rw [step_of_isIdle machine (by simp [isIdle, agenda]), agenda] at member
      cases member
  | cons activity below =>
      have behind (other : Activity) (there : other ∈ below) : other.asked? = none :=
        front other (by rw [agenda]; exact there)
      have later (after : Activity) (same : machine.step.agenda = after :: below) :
          duty.asked? = none := by
        rw [same] at member
        exact behind duty member
      obtain ⟨added, here, reason⟩ := step_stacked agenda
      cases asked : duty.asked? with
      | none => rfl
      | some ask =>
          have new : duty ∈ added := by
            rw [here] at member
            rcases List.mem_append.mp (List.mem_of_mem_tail member) with added | below
            · exact added
            · rw [behind duty below] at asked
              cases asked
          -- What is asked for now was waiting in front, or is asked for by the call in front.
          rcases reason duty new ask asked with waited | asks
          · cases activity with
            | acquire number part =>
                have stepped := step_acquire_alone agenda (not_interposed_acquire agenda alone)
                rw [later _ (by rw [stepped])] at asked
                cases asked
            | enter number part =>
                cases found : machine.scheduler? number with
                | none =>
                    rw [step_enter_gone agenda found] at member
                    rw [behind duty (List.mem_of_mem_tail member)] at asked
                    cases asked
                | some scheduler =>
                    have free := reachable.free_of_agenda found agenda fun leaves => by cases leaves
                    rw [step_enter_eq agenda found free rfl] at member
                    rcases List.mem_append.mp member with made | old
                    · rw [part.next_unasked scheduler number machine.clock
                        machine.pipelines.length duty made] at asked
                      cases asked
                    · rw [behind duty old] at asked
                      cases asked
            | _ => cases waited
          · rcases step_asks agenda asks with stepped | stepped
            · rw [later _ stepped] at asked
              cases asked
            · rw [stepped] at member
              rw [behind duty (List.mem_of_mem_tail member)] at asked
              cases asked

theorem asks_own {current : Option TaskHandle} {call : PipelineCall} {pipeline : Pipeline}
    {part : Section} (wants : pipeline.part? p call = some part)
    (changes : part.changes? = some pipeline.task) :
    (∃ startUs, part = .insert pipeline.task startUs pipeline.desc.deadlineUs) ∨
      ((Activity.call current (.pipeline p call)).alters p pipeline).active = false := by
  cases call with
  | command command =>
      cases command with
      | start | release =>
          left
          change (if pipeline.desc.timerDriven then _ else _) = _ at wants
          split at wants
          · cases wants
            exact ⟨0, rfl⟩
          · cases wants
      | pause | stop =>
          right
          simp [Activity.alters, Activity.starts?, Activity.stops?, Pipeline.deactivate]
      | suspend | resume => cases wants
  | scheduleCopy startUs =>
      left
      change (if pipeline.active then _ else _) = _ at wants
      split at wants
      · cases wants
        exact ⟨startUs, rfl⟩
      · cases wants
  | free =>
      right
      change (if pipeline.active then _ else _) = _ at wants
      split at wants
      · cases wants
      case isFalse idle =>
        rw [Bool.not_eq_true] at idle
        simp [Activity.alters, Activity.starts?, Activity.stops?, Activity.reports?, idle]
  | checkDeadline | describe =>
      cases wants
      cases changes
  | xrun | unknown => cases wants

theorem asks_period {activity : Activity} {below : List Activity} {part : Section}
    {pipeline : Pipeline} (agenda : machine.agenda = activity :: below)
    (asks : machine.asks? activity = some (number, part))
    (untouched : isTouchedNext p number task machine = false)
    (changes : part.changes? = some task) (found : machine.pipelines[p]? = some pipeline)
    (own : pipeline.task = task) :
    (∃ startUs, part = .insert task startUs pipeline.desc.deadlineUs) ∨
      (activity.alters p pipeline).active = false := by
  have besides (apart : machine.asksBesides? p activity = machine.asks? activity) : False := by
    have touches : part.touches? = some task := part.touches?_eq.trans changes
    simp [isTouchedNext, agenda, apart, asks, touches] at untouched
  cases activity with
  | call current call =>
      cases call with
      | pipeline other call =>
          by_cases same : other = p
          · subst same
            obtain ⟨held, there, wanted⟩ := Option.bind_eq_some_iff.mp asks
            obtain ⟨_, wants, ask⟩ := Option.map_eq_some_iff.mp wanted
            cases found.symm.trans there
            cases ask
            rw [← own] at changes ⊢
            exact asks_own wants changes
          · exact (besides (if_neg same)).elim
      | _ => exact (besides rfl).elim
  | _ => cases asks

theorem AsksForPeriod.step (period : machine.AsksForPeriod p number task)
    (front : machine.AsksInFront) (untouched : isTouchedNext p number task machine = false) :
    machine.step.AsksForPeriod p number task := by
  intro duty behind part later stepped asked changes there named
  have member : duty ∈ machine.step.agenda := by
    rw [stepped]
    exact List.mem_cons_self
  cases before : machine.pipelines[p]? with
  | none =>
      -- A pipeline is made under the lock, which is left next.
      obtain ⟨_, _, made, rest, scheduler, agenda, found, free, _⟩ := step_attaches before there
      rw [step_enter_eq agenda found free rfl] at stepped
      cases List.head_eq_of_cons_eq stepped
      cases asked
  | some pipeline =>
      have fixed (activity : Activity) (below : List Activity)
          (agenda : machine.agenda = activity :: below) : later = activity.alters p pipeline :=
        Option.some.inj (there.symm.trans (step_alters agenda before))
      rcases step_asked member asked with ⟨other, waiting, same⟩ | ⟨activity, below, agenda, asks⟩
      · cases agenda : machine.agenda with
        | nil =>
            rw [agenda] at waiting
            cases waiting
        | cons activity below =>
            rw [agenda] at waiting
            have first : other = activity := by
              rcases List.mem_cons.mp waiting with first | tail
              · exact first
              · rw [front other (by rw [agenda]; exact tail)] at same
                cases same
            subst first
            have unaltered : other.alters p pipeline = pipeline := by
              cases other with
              | acquire | enter => rfl
              | _ => cases same
            cases (fixed other below agenda).trans unaltered
            exact period other below part later agenda same changes before named
      · cases fixed activity below agenda
        obtain ⟨_, named', desc⟩ := activity.alters_fixed p pipeline
        rw [desc]
        exact asks_period agenda asks untouched changes before (named'.symm.trans named)

/-- On the way of an undisturbed run, callers' sections wait in front, and those about the task
of the pipeline admit it for its period or find it inactive. -/
theorem Trail.asks (trail : Trail past machine) (undisturbed : Undisturbed p number task past) :
    machine.AsksInFront ∧ machine.AsksForPeriod p number task := by
  induction trail with
  | boot start =>
      constructor
      · intro duty member
        cases member
      · intro activity below part pipeline agenda
        cases agenda
  | start call interposed _ rest ih =>
      constructor
      · intro duty member
        cases member
      · intro activity below part pipeline agenda asked
        cases List.head_eq_of_cons_eq agenda
        cases asked
  | @step past machine trail ih =>
      obtain ⟨front, period⟩ := ih undisturbed.earlier
      exact ⟨front.step trail.reachable (undisturbed.alone machine List.mem_cons_self),
        period.step front (undisturbed.untouched machine List.mem_cons_self)⟩

end Machine

end EdfKernel
