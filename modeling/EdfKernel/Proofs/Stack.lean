import EdfKernel.Proofs.PassRequests

/-!
The agenda is a stack. An activity is taken off and others are put in its place; what was
behind it stays as it is until they are done, so a call returns to what made it. Sections
that a caller asks for come onto the stack in one way only, by the call that asks.
-/

namespace EdfKernel

namespace Activity

/-- A caller's section that waits for the lock, with its scheduler. -/
def asked? : Activity → Option (Nat × Section)
  | acquire number part | enter number part => if part.isCall then some (number, part) else none
  | _ => none

end Activity

namespace Pipeline

/-- The same pipeline later; if it is active then, it was so before or was `started`. -/
structure Keeps (pipeline later : Pipeline) (started : Prop) : Prop where
  scheduler : later.scheduler = pipeline.scheduler
  task : later.task = pipeline.task
  desc : later.desc = pipeline.desc
  active : later.active = true → pipeline.active = true ∨ started

theorem Keeps.refl (pipeline : Pipeline) (started : Prop) : pipeline.Keeps pipeline started :=
  ⟨rfl, rfl, rfl, .inl⟩

theorem Keeps.mono {pipeline later : Pipeline} {started restarted : Prop}
    (keeps : pipeline.Keeps later started) (further : started → restarted) :
    pipeline.Keeps later restarted :=
  ⟨keeps.scheduler, keeps.task, keeps.desc, fun active => (keeps.active active).imp_right further⟩

theorem keeps_modify {pipelines : List Pipeline} {number p : Nat} {pipeline : Pipeline}
    (found : pipelines[p]? = some pipeline) {started : Prop} (f : Pipeline → Pipeline)
    (keeps : number = p → pipeline.Keeps (f pipeline) started) :
    ∃ later, (pipelines.modify number f)[p]? = some later ∧ pipeline.Keeps later started := by
  rw [List.getElem?_modify, found]
  by_cases same : number = p
  · exact ⟨f pipeline, by simp [same], keeps same⟩
  · exact ⟨pipeline, by simp [same], .refl pipeline _⟩

end Pipeline

namespace Activity

def starts? : Activity → Option Nat
  | call _ (.pipeline number (.command .start)) | call _ (.pipeline number (.command .release)) =>
      some number
  | _ => none

end Activity

theorem Section.next_unasked (part : Section) (scheduler : Scheduler) (number : Nat)
    (clock : Ticks) (pipelines : Nat) :
    ∀ duty ∈ (part.effect scheduler number clock pipelines).next, duty.asked? = none := by
  intro duty member
  rcases part.next_duties scheduler number clock pipelines duty member with
    mine | ⟨pipeline, rfl⟩
  · have worked := (part.effect_done scheduler number clock pipelines).worked
    have made : duty ∈ (part.effect scheduler number clock pipelines).next.filter
        fun activity => activity.isDuty number :=
      List.mem_filter.mpr ⟨member, by simp [Activity.isDuty, mine]⟩
    generalize (part.effect scheduler number clock pipelines).next.filter
      (fun activity => activity.isDuty number) = next at worked made
    generalize (part.effect scheduler number clock pipelines).scheduler.table = after at worked
    cases worked with
    | call | looked => cases made
    | _ =>
        cases List.mem_singleton.mp made
        rfl
  · rfl

namespace Machine

/-- The section that an activity asks for, with its scheduler. -/
def asks? (machine : Machine) : Activity → Option (Nat × Section)
  | .call current (.scheduler number call) =>
      (call.part? current).map fun part => (number, part)
  | .call _ (.pipeline number call) =>
      machine.pipelines[number]?.bind fun pipeline =>
        (pipeline.part? number call).map fun part => (pipeline.scheduler, part)
  | _ => none

namespace Deed

variable {machine after : Machine} {activity : Activity}

/-- Whatever is carried out leaves the rest of the stack as it is, and only what it asks for is
asked for. -/
theorem stacked (deed : machine.Deed activity after) :
    ∃ added, after.agenda = added ++ machine.agenda ∧
      ∀ duty ∈ added, ∀ ask, duty.asked? = some ask →
        activity.asked? = some ask ∨ machine.asks? activity = some ask := by
  have plain (added : List Activity) (stacked : after.agenda = added ++ machine.agenda)
      (unasked : ∀ duty ∈ added, duty.asked? = none) :
      ∃ added, after.agenda = added ++ machine.agenda ∧
        ∀ duty ∈ added, ∀ ask, duty.asked? = some ask →
          activity.asked? = some ask ∨ machine.asks? activity = some ask := by
    refine ⟨added, stacked, fun duty member ask asked => ?_⟩
    rw [unasked duty member] at asked
    cases asked
  -- Whoever waits for the lock has been asked for already.
  have waits (added : List Activity) (stacked : after.agenda = added ++ machine.agenda)
      (asked : ∀ duty ∈ added, duty.asked? = none ∨ duty.asked? = activity.asked?) :
      ∃ added, after.agenda = added ++ machine.agenda ∧
        ∀ duty ∈ added, ∀ ask, duty.asked? = some ask →
          activity.asked? = some ask ∨ machine.asks? activity = some ask := by
    refine ⟨added, stacked, fun duty member ask asks => .inl ?_⟩
    rcases asked duty member with none | same
    · cases none.symm.trans asks
    · exact same.symm.trans asks
  have asked {number : Nat} {part : Section}
      (stacked : after.agenda = .acquire number part :: machine.agenda)
      (asks : machine.asks? activity = some (number, part)) :
      ∃ added, after.agenda = added ++ machine.agenda ∧
        ∀ duty ∈ added, ∀ ask, duty.asked? = some ask →
          activity.asked? = some ask ∨ machine.asks? activity = some ask := by
    refine ⟨[.acquire number part], stacked, fun duty member ask asked => .inr ?_⟩
    rw [List.mem_singleton.mp member] at asked
    simp only [Activity.asked?] at asked
    split at asked
    · exact asks.trans asked
    · cases asked
  have piped {current : Option TaskHandle} {number : Nat} {call : PipelineCall}
      {pipeline : Pipeline} {part : Section} (found : machine.pipelines[number]? = some pipeline)
      (own : pipeline.part? number call = some part) :
      machine.asks? (.call current (.pipeline number call)) = some (pipeline.scheduler, part) := by
    simp only [asks?, found, Option.bind_some, own, Option.map_some]
  cases deed with
  | acquired number part => exact waits [.enter number part] rfl (by simp [Activity.asked?])
  | interposed number part script =>
      exact waits [.script none script, .enter number part] rfl (by simp [Activity.asked?])
  | waited number part => exact waits [.enter number part] rfl (by simp)
  | entered number part scheduler effect found free made =>
      subst made
      refine plain (.leave number :: _) rfl fun duty member => ?_
      rcases List.mem_cons.mp member with rfl | made
      · rfl
      · exact part.next_unasked scheduler number machine.clock machine.pipelines.length duty made
  | asked current number call part asks =>
      exact asked rfl (by simp only [asks?, asks, Option.map_some])
  | pipeAsked current number call query pipeline found part own => exact asked rfl (piped found own)
  | startedDriven current number command starts pipeline found part own
  | stopped current number command stops pipeline found part own =>
      exact asked rfl (piped found own)
  | early _ _ _ polls | wokeNobody _ _ _ polls | woke _ _ _ polls =>
      cases polls <;> exact plain [_] rfl (by simp [Activity.asked?])
  | rang _ _ _ polls => cases polls <;> exact plain [_, _] rfl (by simp [Activity.asked?])
  | putOff _ _ _ resumes passes =>
      exact plain resumes rfl (by cases passes <;> simp [Activity.asked?])
  | begun _ number wakes resumes passes =>
      exact plain (.acquire number (.select wakes) :: resumes) rfl
        (by cases passes <;> simp [Activity.asked?, Section.isCall])
  | called => exact plain [_, _, _] rfl (by simp [Activity.asked?])
  | guarded | locked | interrupted | handed | ranTask | ranCopy =>
      exact plain [_, _] rfl (by simp [Activity.asked?])
  | spared | returned => exact plain [_, _] rfl (by simp [Activity.asked?, Section.isCall])
  | skipped | lookedUp => exact plain [_] rfl (by simp [Activity.asked?, Section.isCall])
  | stepped | advanced | dispatched | wentOn | passedOver | spurious | unheard =>
      exact plain [_] rfl (by simp [Activity.asked?])
  | _ => exact plain [] rfl (List.forall_mem_nil _)

theorem piped (deed : machine.Deed activity after) {p : Nat} {pipeline : Pipeline}
    (found : machine.pipelines[p]? = some pipeline) :
    ∃ later, after.pipelines[p]? = some later ∧
      pipeline.Keeps later (activity.starts? = some p) := by
  cases deed with
  | entered =>
      have inside := (List.getElem?_eq_some_iff.mp found).1
      exact ⟨pipeline, (List.getElem?_append_left inside).trans found, .refl pipeline _⟩
  | started current number command starts | startedDriven current number command starts =>
      refine Pipeline.keeps_modify found Pipeline.activate ?_
      rintro rfl
      refine ⟨rfl, rfl, rfl, fun _ => .inr ?_⟩
      rcases starts with rfl | rfl <;> rfl
  | stopped =>
      exact Pipeline.keeps_modify found Pipeline.deactivate fun _ => ⟨rfl, rfl, rfl, nofun⟩
  | told =>
      exact Pipeline.keeps_modify found (fun pipeline => { pipeline with xrunReported := true })
        fun _ => ⟨rfl, rfl, rfl, .inl⟩
  | _ => exact ⟨pipeline, found, .refl pipeline _⟩

end Deed

variable {machine : Machine}

variable {number : Nat}

theorem step_stacked {activity : Activity} {below : List Activity}
    (agenda : machine.agenda = activity :: below) :
    ∃ above, machine.step.agenda = above ++ below ∧
      ∀ duty ∈ above, ∀ ask, duty.asked? = some ask →
        activity.asked? = some ask ∨ machine.asks? activity = some ask := by
  exact (step_deed agenda).stacked

theorem step_above {above below : List Activity} (agenda : machine.agenda = above ++ below)
    (more : above ≠ []) : ∃ left, machine.step.agenda = left ++ below := by
  obtain ⟨activity, rest, rfl⟩ := List.exists_cons_of_ne_nil more
  obtain ⟨added, here, _⟩ := step_stacked (agenda.trans (List.cons_append ..))
  exact ⟨added ++ rest, by rw [here, List.append_assoc]⟩

theorem step_asked {duty : Activity} (member : duty ∈ machine.step.agenda) {ask : Nat × Section}
    (asked : duty.asked? = some ask) :
    (∃ other ∈ machine.agenda, other.asked? = some ask) ∨
      ∃ activity below, machine.agenda = activity :: below ∧
        machine.asks? activity = some ask := by
  cases agenda : machine.agenda with
  | nil =>
      rw [step_of_isIdle machine (by simp [isIdle, agenda]), agenda] at member
      cases member
  | cons activity below =>
      obtain ⟨added, here, reason⟩ := step_stacked agenda
      rw [here] at member
      rcases List.mem_append.mp member with new | old
      · rcases reason duty new ask asked with before | asks
        · exact .inl ⟨activity, List.mem_cons_self, before⟩
        · exact .inr ⟨activity, below, rfl, asks⟩
      · exact .inl ⟨duty, List.mem_cons_of_mem _ old, asked⟩

theorem step_piped {p : Nat} {pipeline : Pipeline}
    (found : machine.pipelines[p]? = some pipeline) :
    ∃ later, machine.step.pipelines[p]? = some later ∧
      pipeline.Keeps later
        (∃ activity below, machine.agenda = activity :: below ∧ activity.starts? = some p) := by
  cases agenda : machine.agenda with
  | nil =>
      rw [step_of_isIdle machine (by simp [isIdle, agenda])]
      exact ⟨pipeline, found, .refl pipeline _⟩
  | cons activity below =>
      obtain ⟨later, here, kept⟩ := (step_deed agenda).piped found
      exact ⟨later, here, kept.mono fun starts => ⟨activity, below, rfl, starts⟩⟩

variable {scheduler : Scheduler}

theorem step_leave {below : List Activity} (agenda : machine.agenda = .leave number :: below)
    (found : machine.scheduler? number = some scheduler) :
    machine.step =
      { machine with
        irq := machine.irq.unmask
        schedulers := machine.schedulers.set number (some { scheduler with locked := false })
        agenda := below } := by
  have here : ({ machine with agenda := below } : Machine).scheduler? number =
      some scheduler := found
  rw [step_cons agenda]
  simp only [carryOut, leave, here, setScheduler]

theorem step_enter_locked {part : Section} {below : List Activity}
    (agenda : machine.agenda = .enter number part :: below)
    (found : machine.scheduler? number = some scheduler) (held : scheduler.locked = true) :
    machine.step = machine := by
  have here : ({ machine with agenda := below } : Machine).scheduler? number =
      some scheduler := found
  rw [step_cons agenda]
  simp only [carryOut, enter, here, held, if_true, push, List.cons_append, List.nil_append]
  rw [← agenda]

theorem step_enter_gone {part : Section} {below : List Activity}
    (agenda : machine.agenda = .enter number part :: below)
    (gone : machine.scheduler? number = none) :
    machine.step = { machine with agenda := below } := by
  have here : ({ machine with agenda := below } : Machine).scheduler? number = none := gone
  rw [step_cons agenda]
  simp only [carryOut, enter, here]

theorem step_acquire {part : Section} {below : List Activity}
    (agenda : machine.agenda = .acquire number part :: below) :
    ∃ above, machine.step.agenda = above ++ .enter number part :: below := by
  rw [step_cons agenda]
  simp only [carryOut, acquire]
  split
  · exact ⟨[.script none _], rfl⟩
  · exact ⟨[], rfl⟩

/-- After that many steps everything above `below` is done, for the first time. -/
structure Returns (machine : Machine) (below : List Activity) (steps : Nat) : Prop where
  back : (machine.run steps).agenda = below
  above : ∀ k < steps, below.length < (machine.run k).agenda.length

namespace Returns

variable {below : List Activity} {steps : Nat}

theorem done (returns : machine.Returns below steps) (agenda : machine.agenda = below) :
    steps = 0 := by
  cases steps with
  | zero => rfl
  | succ fewer =>
      have more := returns.above 0 (Nat.succ_pos fewer)
      change below.length < machine.agenda.length at more
      rw [agenda] at more
      exact absurd more (Nat.lt_irrefl _)

theorem step (returns : machine.Returns below steps)
    (more : below.length < machine.agenda.length) :
    ∃ fewer, steps = fewer + 1 ∧ machine.step.Returns below fewer := by
  cases steps with
  | zero =>
      have back : machine.agenda = below := returns.back
      rw [back] at more
      exact absurd more (Nat.lt_irrefl _)
  | succ fewer =>
      refine ⟨fewer, rfl, ?_, fun k less => ?_⟩
      · rw [← run_succ]
        exact returns.back
      · rw [← run_succ]
        exact returns.above (k + 1) (Nat.succ_lt_succ less)

theorem reaches (returns : machine.Returns below steps) {above : List Activity}
    {activity : Activity} (agenda : machine.agenda = above ++ activity :: below) :
    ∃ k fewer, steps = k + fewer ∧ (machine.run k).agenda = activity :: below ∧
      (machine.run k).Returns below fewer := by
  -- By induction on the steps, not on what is above: each step may put more there.
  induction steps generalizing machine above with
  | zero =>
      have back : machine.agenda = below := returns.back
      have longer := congrArg List.length (back.symm.trans agenda)
      simp at longer
      omega
  | succ steps ih =>
      cases above with
      | nil => exact ⟨0, steps + 1, by omega, agenda, returns⟩
      | cons first rest =>
          have more : below.length < machine.agenda.length := by
            rw [agenda]
            simp
            omega
          obtain ⟨fewer, same, later⟩ := returns.step more
          cases same
          obtain ⟨left, stepped⟩ := step_above agenda (List.cons_ne_nil first rest)
          obtain ⟨k, remaining, total, here, there⟩ := ih later stepped
          refine ⟨k + 1, remaining, by omega, ?_, ?_⟩
          · rw [run_succ]
            exact here
          · rw [run_succ]
            exact there

end Returns

end Machine

end EdfKernel
