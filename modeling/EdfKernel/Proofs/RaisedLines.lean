import EdfKernel.Proofs.PassCalls
import EdfKernel.Proofs.PipelineStops

/-!
How long a line stays raised. A sweep lowers only what nobody handles, so a line with a handler
is lowered in two ways: somebody clears it, or a pass of its scheduler begins, which clears it
first. Until then it is raised, whatever else is masked, closed or delivered.
-/

namespace EdfKernel

namespace Controller

variable {η : Type} {irq : Controller η} {line n : Nat}

def isHandled (irq : Controller η) (line : Nat) : Bool := (irq.handler? line).isSome

theorem isHandled_iff :
    irq.isHandled line = true ↔
      ∃ state, irq.line? line = some state ∧ state.handler.isSome = true := by
  simp only [isHandled, handler?, Option.isSome_iff_exists, Option.bind_eq_some_iff]
  constructor
  · rintro ⟨handler, state, found, handles⟩
    exact ⟨state, found, handler, handles⟩
  · rintro ⟨state, found, handler, handles⟩
    exact ⟨handler, state, found, handles⟩

theorem lt_lineCount_of_isHandled (handled : irq.isHandled line = true) : line < lineCount :=
  let ⟨_, handles⟩ := Option.isSome_iff_exists.mp handled
  lt_lineCount_of_handler? handles

theorem isHandled_modify (handled : irq.isHandled line = true) (n : Nat) {f : Line η → Line η}
    (kept : ∀ state, state.handler.isSome = true → (f state).handler.isSome = true) :
    (irq.modify n f).isHandled line = true := by
  obtain ⟨state, found, handles⟩ := isHandled_iff.mp handled
  rw [isHandled_iff, line?_modify]
  split
  · exact ⟨f state, by rw [found]; rfl, kept state handles⟩
  · exact ⟨state, found, handles⟩

theorem isHandled_register {handler : η} {after : Controller η}
    (handled : irq.isHandled line = true) (registered : irq.register n handler = .ok after) :
    after.isHandled line = true := by
  obtain ⟨_, rfl⟩ := register_cases registered
  exact isHandled_modify handled n fun _ _ => rfl

theorem isPending_clear_of_ne (pending : irq.isPending line = true) (other : n ≠ line) :
    (irq.clear n).isPending line = true := by
  rw [isPending_clear, decide_eq_true (Ne.symm other), Bool.true_and]
  exact pending

end Controller

namespace Machine

variable {machine : Machine} {line number : Nat} {activity : Activity} {rest : List Activity}

theorem Deed.isHandled {after : Machine} (deed : machine.Deed activity after)
    (handled : machine.irq.isHandled line = true) : after.irq.isHandled line = true := by
  cases deed with
  | enabled | disabled | requested | cleared | passRequested | woke | putOff | begun | spurious =>
      exact Controller.isHandled_modify handled _ fun _ handles => handles
  | interrupted other =>
      refine Controller.isHandled_modify handled other fun _ handles => ?_
      rw [Option.isSome_map]
      exact handles
  | registered current other scripts irq registered =>
      exact Controller.isHandled_register handled registered
  | setUp current config executor valid irq registered =>
      exact Controller.isHandled_modify (Controller.isHandled_register handled registered) _
        fun _ handles => handles
  | entered =>
      dsimp only
      split
      · have masked : machine.irq.mask.isHandled line = true := handled
        exact Controller.isHandled_modify masked _ fun _ handles => handles
      · exact handled
  | _ => exact handled

theorem step_isHandled (handled : machine.irq.isHandled line = true) :
    machine.step.irq.isHandled line = true := by
  cases agenda : machine.agenda with
  | nil =>
      rw [step_of_isIdle machine (by simp [isIdle, agenda])]
      exact handled
  | cons activity rest => exact (step_deed agenda).isHandled handled

def beginsPassOf (line : Nat) (machine : Machine) : Bool :=
  machine.agenda.head?.any fun activity =>
    (activity.passes? { machine with agenda := machine.agenda.tail }).any fun number =>
      (machine.scheduler? number).any fun scheduler =>
        scheduler.config.line = line && !scheduler.inPass

/-- The next step acknowledges the line: somebody clears it, or a pass of its scheduler begins. -/
def isAcknowledgedNext (line : Nat) (machine : Machine) : Bool :=
  machine.isClearedNext line || machine.beginsPassOf line

theorem beginsPassOf_iff (agenda : machine.agenda = activity :: rest) :
    machine.beginsPassOf line = true ↔
      ∃ number scheduler, activity.passes? { machine with agenda := rest } = some number ∧
        machine.scheduler? number = some scheduler ∧ scheduler.config.line = line ∧
        scheduler.inPass = false := by
  simp only [beginsPassOf, agenda, List.head?_cons, List.tail_cons, Option.any_some,
    Option.any_eq_true, Bool.and_eq_true, decide_eq_true_eq, Bool.not_eq_true']
  constructor
  · rintro ⟨number, passes, scheduler, found, own, idle⟩
    exact ⟨number, scheduler, passes, found, own, idle⟩
  · rintro ⟨number, scheduler, passes, found, own, idle⟩
    exact ⟨number, passes, scheduler, found, own, idle⟩

theorem step_acknowledged (acknowledged : isAcknowledgedNext line machine = true) :
    machine.step.irq.isPending line = false := by
  rcases (Bool.or_eq_true _ _).mp acknowledged with cleared | begins
  · unfold isClearedNext at cleared
    split at cleared
    case h_1 current other rest agenda =>
      obtain rfl := of_decide_eq_true cleared
      rw [step_cons agenda]
      exact Controller.isPending_clear_self _ _
    case h_2 => cases cleared
  · cases agenda : machine.agenda with
    | nil =>
        rw [beginsPassOf, agenda] at begins
        cases begins
    | cons activity rest =>
        obtain ⟨number, scheduler, passes, found, rfl, idle⟩ := (beginsPassOf_iff agenda).mp begins
        rw [step_of_passes agenda passes found idle]
        exact Controller.isPending_clear_self _ _

theorem Deed.lowered {after : Machine} (deed : machine.Deed activity after)
    (handled : machine.irq.isHandled line = true) (pending : machine.irq.isPending line = true)
    (lowered : after.irq.isPending line = false) :
    (∃ current, activity = .call current (.platform (.clear line))) ∨
      ∃ number scheduler, activity.passes? machine = some number ∧
        machine.scheduler? number = some scheduler ∧ scheduler.config.line = line ∧
        scheduler.inPass = false := by
  -- Whatever leaves the line raised is not what lowered it.
  have raised {P : Prop} (still : after.irq.isPending line = true) : P := by
    cases lowered.symm.trans still
  have kept {P : Prop} (same : after.irq.isPending line = machine.irq.isPending line) : P :=
    raised (same.trans pending)
  cases deed with
  | cleared current other =>
      by_cases own : other = line
      · exact .inl ⟨current, by rw [own]⟩
      · exact raised (Controller.isPending_clear_of_ne pending own)
  | begun _ number wakes resumes passes scheduler found idle =>
      by_cases own : scheduler.config.line = line
      · exact .inr ⟨number, scheduler, passes.passes?, found, own, idle⟩
      · exact raised (Controller.isPending_clear_of_ne pending own)
  | spurious other delivered tally state looked ready unhandled =>
      refine raised (Controller.isPending_clear_of_ne pending ?_)
      rintro rfl
      obtain ⟨held, there, handles⟩ := Controller.isHandled_iff.mp handled
      cases looked.symm.trans there
      rw [unhandled] at handles
      cases handles
  | requested | passRequested | woke | putOff =>
      exact raised (Controller.isPending_request_of_pending pending _)
  | entered =>
      dsimp only at lowered
      split at lowered
      · have masked : machine.irq.mask.isPending line = true := pending
        cases lowered.symm.trans (Controller.isPending_request_of_pending masked _)
      · cases lowered.symm.trans pending
  | enabled => exact kept (Controller.isPending_enable ..)
  | disabled | interrupted => exact kept (Controller.isPending_modify _ _ _ _ fun _ => rfl)
  | registered current other scripts irq registered =>
      obtain ⟨_, rfl⟩ := Controller.register_cases registered
      exact kept (Controller.isPending_modify _ _ _ _ fun _ => rfl)
  | setUp current config executor valid irq registered =>
      obtain ⟨_, rfl⟩ := Controller.register_cases registered
      refine kept ((Controller.isPending_enable ..).trans ?_)
      exact Controller.isPending_modify _ _ _ _ fun _ => rfl
  | _ => exact raised pending

theorem step_lowers_iff (handled : machine.irq.isHandled line = true)
    (pending : machine.irq.isPending line = true) :
    machine.step.irq.isPending line = false ↔ isAcknowledgedNext line machine = true := by
  refine ⟨fun lowered => ?_, step_acknowledged⟩
  cases agenda : machine.agenda with
  | nil =>
      rw [step_of_isIdle machine (by simp [isIdle, agenda]), pending] at lowered
      cases lowered
  | cons activity rest =>
      rw [isAcknowledgedNext, Bool.or_eq_true]
      rcases (step_deed agenda).lowered handled pending lowered with ⟨current, rfl⟩ | begins
      · exact .inl (by simp [isClearedNext, agenda])
      · exact .inr ((beginsPassOf_iff agenda).mpr begins)

theorem Avoids.raised {first later : Machine}
    (avoids : Avoids (isAcknowledgedNext line) first later)
    (handled : first.irq.isHandled line = true) (pending : first.irq.isPending line = true) :
    later.irq.isHandled line = true ∧ later.irq.isPending line = true := by
  induction avoids with
  | refl => exact ⟨handled, pending⟩
  | start _ _ _ _ ih => exact ih
  | step _ unacknowledged ih =>
      refine ⟨step_isHandled ih.1, ?_⟩
      rw [← Bool.not_eq_false, step_lowers_iff ih.1 ih.2, unacknowledged]
      exact Bool.false_ne_true

theorem Avoids.of_raising {later : Machine} (raises : machine.AboutToRaise line)
    (handled : machine.irq.isHandled line = true)
    (avoids : Avoids (isAcknowledgedNext line) machine.step later) :
    later.irq.isPending line = true :=
  have inside := Controller.lt_lineCount_of_isHandled handled
  (avoids.raised (step_isHandled handled) (raises.pending inside)).2

end Machine

end EdfKernel
