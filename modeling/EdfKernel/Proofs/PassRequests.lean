import EdfKernel.Proofs.LineChanges

/-!
A pass lowers its line when it begins, and never after. So whatever asks for another
pass while this one is under way, from whatever depth of calls, is still asking when
it returns; and if nobody asked, the line is down.
-/

namespace EdfKernel

namespace Machine

def AboutToRaise (machine : Machine) (line : Nat) : Prop :=
  ∃ activity rest, machine.agenda = activity :: rest ∧
    ({ machine with agenda := rest } : Machine).Raises line activity

def isClearedNext (machine : Machine) (line : Nat) : Bool :=
  match machine.agenda with
  | .call _ (.platform (.clear other)) :: _ => other = line
  | _ => false

theorem AboutToRaise.pending {machine : Machine} {line : Nat}
    (raises : machine.AboutToRaise line) (inside : line < lineCount) :
    machine.step.irq.isPending line = true := by
  obtain ⟨activity, rest, agenda, reason⟩ := raises
  rw [step_cons agenda]
  exact reason.pending inside

def Listens (machine : Machine) : Prop :=
  ∀ number scheduler, machine.scheduler? number = some scheduler →
    machine.irq.handler? scheduler.config.line = some (.scheduler number)

theorem Reachable.listens {machine : Machine} (reachable : Reachable machine) :
    machine.Listens := by
  induction reachable with
  | boot start =>
      intro number scheduler found
      simp [scheduler?, Machine.boot] at found
  | start call interposed _ rest ih => exact ih
  | @step machine _ ih =>
      cases agenda : machine.agenda with
      | nil =>
          rw [step_of_isIdle machine (by simp [isIdle, agenda])]
          exact ih
      | cons activity rest =>
          intro number later there
          have deed := step_deed agenda
          rcases deed.scheduler_cases there with ⟨_, listens⟩ | ⟨earlier, found, same, _⟩
          · exact listens
          · rw [same]
            exact deed.handler? (ih number earlier found)

theorem Listens.unique {machine : Machine} (listens : machine.Listens) {one other : Nat}
    {mine yours : Scheduler} (here : machine.scheduler? one = some mine)
    (there : machine.scheduler? other = some yours)
    (shared : mine.config.line = yours.config.line) : one = other := by
  have first := listens one mine here
  rw [shared, listens other yours there] at first
  cases first
  rfl

/-- While its pass is under way, a scheduler's line is lowered only by a direct call. -/
theorem Listens.lowers {machine : Machine} (listens : machine.Listens) {number : Nat}
    {scheduler : Scheduler} (found : machine.scheduler? number = some scheduler)
    (busy : scheduler.inPass = true) {activity : Activity}
    (lowers : machine.Lowers scheduler.config.line activity) :
    ∃ current, activity = .call current (.platform (.clear scheduler.config.line)) := by
  generalize own : scheduler.config.line = line at lowers
  cases lowers with
  | directly current => exact ⟨current, rfl⟩
  | begun _ other held there shares idle =>
      cases listens.unique found there (own.trans shares.symm)
      cases found.symm.trans there
      rw [busy] at idle
      cases idle
  | spurious delivered tally state looked unhandled =>
      have handles := listens number scheduler found
      rw [own, Controller.handler?, looked] at handles
      cases unhandled.symm.trans handles

variable {machine : Machine} {number : Nat} {scheduler : Scheduler}

/-- The line of a scheduler whose pass is under way changes for two reasons only. -/
theorem Reachable.step_pending (reachable : Reachable machine)
    (found : machine.scheduler? number = some scheduler) (busy : scheduler.inPass = true)
    (kept : machine.isClearedNext scheduler.config.line = false) :
    machine.step.irq.isPending scheduler.config.line = true ↔
      machine.irq.isPending scheduler.config.line = true ∨
        machine.AboutToRaise scheduler.config.line := by
  have inside := Controller.lt_lineCount_of_handler? (reachable.listens number scheduler found)
  cases agenda : machine.agenda with
  | nil =>
      rw [step_of_isIdle machine (by simp [isIdle, agenda])]
      simp [AboutToRaise, agenda]
  | cons activity rest =>
      have cases := (step_deed agenda).pending_cases scheduler.config.line
      constructor
      · intro pending
        rcases cases with same | ⟨_, raises⟩ | ⟨lowered, _⟩
        · exact .inl (same.symm.trans pending)
        · exact .inr ⟨activity, rest, agenda, raises⟩
        · rw [lowered] at pending
          cases pending
      · rintro (pending | raises)
        · rcases cases with same | ⟨raised, _⟩ | ⟨_, lowers⟩
          · exact same.trans pending
          · exact raised
          · have listens : ({ machine with agenda := rest } : Machine).Listens := reachable.listens
            obtain ⟨current, rfl⟩ := listens.lowers found busy lowers
            simp [isClearedNext, agenda] at kept
        · exact raises.pending inside

theorem step_begins {later : Scheduler}
    (found : machine.scheduler? number = some scheduler) (idle : scheduler.inPass = false)
    (there : machine.step.scheduler? number = some later) (busy : later.inPass = true) :
    machine.step.irq.isPending later.config.line = false := by
  cases agenda : machine.agenda with
  | nil =>
      rw [step_of_isIdle machine (by simp [isIdle, agenda]), found] at there
      cases there
      rw [idle] at busy
      cases busy
  | cons activity rest =>
      rcases (step_deed agenda).scheduler_cases there with
        ⟨fresh, _⟩ | ⟨earlier, before, _, begins⟩
      · rw [fresh] at busy
        cases busy
      · have same : machine.scheduler? number = some earlier := before
        cases found.symm.trans same
        rcases begins busy with still | cleared
        · rw [idle] at still
          cases still
        · rw [cleared, Controller.isPending_clear]
          simp

theorem step_config (found : machine.scheduler? number = some scheduler) :
    ∃ later, machine.step.scheduler? number = some later ∧ later.config = scheduler.config := by
  obtain ⟨done, _, move⟩ := step_moves machine number
  have held : (machine.focus number).scheduler = some scheduler := found
  obtain ⟨later, there⟩ := move.persists scheduler held
  refine ⟨later, there, ?_⟩
  rcases move.table_cases later there with ⟨absent, _⟩ | ⟨earlier, before, same, _⟩
  · cases held.symm.trans absent
  · cases held.symm.trans before
    exact same

theorem run_config (found : machine.scheduler? number = some scheduler) (steps : Nat) :
    ∃ later, (machine.run steps).scheduler? number = some later ∧
      later.config = scheduler.config := by
  induction steps with
  | zero => exact ⟨scheduler, found, rfl⟩
  | succ steps ih =>
      obtain ⟨earlier, here, same⟩ := ih
      obtain ⟨later, there, kept⟩ := step_config here
      rw [run_add, run_succ]
      exact ⟨later, there, kept.trans same⟩

def isInPass (machine : Machine) (number : Nat) : Bool :=
  (machine.scheduler? number).any (·.inPass)

theorem isInPass_iff :
    machine.isInPass number = true ↔
      ∃ scheduler, machine.scheduler? number = some scheduler ∧ scheduler.inPass = true := by
  rw [isInPass, Option.any_eq_true]

/-- A pass of the scheduler begins with the next step, and is under way in the `length`
states from there on. -/
structure PassSpan (first : Machine) (number length : Nat) : Prop where
  begins : first.isInPass number = false
  underWay : ∀ k < length, (first.run (k + 1)).isInPass number = true

namespace PassSpan

variable {first : Machine} {length : Nat}

theorem scheduler? (span : first.PassSpan number length)
    (found : first.scheduler? number = some scheduler) {k : Nat} (within : k < length) :
    ∃ held, (first.run (k + 1)).scheduler? number = some held ∧ held.inPass = true ∧
      held.config = scheduler.config := by
  obtain ⟨held, there, busy⟩ := isInPass_iff.mp (span.underWay k within)
  obtain ⟨other, here, same⟩ := run_config found (k + 1)
  cases there.symm.trans here
  exact ⟨held, there, busy, same⟩

/-- At any moment of a pass, the line is up just if something raised it since the
pass began. -/
theorem pending_iff (span : first.PassSpan number length) (reachable : Reachable first)
    (found : first.scheduler? number = some scheduler)
    (kept : ∀ k < length, (first.run (k + 1)).isClearedNext scheduler.config.line = false)
    (some' : 0 < length) {k : Nat} (within : k ≤ length) :
    (first.run (k + 1)).irq.isPending scheduler.config.line = true ↔
      ∃ j < k, (first.run (j + 1)).AboutToRaise scheduler.config.line := by
  -- By induction on the steps since the pass began, when the line was lowered.
  induction k with
  | zero =>
      obtain ⟨held, there, busy, same⟩ := span.scheduler? found some'
      have idle : scheduler.inPass = false := by
        cases inPass : scheduler.inPass with
        | false => rfl
        | true => exact absurd (isInPass_iff.mpr ⟨scheduler, found, inPass⟩) (by simp [span.begins])
      have lowered := step_begins found idle (by rwa [run_succ] at there) busy
      rw [← same, run_succ]
      simp [run, lowered]
  | succ k ih =>
      obtain ⟨held, there, busy, same⟩ := span.scheduler? found within
      have unclear := kept k within
      rw [← same] at unclear ih ⊢
      rw [run_add, run_succ]
      change (first.run (k + 1)).step.irq.isPending _ = true ↔ _
      rw [(reachable.run (k + 1)).step_pending there busy unclear, ih (Nat.le_of_lt within)]
      constructor
      · rintro (⟨j, less, raises⟩ | raises)
        · exact ⟨j, Nat.lt_succ_of_lt less, raises⟩
        · exact ⟨k, Nat.lt_succ_self k, raises⟩
      · rintro ⟨j, less, raises⟩
        rcases Nat.lt_succ_iff_lt_or_eq.mp less with before | rfl
        · exact .inl ⟨j, before, raises⟩
        · exact .inr raises

end PassSpan

theorem step_conclude {wakes : Bool} {outcome : PassOutcome} {rest : List Activity}
    (agenda : machine.agenda = .conclude number wakes outcome :: rest)
    (found : machine.scheduler? number = some scheduler) :
    machine.step =
      { machine with
        schedulers := machine.schedulers.set number (some scheduler.endPass)
        reply := .ok (.outcome outcome)
        agenda := ((outcome.next.filter fun _ => wakes).map fun task =>
          Activity.acquire number (.wake outcome task)).toList ++ rest } := by
  have here : ({ machine with agenda := rest } : Machine).scheduler? number =
      some scheduler := found
  rw [step_cons agenda]
  simp only [carryOut, conclude, here]
  cases outcome.next with
  | none => rfl
  | some task => cases wakes <;> rfl

theorem scheduler?_step_conclude {wakes : Bool} {outcome : PassOutcome} {rest : List Activity}
    (agenda : machine.agenda = .conclude number wakes outcome :: rest)
    (found : machine.scheduler? number = some scheduler) :
    machine.step.scheduler? number = some scheduler.endPass := by
  rw [step_conclude agenda found]
  exact scheduler?_setScheduler_self machine number scheduler _ found

theorem not_aboutToRaise_of_conclude {wakes : Bool} {outcome : PassOutcome}
    {rest : List Activity} (agenda : machine.agenda = .conclude number wakes outcome :: rest)
    (line : Nat) : ¬ machine.AboutToRaise line := by
  rintro ⟨activity, others, same, raises⟩
  rw [agenda] at same
  cases same
  cases raises with
  | woken _ now arming other scheduler polls armed due wakes alive found own => cases polls

/-- A pass that returns leaves its line raised just if, since it began, somebody raised
the line: by asking for a pass, by trying to run one, by a wake-up that was due, or by a
section that admitted a task or found the chosen one changed. -/
theorem pending_at_return_iff {first : Machine} (reachable : Reachable first)
    (found : first.scheduler? number = some scheduler) {length : Nat}
    (span : first.PassSpan number length) {wakes : Bool} {outcome : PassOutcome}
    {rest : List Activity}
    (ends : (first.run length).agenda = .conclude number wakes outcome :: rest)
    (kept : ∀ k < length, (first.run (k + 1)).isClearedNext scheduler.config.line = false) :
    (first.run (length + 1)).isInPass number = false ∧
      ((first.run (length + 1)).irq.isPending scheduler.config.line = true ↔
        ∃ k, k + 1 < length ∧ (first.run (k + 1)).AboutToRaise scheduler.config.line) := by
  have linked : Activity.conclude number wakes outcome ∈ (first.run length).duties number := by
    rw [duties_cons ends rfl]
    exact List.mem_cons_self
  obtain ⟨held, there, same⟩ := run_config found length
  have busy := (reachable.run length).inPass_of_mem there linked rfl
  have some' : 0 < length := by
    rcases Nat.eq_zero_or_pos length with rfl | positive
    · have inPass := isInPass_iff.mpr ⟨held, there, busy⟩
      rw [show first.run 0 = first from rfl, span.begins] at inPass
      cases inPass
    · exact positive
  constructor
  · rw [run_add, run_succ]
    change (first.run length).step.isInPass number = false
    rw [isInPass, scheduler?_step_conclude ends there]
    rfl
  · rw [span.pending_iff reachable found kept some' (Nat.le_refl length)]
    constructor
    · rintro ⟨j, less, raises⟩
      refine ⟨j, ?_, raises⟩
      by_contra last
      have same : j + 1 = length := by omega
      rw [same] at raises
      exact not_aboutToRaise_of_conclude ends _ raises
    · rintro ⟨j, less, raises⟩
      exact ⟨j, Nat.lt_of_succ_lt less, raises⟩

theorem aboutToRaise_of_putOff {current : Option TaskHandle} {call : SchedulerCall Call}
    {rest : List Activity}
    (agenda : machine.agenda = .call current (.scheduler number call) :: rest)
    (asks : call = .run ∨ call = .runPass) (found : machine.scheduler? number = some scheduler)
    (owned : scheduler.owned = true) (busy : scheduler.inPass = true) :
    machine.AboutToRaise scheduler.config.line :=
  ⟨_, _, agenda, .putOff current number scheduler call found owned rfl busy asks⟩

/-- A pass is about to begin whose work tries to run another one. -/
def insistent : Machine :=
  let alone : Nat → Option Script := fun _ => none
  let turn : Turn Call := ⟨[.scheduler 0 .runPass], .done⟩
  let set := (boot 0).exec 1 (.init ⟨1000000, 0, 7, 2⟩ .inline) alone
  let made := set.exec 4 (.scheduler 0 (.create [turn] .default)) alone
  (made.exec 4 (.scheduler 0 (.insert (some ⟨0, 0⟩) 0 1000)) alone).start
    (.scheduler 0 .runPass) alone

theorem insistent_reachable : Reachable insistent := by
  unfold insistent exec
  refine .start _ _ (.run (.start _ _ (.run (.start _ _ ?_ rfl) 4) rfl) 4) rfl
  exact .run (.start _ _ (.boot 0) rfl) 1

/-- The pass that was put off is still asked for when the first one returns. -/
theorem insistent_pending :
    (insistent.run 20).isInPass 0 = false ∧ (insistent.run 20).irq.isPending 7 = true := by
  have found : insistent.scheduler? 0 = some _ := rfl
  have span : insistent.PassSpan 0 19 := ⟨rfl, by decide⟩
  have ends : (insistent.run 19).agenda = [.conclude 0 false ⟨some ⟨0, 0⟩, none⟩] := rfl
  have kept : ∀ k < 19, (insistent.run (k + 1)).isClearedNext 7 = false := by decide
  obtain ⟨returned, pending⟩ := pending_at_return_iff insistent_reachable found span ends kept
  have busy : (insistent.run 11).scheduler? 0 = some _ := rfl
  have next : (insistent.run 11).agenda = .call _ (.scheduler 0 .runPass) :: _ := rfl
  have raises := aboutToRaise_of_putOff next (.inr rfl) busy rfl rfl
  exact ⟨returned, pending.mpr ⟨10, by decide, raises⟩⟩

end Machine

end EdfKernel
