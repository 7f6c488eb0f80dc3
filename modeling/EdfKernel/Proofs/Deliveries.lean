import EdfKernel.Proofs.Scenes

/-!
How a step of the platform comes to a scheduler and back while nobody interposes and no
other line is raised: the timer is polled, the lines are swept, the scheduler's own line
starts a pass, and the rounds go on until one finds nothing to do.
-/

namespace EdfKernel

namespace Controller

structure Serves (irq : Controller Handler) (number line : Nat) : Prop where
  unmasked : irq.maskDepth = 0
  own : irq.line? line = some ⟨some (.scheduler number), true, irq.isPending line⟩
  others : ∀ n ≠ line, ∀ other, irq.line? n = some other → other.isReady = false

variable {irq : Controller Handler} {number line : Nat}

namespace Serves

theorem inside (serves : irq.Serves number line) : line < lineCount := by
  have found := irq.line?_isSome line
  rw [serves.own] at found
  exact of_decide_eq_true found.symm

theorem isMasked (serves : irq.Serves number line) : irq.isMasked = false := by
  simp [Controller.isMasked, serves.unmasked]

theorem setPending (serves : irq.Serves number line) (pending : Bool) :
    (irq.modify line fun own => { own with pending }).Serves number line where
  unmasked := (irq.maskDepth_modify line _).trans serves.unmasked
  own := by
    have changed : (irq.modify line fun own => { own with pending }).line? line =
        some ⟨some (.scheduler number), true, pending⟩ := by
      rw [line?_modify, if_pos rfl, serves.own]
      rfl
    rw [isPending, changed]
    rfl
  others n apart other found := by
    rw [line?_modify, if_neg apart] at found
    exact serves.others n apart other found

theorem request (serves : irq.Serves number line) : (irq.request line).Serves number line :=
  serves.setPending true

theorem clear (serves : irq.Serves number line) : (irq.clear line).Serves number line :=
  serves.setPending false

end Serves

end Controller

namespace Scene

/-- The scheduler is still there for its line and its wake-up, with this agenda left to do. -/
def IsAlive (scene : Scene) (number : Nat) (agenda : List Activity) : Prop :=
  (scene.scheduler.owned || scene.pipelines.any (·.scheduler = number) ||
    agenda.any (·.scheduler? = some number)) = true

end Scene

theorem Machine.Shows.isAlive_iff {machine : Machine} {number : Nat} {scene : Scene}
    {agenda : List Activity} (shows : machine.Shows number scene agenda) :
    machine.isAlive number = true ↔ scene.IsAlive number agenda := by
  simp only [Machine.isAlive, shows.scheduler, shows.pipelines, shows.agenda, Option.any_some,
    Scene.IsAlive]

namespace Scene.Leads

open Machine

variable {number p line last delivered count rounds : Nat} {scene : Scene}
  {rest : List Activity} {tally : Tally}

/-! ### The sweep -/

theorem sweep_skip {quiet : Line Handler} (found : scene.irq.line? line = some quiet)
    (unready : quiet.isReady = false) :
    Leads number p scene (.sweep line delivered tally :: rest) [] scene
      (.sweep (line + 1) delivered tally :: rest) := by
  apply step
  intro machine shows
  simp only [carryOut, sweep, shows.irq, found, unready, Bool.false_eq_true, if_false]
  exact shows.push _

theorem sweep_over (ahead : line ≤ last) (inside : last ≤ lineCount)
    (unready : ∀ n, line ≤ n → n < last → ∀ quiet, scene.irq.line? n = some quiet →
      quiet.isReady = false) :
    Leads number p scene (.sweep line delivered tally :: rest) [] scene
      (.sweep last delivered tally :: rest) := by
  -- By induction on the lines in between; each is there, since `last` is at most their number.
  induction ahead with
  | refl => exact refl scene _
  | @step last ahead ih =>
      have before := ih (Nat.le_of_succ_le inside) fun n low high =>
        unready n low (Nat.lt_succ_of_lt high)
      have some' := scene.irq.line?_isSome last
      rw [decide_eq_true (show last < lineCount from inside)] at some'
      obtain ⟨quiet, found⟩ := Option.isSome_iff_exists.mp some'
      exact before.trans
        (sweep_skip found (unready last ahead (Nat.lt_succ_self last) quiet found))

theorem sweep_own (serves : scene.irq.Serves number scene.scheduler.config.line)
    (pending : scene.irq.isPending scene.scheduler.config.line = true)
    (alive : scene.IsAlive number rest) (idle : scene.scheduler.inPass = false) :
    Leads number p scene (.sweep scene.scheduler.config.line delivered tally :: rest) []
      { scene with
        irq := scene.irq.clear scene.scheduler.config.line
        scheduler := scene.scheduler.beginPass }
      (.acquire number (.select true) ::
        .sweep (scene.scheduler.config.line + 1) (delivered + 1) tally :: rest) := by
  apply step
  intro machine shows
  have pushed := shows.push
    [.sweep (scene.scheduler.config.line + 1) (delivered + 1) tally]
  have lives := isAlive_push (shows.isAlive_iff.mpr alive)
    [.sweep (scene.scheduler.config.line + 1) (delivered + 1) tally]
  simp only [carryOut, sweep, shows.irq, serves.own, pending, Line.isReady, Bool.and_self, if_true,
    deliver, lives, beginPass, pushed.scheduler, idle, Bool.false_eq_true, if_false]
  exact ((pushed.setScheduler _).withIrq fun irq => irq.clear _).push _

theorem sweep_busy {fired : Bool} (busy : count ≠ 0) :
    Leads number p scene (.sweep lineCount count (.round rounds delivered fired) :: rest) [] scene
      (.round rounds (delivered + count) :: rest) := by
  apply step
  intro machine shows
  have beyond : scene.irq.line? lineCount = none := by simp [Controller.line?]
  simp only [carryOut, sweep, shows.irq, beyond, Machine.tally, busy, decide_false, Bool.false_and,
    Bool.false_eq_true, if_false]
  exact shows.push _

theorem sweep_quiet :
    Leads number p scene (.sweep lineCount 0 (.round rounds delivered false) :: rest) [] scene
      rest := by
  apply step
  intro machine shows
  have beyond : scene.irq.line? lineCount = none := by simp [Controller.line?]
  simp only [carryOut, sweep, shows.irq, beyond, Machine.tally]
  exact shows.respond _

theorem dispatch_sweeps (serves : scene.irq.Serves number scene.scheduler.config.line) :
    Leads number p scene (.dispatch tally :: rest) [] scene (.sweep 0 0 tally :: rest) := by
  apply step
  intro machine shows
  simp only [carryOut, Machine.dispatch, shows.irq, serves.isMasked, Bool.false_eq_true, if_false]
  exact shows.push _

theorem dispatch_pass (serves : scene.irq.Serves number scene.scheduler.config.line)
    (pending : scene.irq.isPending scene.scheduler.config.line = true)
    (alive : scene.IsAlive number rest) (idle : scene.scheduler.inPass = false) :
    Leads number p scene (.dispatch tally :: rest) []
      { scene with
        irq := scene.irq.clear scene.scheduler.config.line
        scheduler := scene.scheduler.beginPass }
      (.acquire number (.select true) ::
        .sweep (scene.scheduler.config.line + 1) 1 tally :: rest) := by
  have below : Leads number p scene (.sweep 0 0 tally :: rest) [] scene
      (.sweep scene.scheduler.config.line 0 tally :: rest) :=
    sweep_over (Nat.zero_le _) (Nat.le_of_lt serves.inside) fun n _ less =>
      serves.others n (Nat.ne_of_lt less)
  exact ((dispatch_sweeps serves).trans below).trans (sweep_own serves pending alive idle)

theorem sweep_rest (serves : scene.irq.Serves number scene.scheduler.config.line) {fired : Bool} :
    Leads number p scene
      (.sweep (scene.scheduler.config.line + 1) 1 (.round rounds delivered fired) :: rest) [] scene
      (.round rounds (delivered + 1) :: rest) := by
  have above : Leads number p scene
      (.sweep (scene.scheduler.config.line + 1) 1 (.round rounds delivered fired) :: rest) [] scene
      (.sweep lineCount 1 (.round rounds delivered fired) :: rest) :=
    sweep_over serves.inside (Nat.le_refl _) fun n beyond _ =>
      serves.others n (Nat.ne_of_gt beyond)
  exact above.trans (sweep_busy Nat.one_ne_zero)

theorem round_of_pass {after : Scene} {instants : List Ticks} {fired : Bool}
    (serves : scene.irq.Serves number scene.scheduler.config.line)
    (pending : scene.irq.isPending scene.scheduler.config.line = true)
    (alive : scene.IsAlive number rest) (idle : scene.scheduler.inPass = false)
    (pass : Leads number p
      { scene with
        irq := scene.irq.clear scene.scheduler.config.line
        scheduler := scene.scheduler.beginPass }
      (.acquire number (.select true) ::
        .sweep (scene.scheduler.config.line + 1) 1 (.round rounds delivered fired) :: rest)
      instants after
      (.sweep (scene.scheduler.config.line + 1) 1 (.round rounds delivered fired) :: rest))
    (same : after.scheduler.config = scene.scheduler.config)
    (served : after.irq.Serves number after.scheduler.config.line) :
    Leads number p scene (.dispatch (.round rounds delivered fired) :: rest) instants after
      (.round rounds (delivered + 1) :: rest) := by
  have begun := @dispatch_pass number p scene rest (.round rounds delivered fired) serves pending
    alive idle
  have swept := @sweep_rest number p delivered rounds after rest served fired
  rw [same] at swept
  have whole := (begun.trans pass).trans swept
  rwa [List.append_nil] at whole

theorem dispatch_idle (serves : scene.irq.Serves number scene.scheduler.config.line)
    (lowered : scene.irq.isPending scene.scheduler.config.line = false) :
    Leads number p scene (.dispatch (.round rounds delivered false) :: rest) [] scene rest := by
  have swept : Leads number p scene (.sweep 0 0 (.round rounds delivered false) :: rest) [] scene
      (.sweep lineCount 0 (.round rounds delivered false) :: rest) := by
    refine sweep_over (Nat.zero_le _) (Nat.le_refl _) fun n _ _ quiet found => ?_
    -- The scheduler's own line is open, so it is passed over only because it is down.
    by_cases own : n = scene.scheduler.config.line
    · subst own
      rw [serves.own, lowered] at found
      cases found
      rfl
    · exact serves.others n own quiet found
  exact ((dispatch_sweeps serves).trans swept).trans sweep_quiet

/-! ### The timer -/

theorem round_early (early : ∀ arming, scene.armed = some arming → ¬ arming.instant ≤ scene.clock) :
    Leads number p scene (.round (rounds + 1) delivered :: rest) [] scene
      (.dispatch (.round rounds delivered false) :: rest) := by
  apply step
  intro machine shows
  have polled : machine.timer.poll machine.clock = (none, machine.timer) :=
    machine.timer.poll_early machine.clock fun arming armed passed =>
      early arming (shows.armed ▸ armed) (shows.clock ▸ passed)
  simp only [carryOut, Machine.round, pollTimer, polled]
  exact shows.push _

theorem round_due {instant : Ticks} (armed : scene.armed = some ⟨instant, .scheduler number⟩)
    (due : instant ≤ scene.clock) (alive : scene.IsAlive number rest) :
    Leads number p scene (.round (rounds + 1) delivered :: rest) []
      { scene with
        armed := none
        irq := scene.irq.request scene.scheduler.config.line }
      (.dispatch (.round rounds delivered true) :: rest) := by
  apply step
  intro machine shows
  have polled := machine.timer.poll_due machine.clock _ (shows.armed.trans armed)
    (shows.clock ▸ due)
  have fired : ({ machine with
      timer := { machine.timer with slot := none, fired := machine.timer.fired + 1 } } :
        Machine).Shows number { scene with armed := none } rest :=
    { shows with armed := rfl }
  have pushed := fired.push [.dispatch (.round rounds delivered true)]
  have lives :=
    isAlive_push (fired.isAlive_iff.mpr alive) [.dispatch (.round rounds delivered true)]
  simp only [carryOut, Machine.round, pollTimer, polled, awaken, lives, if_true,
    pushed.scheduler, Option.map_some, Option.getD_some]
  exact pushed.withIrq fun irq => irq.request scene.scheduler.config.line

/-! ### The calls -/

theorem call_step (current : Option TaskHandle) :
    Leads number p scene (.call current (.platform .step) :: rest) [] scene
      (.round stepRounds 0 :: rest) :=
  step fun _ shows => shows.push _

theorem call_advance (current : Option TaskHandle) (delta : Ticks) :
    Leads number p scene (.call current (.platform (.advance delta)) :: rest) []
      { scene with clock := scene.clock.satAdd delta } (.round stepRounds 0 :: rest) := by
  apply step
  intro machine shows
  have moved : ({ machine with clock := machine.clock.satAdd delta } : Machine).Shows number
      { scene with clock := scene.clock.satAdd delta } rest :=
    { shows with clock := congrArg (Ticks.satAdd · delta) shows.clock }
  exact moved.push _

theorem call_scheduler (current : Option TaskHandle) {call : SchedulerCall Call} {part : Section}
    (asks : call.part? current = some part) (owned : scene.scheduler.owned = true) :
    Leads number p scene (.call current (.scheduler number call) :: rest) [] scene
      (.acquire number part :: rest) := by
  apply step
  intro machine shows
  simp only [carryOut, perform, shows.scheduler, owned, if_true]
  cases call <;> cases asks <;> exact shows.push _

theorem call_start (current : Option TaskHandle) {pipeline : Pipeline}
    (found : scene.pipelines[p]? = some pipeline) (driven : pipeline.desc.timerDriven = true) :
    Leads number p scene (.call current (.pipeline p (.command .start)) :: rest) []
      { scene with pipelines := scene.pipelines.modify p Pipeline.activate }
      (.acquire pipeline.scheduler (.insert pipeline.task 0 pipeline.desc.deadlineUs) :: rest) := by
  apply step
  intro machine shows
  have there : machine.pipelines[p]? = some pipeline := shows.pipelines ▸ found
  have activated : ((machine.notify (.pipelineCommand pipeline.desc.id .start)).modifyPipeline p
      Pipeline.activate).Shows number
      { scene with pipelines := scene.pipelines.modify p Pipeline.activate } rest :=
    { shows with pipelines := congrArg (List.modify · p Pipeline.activate) shows.pipelines }
  simp only [carryOut, perform, there, performPipeline, performCommand, driven, if_true]
  exact activated.push _

end Scene.Leads

end EdfKernel
