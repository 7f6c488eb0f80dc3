import EdfKernel.Proofs.LabelledSections

/-!
Interrupts and wake-ups reach their handlers whatever the labels are. There is one lemma for
each function, from a single line of the controller up to a sweep of all lines, and each says
that the labels may as well be taken off before.
-/

namespace EdfKernel

/-! The platform. -/

namespace Controller

variable (controller : Controller Handler) (n : Nat)

theorem bare_modify (f g : Line Handler → Line Handler)
    (commute : ∀ line, g line.bare = (f line).bare) :
    controller.bare.modify n g = (controller.modify n f).bare := by
  unfold modify
  by_cases inside : n < lineCount
  · simp only [dif_pos inside, bare, Vector.getElem_map, commute, Vector.map_set]
  · simp only [dif_neg inside]

theorem bare_request : controller.bare.request n = (controller.request n).bare :=
  controller.bare_modify n _ _ fun _ => rfl

theorem bare_clear : controller.bare.clear n = (controller.clear n).bare :=
  controller.bare_modify n _ _ fun _ => rfl

theorem bare_enable : controller.bare.enable n = (controller.enable n).bare :=
  controller.bare_modify n _ _ fun _ => rfl

theorem bare_disable : controller.bare.disable n = (controller.disable n).bare :=
  controller.bare_modify n _ _ fun _ => rfl

theorem line?_bare : controller.bare.line? n = (controller.line? n).map Line.bare :=
  Vector.getElem?_map

theorem bare_isPending : controller.bare.isPending n = controller.isPending n := by
  unfold isPending
  rw [line?_bare]
  cases controller.line? n <;> rfl

theorem bare_isEnabled : controller.bare.isEnabled n = controller.isEnabled n := by
  unfold isEnabled
  rw [line?_bare]
  cases controller.line? n <;> rfl

theorem bare_register (handler : Handler) :
    controller.bare.register n handler.bare = (controller.register n handler).map bare := by
  have registered := controller.bare_modify n (fun line => { line with handler := some handler })
    (fun line => { line with handler := some handler.bare }) fun _ => rfl
  unfold register
  rw [line?_bare]
  cases controller.line? n with
  | none => rfl
  | some line =>
      obtain ⟨held, enabled, pending⟩ := line
      cases held with
      | none => exact congrArg Except.ok registered
      | some _ => rfl

end Controller

theorem Handler.bare_advance (handler : Handler) : handler.bare.advance = handler.advance.bare := by
  cases handler with
  | scripts turns => exact congrArg Handler.scripts (laterTurns_map Script.bare turns)
  | scheduler number => rfl

theorem Line.bare_advance (line : Line Handler) :
    { line.bare with handler := line.bare.handler.map Handler.advance } =
      { line with handler := line.handler.map Handler.advance }.bare := by
  obtain ⟨handler, enabled, pending⟩ := line
  cases handler with
  | none => rfl
  | some handler =>
      exact congrArg (fun handler => Line.mk (some handler) enabled pending) handler.bare_advance

theorem Timer.bare_armedAt (timer : Timer WakeUp) : timer.bare.armedAt = timer.armedAt := by
  obtain ⟨slot, fired, armings⟩ := timer
  cases slot <;> rfl

theorem Timer.bare_poll (timer : Timer WakeUp) (now : Ticks) :
    timer.bare.poll now = ((timer.poll now).1.map WakeUp.bare, (timer.poll now).2.bare) := by
  obtain ⟨slot, fired, armings⟩ := timer
  cases slot with
  | none => rfl
  | some arming =>
      unfold poll
      by_cases due : arming.instant ≤ now
      · simp only [bare, Option.map_some, if_pos due, show arming.bare.instant ≤ now from due]
        rfl
      · simp only [bare, Option.map_some, if_neg due, show ¬ arming.bare.instant ≤ now from due]
        rfl

namespace Machine

variable (machine : Machine)

/-! Looking something up, and changing one part. -/

@[simp] theorem bare_irq : machine.bare.irq = machine.irq.bare := rfl

@[simp] theorem bare_timer : machine.bare.timer = machine.timer.bare := rfl

theorem scheduler?_bare (number : Nat) :
    machine.bare.scheduler? number = (machine.scheduler? number).map Scheduler.bare := by
  simp only [scheduler?, bare, List.getElem?_map]
  cases machine.schedulers[number]? <;> rfl

theorem pipelines_bare (number : Nat) :
    machine.bare.pipelines[number]? = (machine.pipelines[number]?).map Pipeline.bare :=
  List.getElem?_map

theorem bare_setScheduler (number : Nat) (scheduler : Scheduler) :
    machine.bare.setScheduler number scheduler.bare =
      (machine.setScheduler number scheduler).bare := by
  simp only [setScheduler, bare, List.map_set, Option.map_some]

theorem bare_push (activities : List Activity) :
    machine.bare.push (activities.map Activity.bare) = (machine.push activities).bare := by
  simp only [push, bare, List.map_append]

theorem bare_hold (number : Nat) (part : Section) :
    machine.bare.push [.acquire number part.bare] =
      (machine.push [.acquire number part]).bare :=
  machine.bare_push [.acquire number part]

variable {machine} in
theorem push_of_bare {unlabelled : Machine} (same : unlabelled = machine.bare)
    (activities : List Activity) :
    unlabelled.push (activities.map Activity.bare) = (machine.push activities).bare := by
  rw [same, bare_push]

theorem bare_emit (event : Event) :
    machine.bare.emit event.bare = (machine.emit event).bare := by
  simp only [emit, bare, Array.map_push]

theorem bare_notify (notice : Notice) :
    machine.bare.notify notice.bare = (machine.notify notice).bare := by
  simp only [notify, bare, Array.map_push]

theorem bare_request (line : Nat) : machine.bare.request line = (machine.request line).bare := by
  simp only [request, bare, Controller.bare_request]

theorem bare_requestPass (scheduler : Scheduler) :
    machine.bare.requestPass scheduler.bare = (machine.requestPass scheduler).bare :=
  machine.bare_request scheduler.config.line

theorem bare_modifyPipeline (number : Nat) (f : Pipeline → Pipeline)
    (commute : ∀ pipeline, f pipeline.bare = (f pipeline).bare) :
    machine.bare.modifyPipeline number f = (machine.modifyPipeline number f).bare := by
  simp only [modifyPipeline, bare, modify_map commute]

theorem bare_isAlive (number : Nat) : machine.bare.isAlive number = machine.isAlive number := by
  have works (activity : Activity) : activity.bare.scheduler? = activity.scheduler? := by
    cases activity <;> rfl
  unfold isAlive
  rw [scheduler?_bare]
  simp only [bare, List.any_map, Function.comp_def, works]
  cases machine.scheduler? number <;> rfl

/-! Interrupts and wake-ups. -/

theorem bare_beginPass (number : Nat) (wake : Bool) :
    machine.bare.beginPass number wake = (machine.beginPass number wake).bare := by
  unfold beginPass
  rw [scheduler?_bare]
  cases machine.scheduler? number with
  | none => rfl
  | some scheduler =>
      have coalesced := machine.bare_setScheduler number scheduler.coalesce
      have begun := machine.bare_setScheduler number scheduler.beginPass
      simp only [Option.map_some, Scheduler.bare_config, bare_irq, Controller.bare_clear]
      by_cases busy : scheduler.inPass = true
      · rw [if_pos busy, if_pos (show scheduler.bare.inPass = true from busy),
          show scheduler.bare.coalesce = scheduler.coalesce.bare from rfl, coalesced,
          bare_requestPass]
        rfl
      · rw [if_neg busy, if_neg (show ¬ scheduler.bare.inPass = true from busy),
          show scheduler.bare.beginPass = scheduler.beginPass.bare from rfl, begun]
        exact bare_push
          { machine.setScheduler number scheduler.beginPass with
            irq := machine.irq.clear scheduler.config.line }
          [.acquire number (.select wake)]

theorem bare_deliver (line : Nat) (handler : Handler) :
    machine.bare.deliver line handler.bare = (machine.deliver line handler).bare := by
  cases handler with
  | scripts turns =>
      have advanced := machine.irq.bare_modify line
        (fun line => { line with handler := line.handler.map Handler.advance })
        (fun line => { line with handler := line.handler.map Handler.advance }) Line.bare_advance
      have first : (turns.map Script.bare).headD [] = Script.bare (turns.headD []) := by
        cases turns <;> rfl
      have emitted := bare_emit
        { machine with
          irq := machine.irq.modify line fun line =>
            { line with handler := line.handler.map Handler.advance } }
        (.interrupt line)
      simp only [Handler.bare, deliver, bare_irq, advanced, first]
      exact push_of_bare emitted [.script none (turns.headD [])]
  | scheduler number =>
      simp only [Handler.bare, deliver, bare_isAlive, bare_beginPass]
      cases machine.isAlive number <;> rfl

theorem bare_awaken (wake : WakeUp) :
    machine.bare.awaken wake.bare = (machine.awaken wake).bare := by
  cases wake with
  | script script =>
      exact push_of_bare (machine.bare_emit .timer) [.script none script]
  | scheduler number =>
      simp only [WakeUp.bare, awaken, bare_isAlive, scheduler?_bare]
      cases machine.isAlive number with
      | false => rfl
      | true =>
          cases machine.scheduler? number with
          | none => rfl
          | some scheduler => exact machine.bare_requestPass scheduler

theorem bare_pollTimer (now : Ticks) (rest : Bool → Activity) :
    machine.bare.pollTimer now (fun fired => (rest fired).bare) =
      (machine.pollTimer now rest).bare := by
  unfold pollTimer
  rw [bare_timer, Timer.bare_poll]
  cases machine.timer.poll now with
  | mk wake timer =>
      have polled (fired : Bool) := bare_push { machine with timer } [rest fired]
      cases wake with
      | none => exact polled false
      | some wake => exact (congrArg (awaken · wake.bare) (polled true)).trans (bare_awaken _ wake)

theorem bare_tally (count : Nat) (tally : Tally) :
    machine.bare.tally count tally = (machine.tally count tally).bare := by
  cases tally with
  | caller => rfl
  | round rounds delivered fired =>
      have settled : machine.bare.answer (.count delivered) =
        (machine.answer (.count delivered)).bare := rfl
      have another := machine.bare_push [.round rounds (delivered + count)]
      simp only [Machine.tally, apply_ite bare, settled, ← another]
      rfl

theorem bare_round (delivered rounds : Nat) :
    machine.bare.round delivered rounds = (machine.round delivered rounds).bare := by
  cases rounds with
  | zero => rfl
  | succ rounds =>
      exact machine.bare_pollTimer machine.clock fun fired =>
        .dispatch (.round rounds delivered fired)

theorem bare_dispatch (tally : Tally) :
    machine.bare.dispatch tally = (machine.dispatch tally).bare := by
  have swept := machine.bare_push [.sweep 0 0 tally]
  simp only [dispatch, apply_ite bare, ← swept, ← bare_tally]
  rfl

theorem bare_sweep (number delivered : Nat) (tally : Tally) :
    machine.bare.sweep number delivered tally = (machine.sweep number delivered tally).bare := by
  have passed := machine.bare_push [.sweep (number + 1) delivered tally]
  unfold sweep
  rw [bare_irq, Controller.line?_bare]
  cases machine.irq.line? number with
  | none => exact machine.bare_tally delivered tally
  | some line =>
      have ready : line.bare.isReady = line.isReady := rfl
      simp only [Option.map_some, ready]
      cases line.isReady with
      | false => exact passed
      | true =>
          obtain ⟨handler, enabled, pending⟩ := line
          cases handler with
          | none =>
              simp only [Controller.bare_clear]
              exact bare_push { machine with irq := machine.irq.clear number }
                [.sweep (number + 1) delivered tally]
          | some handler =>
              have behind := machine.bare_push [.sweep (number + 1) (delivered + 1) tally]
              exact (congrArg (deliver · number handler.bare) behind).trans
                (bare_deliver _ number handler)

end Machine

end EdfKernel
