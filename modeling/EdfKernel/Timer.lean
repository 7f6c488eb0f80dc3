import EdfKernel.Ticks

/-!
A timer with one slot. Arming replaces whatever the slot held; polling at or
after the armed time empties the slot and hands the wake-up over, so an arming
is delivered at most once. What a wake-up does is a parameter.
-/

namespace EdfKernel

structure Arming (κ : Type) where
  instant : Ticks
  wake : κ

structure Timer (κ : Type) where
  slot : Option (Arming κ)
  fired : UInt64
  armings : UInt64

namespace Timer

variable {κ : Type}

def unarmed : Timer κ := ⟨none, 0, 0⟩

def armedAt (timer : Timer κ) : Option Ticks := timer.slot.map (·.instant)

def armAt (timer : Timer κ) (instant : Ticks) (wake : κ) : Timer κ :=
  { timer with slot := some ⟨instant, wake⟩, armings := timer.armings + 1 }

def disarm (timer : Timer κ) : Timer κ := { timer with slot := none }

/-- The wake-up that is due at `now`, if there is one, and the timer without it. -/
def poll (timer : Timer κ) (now : Ticks) : Option κ × Timer κ :=
  match timer.slot with
  | some arming =>
      if arming.instant ≤ now then
        (some arming.wake, { timer with slot := none, fired := timer.fired + 1 })
      else (none, timer)
  | none => (none, timer)

theorem poll_due (timer : Timer κ) (now : Ticks) (arming : Arming κ)
    (armed : timer.slot = some arming) (due : arming.instant ≤ now) :
    timer.poll now =
      (some arming.wake, { timer with slot := none, fired := timer.fired + 1 }) := by
  simp [poll, armed, due]

theorem poll_early (timer : Timer κ) (now : Ticks)
    (early : ∀ arming, timer.slot = some arming → ¬ arming.instant ≤ now) :
    timer.poll now = (none, timer) := by
  unfold poll
  split
  case h_1 arming armed => simp [early arming armed]
  case h_2 => rfl

/-- A poll hands over what is due, or finds it too early and changes nothing. -/
theorem poll_due_or_early (timer : Timer κ) (now : Ticks) :
    (∃ arming, timer.slot = some arming ∧ arming.instant ≤ now ∧
      timer.poll now =
        (some arming.wake, { timer with slot := none, fired := timer.fired + 1 })) ∨
    ((∀ arming, timer.slot = some arming → now < arming.instant) ∧
      timer.poll now = (none, timer)) := by
  by_cases due : ∃ arming, timer.slot = some arming ∧ arming.instant ≤ now
  · obtain ⟨arming, armed, late⟩ := due
    exact .inl ⟨arming, armed, late, poll_due timer now arming armed late⟩
  · have early : ∀ arming, timer.slot = some arming → ¬ arming.instant ≤ now :=
      fun arming armed late => due ⟨arming, armed, late⟩
    exact .inr ⟨fun arming armed => UInt64.not_le.mp (early arming armed),
      poll_early timer now early⟩

theorem poll_cases (timer : Timer κ) (now : Ticks) :
    timer.poll now = (none, timer) ∨
      ∃ arming, timer.slot = some arming ∧
        timer.poll now =
          (some arming.wake, { timer with slot := none, fired := timer.fired + 1 }) := by
  rcases timer.poll_due_or_early now with ⟨arming, armed, _, polled⟩ | ⟨_, polled⟩
  · exact .inr ⟨arming, armed, polled⟩
  · exact .inl polled

end Timer

end EdfKernel
