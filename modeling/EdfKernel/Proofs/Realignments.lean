import EdfKernel.Timing
import Mathlib.Algebra.Group.Nat.Defs
import Mathlib.Data.Nat.Find
import Mathlib.Order.Bounds.Basic

/-!
Where a late task is moved. Its next window is twice as long as the old one. It begins at the
first start in phase beyond the horizon, which is one such window after the current time, if
that start is at most ten windows away and the window still fits in the ticks; otherwise it
begins at the horizon. The search for that start saturates and breaks off early. What it comes
to is told in natural numbers, where nothing saturates.
-/

namespace EdfKernel

theorem Ticks.toNat_min (a b : Ticks) : (min a b).toNat = min a.toNat b.toNat := by
  change (if a ≤ b then a else b).toNat = _
  split
  case isTrue le =>
    rw [UInt64.le_iff_toNat_le] at le
    exact (Nat.min_eq_left le).symm
  case isFalse more =>
    rw [UInt64.le_iff_toNat_le] at more
    exact (Nat.min_eq_right (Nat.le_of_not_le more)).symm

namespace Timing

def stride (timing : Timing) : Nat :=
  min (2 * (timing.deadline.toNat - timing.start.toNat)) (2 ^ 64 - 1)

def lastStart (timing : Timing) : Nat := 2 ^ 64 - 1 - timing.stride

/-- One such window after the current time, as far as it still fits. -/
def horizon (timing : Timing) (current : Ticks) : Nat :=
  min (current.toNat + timing.stride) timing.lastStart

/-- So many strides lead beyond the horizon, and no fewer do, but for none. -/
def Clears (timing : Timing) (current : Ticks) (strides : Nat) : Prop :=
  IsLeast {k | 0 < k ∧ timing.horizon current < timing.start.toNat + k * timing.stride} strides

variable {timing : Timing} {current : Ticks}

/-- What a search comes to of which the first `fewer` starts are not beyond the horizon, and the
next one is. -/
theorem seek_eq {length horizon latest start : Ticks} {fewer : Nat} (within : horizon ≤ latest)
    (below : latest.toNat < 2 ^ 64 - 1)
    (before : ∀ k ≤ fewer, 0 < k → start.toNat + k * length.toNat ≤ horizon.toNat)
    (beyond : horizon.toNat < start.toNat + (fewer + 1) * length.toNat) (attempt tries : Nat) :
    seek length horizon latest start attempt tries =
      if fewer < tries ∧ start.toNat + (fewer + 1) * length.toNat ≤ latest.toNat then
        some (.cap (start.toNat + (fewer + 1) * length.toNat), attempt + fewer)
      else none := by
  -- By induction on the tries; the start moves on with each, and so there are fewer to come.
  rw [UInt64.le_iff_toNat_le] at within
  induction tries generalizing start attempt fewer with
  | zero => rfl
  | succ tries ih =>
      have moved := Ticks.toNat_satAdd start length
      simp only [seek]
      cases fewer with
      | zero =>
          rw [Nat.zero_add, Nat.one_mul] at beyond ⊢
          by_cases fits : start.toNat + length.toNat ≤ latest.toNat
          · rw [if_neg, if_pos, if_pos ⟨Nat.succ_pos tries, fits⟩]
            · rfl
            · rw [UInt64.lt_iff_toNat_lt]
              omega
            · rw [UInt64.lt_iff_toNat_lt]
              omega
          · rw [if_pos, if_neg fun both => fits both.2]
            rw [UInt64.lt_iff_toNat_lt]
            omega
      | succ fewer =>
          have first := before 1 (Nat.succ_pos fewer) Nat.one_pos
          rw [Nat.one_mul] at first
          have start' : (start.satAdd length).toNat = start.toNat + length.toNat := by omega
          have ahead (k : Nat) : (start.satAdd length).toNat + k * length.toNat =
              start.toNat + (k + 1) * length.toNat := by
            rw [start', Nat.succ_mul]
            omega
          have later := @ih (start.satAdd length) fewer ?_ ?_ (attempt + 1)
          · rw [if_neg, if_neg, later, ahead]
            · simp only [Nat.succ_lt_succ_iff, Nat.add_assoc, Nat.add_comm 1]
            · rw [UInt64.lt_iff_toNat_lt]
              omega
            · rw [UInt64.lt_iff_toNat_lt]
              omega
          · intro k few positive
            rw [ahead]
            exact before (k + 1) (Nat.succ_le_succ few) (Nat.succ_pos k)
          · rw [ahead]
            exact beyond

theorem toNat_stride (timing : Timing) : (timing.window.satMul 2).toNat = timing.stride := by
  rw [Ticks.toNat_satMul, toNat_window, stride]
  omega

theorem toNat_lastStart (timing : Timing) :
    (Ticks.last.satSub (timing.window.satMul 2)).toNat = timing.lastStart := by
  rw [Ticks.toNat_satSub, toNat_stride]
  rfl

theorem toNat_horizon (timing : Timing) (current : Ticks) :
    (min (current.satAdd (timing.window.satMul 2))
      (Ticks.last.satSub (timing.window.satMul 2))).toNat = timing.horizon current := by
  rw [Ticks.toNat_min, Ticks.toNat_satAdd, toNat_stride, toNat_lastStart, horizon, lastStart]
  omega

theorem stride_pos (nonempty : timing.start < timing.deadline) : 0 < timing.stride := by
  rw [UInt64.lt_iff_toNat_lt] at nonempty
  rw [stride]
  omega

theorem exists_clears (nonempty : timing.start < timing.deadline) (current : Ticks) :
    ∃ strides, timing.Clears current strides := by
  have longer : ∃ k, 0 < k ∧ timing.horizon current < timing.start.toNat + k * timing.stride := by
    refine ⟨timing.horizon current + 1, Nat.succ_pos _, ?_⟩
    have far := Nat.le_mul_of_pos_right (timing.horizon current + 1) (stride_pos nonempty)
    omega
  exact ⟨Nat.find longer, Nat.find_spec longer, fun k beyond => Nat.find_min' longer beyond⟩

theorem Clears.seek {strides : Nat} (clears : timing.Clears current strides)
    (nonempty : timing.start < timing.deadline) :
    seek (timing.window.satMul 2)
      (min (current.satAdd (timing.window.satMul 2)) (Ticks.last.satSub (timing.window.satMul 2)))
      (Ticks.last.satSub (timing.window.satMul 2)) timing.start 1 alignTries =
      if strides ≤ 10 ∧ timing.start.toNat + strides * timing.stride ≤ timing.lastStart then
        some (.cap (timing.start.toNat + strides * timing.stride), strides)
      else none := by
  obtain ⟨⟨positive, beyond⟩, least⟩ := clears
  obtain ⟨fewer, rfl⟩ := Nat.exists_eq_succ_of_ne_zero (Nat.ne_of_gt positive)
  have some' := stride_pos nonempty
  have found := @seek_eq (timing.window.satMul 2)
    (min (current.satAdd (timing.window.satMul 2)) (Ticks.last.satSub (timing.window.satMul 2)))
    (Ticks.last.satSub (timing.window.satMul 2)) timing.start fewer Std.min_le_right ?_ ?_ ?_ 1
    alignTries
  · rw [found, toNat_stride, toNat_lastStart]
    simp only [alignTries, Nat.lt_iff_add_one_le, Nat.add_comm 1, Nat.succ_eq_add_one]
  · rw [toNat_lastStart, lastStart]
    omega
  · intro k few some''
    rw [toNat_stride, toNat_horizon]
    by_contra far
    have more := least ⟨some'', Nat.lt_of_not_le far⟩
    omega
  · rw [toNat_stride, toNat_horizon]
    exact beyond

theorem Clears.realign {strides : Nat} (clears : timing.Clears current strides)
    (nonempty : timing.start < timing.deadline) :
    (strides ≤ 10 ∧ timing.start.toNat + strides * timing.stride ≤ timing.lastStart ∧
      (timing.realign current).2 = .aligned strides ∧
      (timing.realign current).1.start.toNat = timing.start.toNat + strides * timing.stride) ∨
    (¬ (strides ≤ 10 ∧ timing.start.toNat + strides * timing.stride ≤ timing.lastStart) ∧
      (timing.realign current).2 = .exhausted ∧
      (timing.realign current).1.start.toNat = timing.horizon current) := by
  have sought := clears.seek nonempty
  by_cases reach : strides ≤ 10 ∧
      timing.start.toNat + strides * timing.stride ≤ timing.lastStart
  · left
    rw [if_pos reach] at sought
    simp only [Timing.realign, sought, place]
    refine ⟨reach.1, reach.2, trivial, ?_⟩
    rw [Ticks.toNat_cap]
    have last := reach.2
    rw [lastStart] at last
    omega
  · right
    rw [if_neg reach] at sought
    simp only [Timing.realign, sought, place]
    exact ⟨reach, trivial, timing.toNat_horizon current⟩

theorem realign_deadline (nonempty : timing.start < timing.deadline) (current : Ticks) :
    (timing.realign current).1.deadline.toNat =
      (timing.realign current).1.start.toNat + timing.stride := by
  obtain ⟨strides, clears⟩ := exists_clears nonempty current
  have ends : (timing.realign current).1.deadline =
      (timing.realign current).1.start.satAdd (timing.window.satMul 2) := by
    simp only [Timing.realign]
    split <;> rfl
  have small : timing.stride ≤ 2 ^ 64 - 1 := Nat.min_le_right _ _
  rw [ends, Ticks.toNat_satAdd, toNat_stride]
  rcases clears.realign nonempty with ⟨_, fits, _, start⟩ | ⟨_, _, start⟩
  · rw [start]
    rw [lastStart] at fits
    omega
  · rw [start, horizon, lastStart]
    omega

theorem lt_realign_start (nonempty : timing.start < timing.deadline)
    (room : current.toNat + 2 * timing.stride ≤ 2 ^ 64 - 1) :
    current.toNat + timing.stride ≤ (timing.realign current).1.start.toNat := by
  obtain ⟨strides, clears⟩ := exists_clears nonempty current
  have ahead : timing.horizon current = current.toNat + timing.stride := by
    rw [horizon, lastStart]
    omega
  have beyond := clears.1.2
  rcases clears.realign nonempty with ⟨_, _, _, start⟩ | ⟨_, _, start⟩
  · omega
  · omega

/-- To recover from a miss comes to this, over the whole range of ticks. The only difference that
is not capped, that of the last tick and the length of the window, is that of the numbers. -/
theorem realign_closed_form (timing : Timing) (current : Ticks)
    (nonempty : timing.start < timing.deadline) :
    ∃ strides,
      IsLeast {k | 0 < k ∧ timing.horizon current < timing.start.toNat + k * timing.stride}
        strides ∧
      ((timing.realign current).2 = .aligned strides ∧
        (timing.realign current).1.start.toNat = timing.start.toNat + strides * timing.stride ↔
          strides ≤ 10 ∧
            timing.start.toNat + strides * timing.stride ≤ timing.lastStart) ∧
      (¬ (strides ≤ 10 ∧ timing.start.toNat + strides * timing.stride ≤ timing.lastStart) →
        (timing.realign current).2 = .exhausted ∧
          (timing.realign current).1.start.toNat = timing.horizon current) ∧
      (timing.realign current).1.deadline.toNat =
        (timing.realign current).1.start.toNat + timing.stride ∧
      (timing.realign current).1.maxRuntime = timing.maxRuntime ∧
      (current.toNat + 2 * timing.stride ≤ 2 ^ 64 - 1 →
        current.toNat < (timing.realign current).1.start.toNat) ∧
      (Ticks.last - timing.window.satMul 2).toNat = timing.lastStart := by
  obtain ⟨strides, clears⟩ := exists_clears nonempty current
  refine ⟨strides, clears, ?_, ?_, realign_deadline nonempty current,
    timing.realign_maxRuntime current, ?_, ?_⟩
  · rcases clears.realign nonempty with ⟨few, fits, aligned, start⟩ | ⟨far, exhausted, _⟩
    · exact iff_of_true ⟨aligned, start⟩ ⟨few, fits⟩
    · refine iff_of_false (fun both => ?_) far
      rw [exhausted] at both
      cases both.1
  · intro far
    rcases clears.realign nonempty with ⟨few, fits, _⟩ | ⟨_, exhausted, start⟩
    · exact absurd ⟨few, fits⟩ far
    · exact ⟨exhausted, start⟩
  · intro room
    have ahead := lt_realign_start nonempty room
    have some' := stride_pos nonempty
    omega
  · have within : timing.window.satMul 2 ≤ Ticks.last := by
      rw [UInt64.le_iff_toNat_le]
      exact Ticks.le_last _
    rw [UInt64.toNat_sub_of_le _ _ within, toNat_stride]
    rfl

/-- A task whose tenth window in phase is the last one that there is room for, and the first beyond
the horizon. -/
def lastChance : Timing := ⟨Ticks.last - 220, Ticks.last - 210, 3⟩

/-- It is moved there, and its window ends with the ticks. -/
theorem lastChance_realigned :
    lastChance.start < lastChance.deadline ∧
      (lastChance.realign (Ticks.last - 50)).2 = .aligned 10 ∧
      (lastChance.realign (Ticks.last - 50)).1.start.toNat = 2 ^ 64 - 1 - 20 ∧
      (lastChance.realign (Ticks.last - 50)).1.deadline.toNat = 2 ^ 64 - 1 := by
  have nonempty : lastChance.start < lastChance.deadline := by decide
  have stride : lastChance.stride = 20 := by decide
  have horizon : lastChance.horizon (Ticks.last - 50) = 2 ^ 64 - 1 - 30 := by decide
  have latest : lastChance.lastStart = 2 ^ 64 - 1 - 20 := by decide
  have first : lastChance.start.toNat = 2 ^ 64 - 1 - 220 := by decide
  obtain ⟨strides, least, reached, _, ends, _⟩ :=
    realign_closed_form lastChance (Ticks.last - 50) nonempty
  rw [stride] at least reached ends
  rw [horizon, first] at least
  rw [first, latest] at reached
  -- Nine strides lead to the horizon, and so ten lead beyond it.
  have ten : IsLeast {k | 0 < k ∧ 2 ^ 64 - 1 - 30 < 2 ^ 64 - 1 - 220 + k * 20} 10 :=
    ⟨⟨by decide, by decide⟩, fun k beyond => by
      have far := beyond.2
      omega⟩
  obtain rfl := least.unique ten
  obtain ⟨aligned, start⟩ := reached.2 ⟨by decide, by decide⟩
  have last : (lastChance.realign (Ticks.last - 50)).1.deadline.toNat = 2 ^ 64 - 1 := by
    rw [ends, start]
    rfl
  exact ⟨nonempty, aligned, start, last⟩

end Timing

end EdfKernel
