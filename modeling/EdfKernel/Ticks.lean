/-!
Clock ticks are 64-bit words. Every sum, difference and product of ticks that
the scheduler forms stops at the end of the range instead of wrapping, and a
span in microseconds is converted through exact natural numbers and capped
once. Each operation has one equation for its natural-number value, so later
proofs reason in `Nat`.
-/

namespace EdfKernel

abbrev Ticks := UInt64

namespace Ticks

def last : Ticks := 18446744073709551615

/-- The tick nearest to `n` from below that the range holds. -/
def cap (n : Nat) : Ticks := UInt64.ofNat (min n last.toNat)

def satAdd (a b : Ticks) : Ticks := cap (a.toNat + b.toNat)

def satSub (a b : Ticks) : Ticks := cap (a.toNat - b.toNat)

def satMul (a : Ticks) (k : Nat) : Ticks := cap (a.toNat * k)

/-- Whole ticks in `us` microseconds of a clock at `rate` hertz. -/
def ofMicros (us : UInt64) (rate : UInt32) : Ticks :=
  cap (us.toNat * rate.toNat / 1000000)

theorem toNat_last : last.toNat = 18446744073709551615 := rfl

theorem le_last (a : Ticks) : a.toNat ≤ 18446744073709551615 := by
  have bound := a.toNat_lt
  omega

@[simp] theorem toNat_cap (n : Nat) : (cap n).toNat = min n 18446744073709551615 := by
  have small : min n 18446744073709551615 < 2 ^ 64 := by omega
  simp only [cap, UInt64.toNat_ofNat', toNat_last]
  exact Nat.mod_eq_of_lt small

theorem toNat_satAdd (a b : Ticks) :
    (satAdd a b).toNat = min (a.toNat + b.toNat) 18446744073709551615 := by
  simp [satAdd]

theorem toNat_satSub (a b : Ticks) : (satSub a b).toNat = a.toNat - b.toNat := by
  have bound := le_last a
  simp only [satSub, toNat_cap]
  omega

theorem toNat_satMul (a : Ticks) (k : Nat) :
    (satMul a k).toNat = min (a.toNat * k) 18446744073709551615 := by
  simp [satMul]

theorem toNat_ofMicros (us : UInt64) (rate : UInt32) :
    (ofMicros us rate).toNat =
      min (us.toNat * rate.toNat / 1000000) 18446744073709551615 := by
  simp [ofMicros]

end Ticks

end EdfKernel
