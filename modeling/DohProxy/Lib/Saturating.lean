import Mathlib.Algebra.Ring.Nat
import Mathlib.Tactic.Common

/-!
# Arithmetic that stops at the greatest number

## What is proved

A sum or a product that stops there is none too great: `toNat_saturatingAdd_le` and
`toNat_saturatingMul_le`. `toNat_saturatingAdd` — a sum in full.
-/

namespace DohProxy.Lib

/-- `u64::saturating_add`. -/
def saturatingAdd (a b : UInt64) : UInt64 :=
  if a.toNat + b.toNat < 2 ^ 64 then a + b else 0xffffffffffffffff

/-- `u64::saturating_mul`. -/
def saturatingMul (a b : UInt64) : UInt64 :=
  if a.toNat * b.toNat < 2 ^ 64 then a * b else 0xffffffffffffffff

theorem toNat_saturatingAdd (a b : UInt64) :
    (saturatingAdd a b).toNat = min (a.toNat + b.toNat) (2 ^ 64 - 1) := by
  unfold saturatingAdd
  split
  · next h =>
    rw [UInt64.toNat_add, Nat.mod_eq_of_lt h, Nat.min_eq_left (Nat.le_sub_one_of_lt h)]
  · next h =>
    rw [Nat.min_eq_right (Nat.sub_le_of_le_add (Nat.le_add_right_of_le (Nat.le_of_not_lt h)))]
    rfl

theorem toNat_saturatingAdd_le (a b : UInt64) : (saturatingAdd a b).toNat ≤ a.toNat + b.toNat := by
  rw [toNat_saturatingAdd]
  exact Nat.min_le_left _ _

theorem toNat_saturatingMul_le (a b : UInt64) : (saturatingMul a b).toNat ≤ a.toNat * b.toNat := by
  unfold saturatingMul
  split
  · exact Nat.mod_le _ _
  · next h => exact Nat.le_trans (Nat.le_of_lt (UInt64.toNat_lt _)) (Nat.le_of_not_lt h)

end DohProxy.Lib
