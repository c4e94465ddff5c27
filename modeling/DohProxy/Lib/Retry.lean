import Mathlib.Data.List.Basic
import Mathlib.Tactic.Common

/-!
# Attempts that are repeated

Something is attempted, and again as long as the outcome asks for that, but no more than so many
times. All outcomes are kept.

## What is proved

`attempts_spec` — the outcomes are the first ones there are, each but the last asks for another
attempt, and the last one does not, unless no attempt is left.
-/

namespace DohProxy.Lib

variable {α : Type} {again : α → Bool} {once : ℕ → α}

/-- The outcomes of the `k`-th attempt and those after it, of which `left` may be repeated. -/
def attempts (again : α → Bool) (once : ℕ → α) : ℕ → ℕ → List α
  | 0, k => [once k]
  | left + 1, k => if again (once k) then once k :: attempts again once left (k + 1) else [once k]

theorem attempts_of_not {k : ℕ} (h : again (once k) = false) (left : ℕ) :
    attempts again once left k = [once k] := by
  cases left with
  | zero => rfl
  | succ left => rw [attempts, h, if_neg Bool.false_ne_true]

theorem attempts_of_again {k : ℕ} (h : again (once k) = true) (left : ℕ) :
    attempts again once (left + 1) k = once k :: attempts again once left (k + 1) := by
  rw [attempts, h, if_pos rfl]

/-- **What is attempted**: some outcomes, each of which asks for another attempt, and a last one. -/
theorem attempts_spec (again : α → Bool) (once : ℕ → α) (left k : ℕ) :
    ∃ n, attempts again once left k = (List.range' k n).map once ++ [once (k + n)] ∧ n ≤ left ∧
      (∀ i < n, again (once (k + i)) = true) ∧
      (again (once (k + n)) = true → n = left) := by
  induction left generalizing k with
  | zero => exact ⟨0, rfl, Nat.le_refl 0, fun i hi => absurd hi (Nat.not_lt_zero i), fun _ => rfl⟩
  | succ left ih =>
    cases h : again (once k) with
    | false =>
      refine ⟨0, attempts_of_not h _, Nat.zero_le _, fun i hi => absurd hi (Nat.not_lt_zero i),
        fun hlast => ?_⟩
      rw [Nat.add_zero, h] at hlast
      cases hlast
    | true =>
      obtain ⟨n, heq, hle, hagain, hlast⟩ := ih (k + 1)
      have hshift : ∀ i, k + (i + 1) = k + 1 + i := fun i => by omega
      refine ⟨n + 1, ?_, Nat.succ_le_succ hle, fun i hi => ?_, fun hn => ?_⟩
      · rw [attempts_of_again h, heq, ← hshift n, List.range'_succ, List.map_cons, List.cons_append]
      · cases i with
        | zero => exact h
        | succ i =>
          rw [hshift]
          exact hagain i (Nat.lt_of_succ_lt_succ hi)
      · rw [hshift] at hn
        rw [hlast hn]

end DohProxy.Lib
