import DohProxy.Lib.Outcome

/-!
# Loops as families of computations with fuel

A loop that may not end is modelled with fuel, so as a family of outcomes, one for each
amount. What the loop itself does is what the family comes to.

## What is proved

A family *settles* at an outcome when it has that outcome from some amount of fuel on, and
runs out of fuel below, and *diverges* when no amount is enough. `Settles.bind_ok`,
`Settles.bind_err`, `Settles.bind_diverges` and `Diverges.bind` say what becomes of a sequence,
and `Settles.ends` and `Diverges.not_ends` what the loop does.
-/

namespace DohProxy.Lib

open Outcome

variable {ε α β : Type}

/-- The loop ends, with outcome `v`. -/
structure Settles (x : ℕ → Outcome ε α) (v : Outcome ε α) : Prop where
  /-- The outcome is one. -/
  ended : v ≠ .timeout
  /-- There is an amount of fuel that is enough, and more does not matter. -/
  enough : ∃ F, ∀ fuel, F ≤ fuel → x fuel = v
  /-- Less fuel gives no other outcome. -/
  only : ∀ fuel, x fuel = v ∨ x fuel = .timeout

/-- The loop does not end. -/
def Diverges (x : ℕ → Outcome ε α) : Prop := ∀ fuel, x fuel = .timeout

theorem settles_const {v : Outcome ε α} (h : v ≠ .timeout) : Settles (fun _ => v) v :=
  ⟨h, ⟨0, fun _ _ => rfl⟩, fun _ => .inl rfl⟩

/-- A round of the loop takes one unit of fuel. -/
theorem settles_succ {x y : ℕ → Outcome ε α} {v : Outcome ε α} (h₀ : x 0 = .timeout)
    (h : ∀ fuel, x (fuel + 1) = y fuel) (hy : Settles y v) : Settles x v := by
  obtain ⟨F, hF⟩ := hy.enough
  refine ⟨hy.ended, ⟨F + 1, fun fuel hle => ?_⟩, fun fuel => ?_⟩
  · obtain ⟨fuel, rfl⟩ := Nat.exists_eq_succ_of_ne_zero (show fuel ≠ 0 by omega)
    exact (h fuel).trans (hF fuel (Nat.le_of_succ_le_succ hle))
  · cases fuel with
    | zero => exact .inr h₀
    | succ fuel => rw [h fuel]; exact hy.only fuel

section

variable {x : ℕ → Outcome ε α} {f : ℕ → α → Outcome ε β} {a : α} {e : ε} {v : Outcome ε β}

theorem Settles.bind_ok (hx : Settles x (.ok a)) (hf : Settles (fun fuel => f fuel a) v) :
    Settles (fun fuel => x fuel >>= f fuel) v := by
  obtain ⟨F, hF⟩ := hx.enough
  obtain ⟨G, hG⟩ := hf.enough
  refine ⟨hf.ended, ⟨max F G, fun fuel hle => ?_⟩, fun fuel => ?_⟩
  · rw [hF fuel (Nat.le_trans (Nat.le_max_left ..) hle), ok_bind]
    exact hG fuel (Nat.le_trans (Nat.le_max_right ..) hle)
  · rcases hx.only fuel with h | h
    · rw [h, ok_bind]
      exact hf.only fuel
    · rw [h]
      exact .inr rfl

theorem Settles.bind_err (hx : Settles x (.err e)) :
    Settles (fun fuel => x fuel >>= f fuel) (.err e) := by
  obtain ⟨F, hF⟩ := hx.enough
  refine ⟨by simp, ⟨F, fun fuel hle => by rw [hF fuel hle, err_bind]⟩, fun fuel => ?_⟩
  rcases hx.only fuel with h | h
  · exact .inl (by rw [h, err_bind])
  · exact .inr (by rw [h, timeout_bind])

theorem Settles.bind_diverges (hx : Settles x (.ok a)) (hf : Diverges fun fuel => f fuel a) :
    Diverges fun fuel => x fuel >>= f fuel := by
  intro fuel
  rcases hx.only fuel with h | h
  · simpa only [h, ok_bind] using hf fuel
  · simp only [h, timeout_bind]

theorem Diverges.bind (hx : Diverges x) : Diverges fun fuel => x fuel >>= f fuel := by
  intro fuel
  simp only [hx fuel, timeout_bind]

theorem Settles.ends {v : Outcome ε α} (hx : Settles x v) (hv : v.Finished) :
    ∃ fuel, (x fuel).Finished := by
  obtain ⟨F, hF⟩ := hx.enough
  exact ⟨F, by rwa [hF F (Nat.le_refl F)]⟩

theorem Diverges.not_ends (hx : Diverges x) : ¬ ∃ fuel, (x fuel).Finished := by
  rintro ⟨fuel, h⟩
  rw [hx fuel] at h
  exact h

end

end DohProxy.Lib
