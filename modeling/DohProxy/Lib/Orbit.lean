import Mathlib.Data.Finset.Card
import Mathlib.Data.Fintype.Card
import Mathlib.Tactic.Common

/-!
# Following a partial function

A loop whose state decides its next state follows a partial function until that is
undefined.

## What is proved

`stops_iff_not_comesBack` — where the function is defined on boundedly many places only, a
loop stops exactly when it never comes to a place it has been at, and then it has gone through no
more than these: `le_of_orbit_stops`.
-/

namespace DohProxy.Lib

variable {α : Type} {f : α → Option α} {x y : α}

/-- The place after a number of steps, if the loop gets so far. -/
def orbit (f : α → Option α) : ℕ → α → Option α
  | 0, x => some x
  | n + 1, x => (f x).bind (orbit f n)

/-- The loop stops. -/
def Stops (f : α → Option α) (x : α) : Prop := ∃ n, orbit f n x = none

/-- The loop comes to a place it has been at. -/
def ComesBack (f : α → Option α) (x : α) : Prop :=
  ∃ i j y, i < j ∧ orbit f i x = some y ∧ orbit f j x = some y

@[simp] theorem orbit_zero (f : α → Option α) (x : α) : orbit f 0 x = some x := rfl

theorem orbit_succ_of_some (h : f x = some y) (n : ℕ) : orbit f (n + 1) x = orbit f n y := by
  rw [orbit, h, Option.bind_some]

theorem orbit_succ_of_none (h : f x = none) (n : ℕ) : orbit f (n + 1) x = none := by
  rw [orbit, h, Option.bind_none]

theorem orbit_add (m n : ℕ) : ∀ x, orbit f (m + n) x = (orbit f m x).bind (orbit f n) := by
  induction m with
  | zero => intro x; simp
  | succ m ih =>
    intro x
    rw [Nat.add_right_comm, orbit, orbit]
    cases f x with
    | none => rfl
    | some y => exact ih y

/-- A loop that has stopped has stopped. -/
theorem orbit_eq_none_of_le {m n : ℕ} (h : orbit f m x = none) (hmn : m ≤ n) :
    orbit f n x = none := by
  rw [← Nat.add_sub_cancel' hmn, orbit_add, h, Option.bind_none]

theorem stops_of_none (h : f x = none) : Stops f x := ⟨1, orbit_succ_of_none h 0⟩

theorem stops_step_iff (h : f x = some y) : Stops f x ↔ Stops f y := by
  constructor
  · rintro ⟨n, hn⟩
    cases n with
    | zero => simp at hn
    | succ n => exact ⟨n, by rwa [orbit_succ_of_some h] at hn⟩
  · rintro ⟨n, hn⟩
    exact ⟨n + 1, by rwa [orbit_succ_of_some h]⟩

/-- A loop that comes back goes round for ever. -/
theorem ComesBack.not_stops (h : ComesBack f x) : ¬ Stops f x := by
  rintro ⟨n, hn⟩
  obtain ⟨i, j, y, hij, hi, hj⟩ := h
  have hround : orbit f (j - i) y = some y := by
    rw [← Nat.add_sub_cancel' hij.le, orbit_add, hi, Option.bind_some] at hj
    exact hj
  have hrounds : ∀ k, orbit f (k * (j - i)) y = some y := by
    intro k
    induction k with
    | zero => simp
    | succ k ih => rw [Nat.succ_mul, orbit_add, ih, Option.bind_some, hround]
  have hlate : orbit f (i + n * (j - i)) x = some y := by
    rw [orbit_add, hi, Option.bind_some, hrounds]
  have hle : n ≤ i + n * (j - i) := by
    have : n * 1 ≤ n * (j - i) := Nat.mul_le_mul_left n (by omega)
    omega
  rw [orbit_eq_none_of_le hn hle] at hlate
  exact absurd hlate (by simp)

/-- **A loop on boundedly many places stops exactly when it does not come back.** -/
theorem stops_iff_not_comesBack {f : ℕ → Option ℕ} {bound x : ℕ}
    (h : ∀ y z, f y = some z → y < bound) :
    Stops f x ↔ ¬ ComesBack f x := by
  refine ⟨fun hs hc => hc.not_stops hs, fun hc => ?_⟩
  by_contra hs
  have hplace : ∀ n, ∃ y, orbit f n x = some y ∧ y < bound := by
    intro n
    cases hn : orbit f n x with
    | none => exact absurd ⟨n, hn⟩ hs
    | some y =>
      refine ⟨y, rfl, ?_⟩
      cases hy : f y with
      | none => exact absurd ⟨n + 1, by rw [orbit_add, hn, Option.bind_some, orbit, hy,
        Option.bind_none]⟩ hs
      | some z => exact h y z hy
  choose place hp hlt using hplace
  -- more times than places
  obtain ⟨i, -, j, -, hij, heq⟩ := Finset.exists_ne_map_eq_of_card_lt_of_maps_to
    (s := Finset.range (bound + 1)) (t := Finset.range bound) (by simp) (f := place)
    (fun n _ => Finset.mem_coe.mpr (Finset.mem_range.mpr (hlt n)))
  rcases Nat.lt_or_gt_of_ne hij with hlt | hlt
  · exact hc ⟨i, j, place i, hlt, hp i, by rw [heq, hp j]⟩
  · exact hc ⟨j, i, place j, hlt, hp j, by rw [← heq, hp i]⟩

/-- **A loop that stops goes through no more places than there are.** -/
theorem le_of_orbit_stops {f : ℕ → Option ℕ} {bound n x last : ℕ}
    (h : ∀ y z, f y = some z → y < bound) (hn : orbit f n x = some last) (hlast : f last = none) :
    n ≤ bound := by
  by_contra hlt
  have hplace : ∀ i, i < n → ∃ y, orbit f i x = some y ∧ y < bound := by
    intro i hi
    rw [← Nat.add_sub_cancel' hi.le, orbit_add, Option.bind_eq_some_iff] at hn
    obtain ⟨y, hy, hrest⟩ := hn
    obtain ⟨m, hm⟩ := Nat.exists_eq_succ_of_ne_zero (show n - i ≠ 0 by omega)
    rw [hm, orbit, Option.bind_eq_some_iff] at hrest
    obtain ⟨z, hz, -⟩ := hrest
    exact ⟨y, hy, h y z hz⟩
  choose! place hp hbound using hplace
  obtain ⟨i, hi, j, hj, hij, heq⟩ := Finset.exists_ne_map_eq_of_card_lt_of_maps_to
    (s := Finset.range n) (t := Finset.range bound) (by simpa using hlt) (f := place)
    (fun i hi => Finset.mem_coe.mpr (Finset.mem_range.mpr (hbound i (by simpa using hi))))
  rw [Finset.mem_range] at hi hj
  have hback : ComesBack f x := by
    rcases Nat.lt_or_gt_of_ne hij with hlt | hlt
    · exact ⟨i, j, place i, hlt, hp i hi, by rw [heq, hp j hj]⟩
    · exact ⟨j, i, place j, hlt, hp j hj, by rw [← heq, hp i hi]⟩
  refine hback.not_stops ⟨n + 1, ?_⟩
  rw [orbit_add, hn, Option.bind_some]
  exact orbit_succ_of_none hlast 0

end DohProxy.Lib
