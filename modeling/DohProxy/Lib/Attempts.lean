import DohProxy.Lib.Outcome
import Mathlib.Data.List.FinRange
import Mathlib.Data.List.Perm.Basic

/-!
# Attempts in some order

Several ways lead to a result, and each may fail. They are tried one after the other, in an order
that may be anything, until one succeeds.

## What is proved

* `firstSuccess_eq_ok` and `firstSuccess_eq_error` — what an order of attempts comes to: the first
  success, or all failures. That there is a success does not depend on the order.
* `swapRemove_perm` — taking out any element and filling the gap with the last one leaves the rest.
* `fill_perm` — a table that is filled in any order is full in the end.
-/

namespace DohProxy.Lib

open Outcome

variable {ι α ε : Type}

/-! ### The first success -/

/-- The first success, or all failures. -/
def firstSuccess (f : ι → Except ε α) : List ι → Except (List (ι × ε)) (ι × α)
  | [] => .error []
  | i :: order =>
    match f i with
    | .ok a => .ok (i, a)
    | .error e =>
      match firstSuccess f order with
      | .ok r => .ok r
      | .error es => .error ((i, e) :: es)

section

variable {f : ι → Except ε α} {order : List ι}

theorem firstSuccess_cons_ok {i : ι} {a : α} (h : f i = .ok a) :
    firstSuccess f (i :: order) = .ok (i, a) := by
  rw [firstSuccess, h]

/-- The failures come before the success. -/
theorem firstSuccess_eq_ok {i : ι} {a : α} (h : firstSuccess f order = .ok (i, a)) :
    ∃ before after, order = before ++ i :: after ∧ f i = .ok a ∧
      ∀ j ∈ before, ∃ e, f j = .error e := by
  induction order with
  | nil => cases h
  | cons j order ih =>
    rw [firstSuccess] at h
    cases hj : f j with
    | ok b =>
      rw [hj] at h
      cases h
      exact ⟨[], order, rfl, hj, nofun⟩
    | error e =>
      rw [hj] at h
      cases hr : firstSuccess f order with
      | ok r =>
        rw [hr] at h
        cases h
        obtain ⟨before, after, rfl, hi, hbefore⟩ := ih hr
        refine ⟨j :: before, after, rfl, hi, ?_⟩
        rintro k (_ | ⟨_, hk⟩)
        · exact ⟨e, hj⟩
        · exact hbefore k hk
      | error es =>
        rw [hr] at h
        cases h

/-- Every attempt has failed. -/
theorem firstSuccess_eq_error {es : List (ι × ε)} (h : firstSuccess f order = .error es) :
    es.map Prod.fst = order ∧ ∀ i e, (i, e) ∈ es → f i = .error e := by
  induction order generalizing es with
  | nil =>
    cases h
    exact ⟨rfl, nofun⟩
  | cons j order ih =>
    rw [firstSuccess] at h
    cases hj : f j with
    | ok b =>
      rw [hj] at h
      cases h
    | error e =>
      rw [hj] at h
      cases hr : firstSuccess f order with
      | ok r =>
        rw [hr] at h
        cases h
      | error es' =>
        rw [hr] at h
        cases h
        obtain ⟨hmap, hall⟩ := ih hr
        refine ⟨by rw [List.map_cons, hmap], ?_⟩
        rintro i e' (_ | ⟨_, hmem⟩)
        · exact hj
        · exact hall i e' hmem

end

/-! ### Taking out an element -/

/-- `swap_remove`: the element at `i`, and the others with the last one in its place. -/
def swapRemove (l : List α) (i : ℕ) : Outcome ε (α × List α) :=
  match l[i]?, l.getLast? with
  | some a, some z => .ok (a, (l.set i z).dropLast)
  | _, _ => .panic

/-- Nothing is lost and nothing comes twice. -/
theorem swapRemove_perm {l : List α} {i : ℕ} (h : i < l.length) :
    ∃ a rest, (swapRemove l i : Outcome ε _) = .ok (a, rest) ∧ l.Perm (a :: rest) := by
  obtain ⟨front, z, rfl⟩ := (List.eq_nil_or_concat' l).resolve_left
    (List.ne_nil_of_length_pos (Nat.zero_lt_of_lt h))
  rw [List.length_append, List.length_singleton] at h
  rcases Nat.lt_or_eq_of_le (Nat.le_of_lt_succ h) with hlt | rfl
  · refine ⟨front[i], front.set i z, ?_, ?_⟩
    · simp [swapRemove, List.getElem?_append_left hlt, List.set_append_left _ _ hlt, hlt]
    · calc (front ++ [z]).Perm (z :: front) := List.perm_append_singleton z front
        List.Perm _ (z :: front[i] :: front.eraseIdx i) :=
          (List.getElem_cons_eraseIdx_perm hlt).symm.cons z
        List.Perm _ (front[i] :: z :: front.eraseIdx i) := List.Perm.swap ..
        List.Perm _ (front[i] :: front.set i z) := (List.set_perm_cons_eraseIdx hlt z).symm.cons _
  · refine ⟨z, front, ?_, List.perm_append_singleton z front⟩
    simp [swapRemove, List.set_append_right]

/-! ### Filling a table -/

section

variable {n : ℕ} (g : Fin n → α)

/-- Set the entries of a table at the given places. -/
def fill (places : List (Fin n)) (table : List (Option α)) : List (Option α) :=
  places.foldl (fun table (i : Fin n) => table.set i (some (g i))) table

theorem length_fill (places : List (Fin n)) (table : List (Option α)) :
    (fill g places table).length = table.length := by
  induction places generalizing table with
  | nil => rfl
  | cons j places ih => rw [fill, List.foldl_cons, ← fill, ih, List.length_set]

theorem getElem?_fill (places : List (Fin n)) :
    ∀ (table : List (Option α)), table.length = n → ∀ i : Fin n,
    (fill g places table)[i.val]? = if i ∈ places then some (some (g i)) else table[i.val]? := by
  induction places with
  | nil => exact fun table _ i => rfl
  | cons j places ih =>
    intro table hlen i
    rw [fill, List.foldl_cons, ← fill, ih _ (by rwa [List.length_set])]
    by_cases hmem : i ∈ places
    · rw [if_pos hmem, if_pos (List.mem_cons_of_mem j hmem)]
    · rw [if_neg hmem]
      by_cases hij : i = j
      · subst hij
        rw [List.getElem?_set_self (by omega), if_pos List.mem_cons_self]
      · have hne : j.val ≠ i.val := fun h => hij (Fin.ext h.symm)
        rw [List.getElem?_set_ne hne, if_neg (by simp [hmem, hij])]

/-- A table that is filled everywhere, in whatever order, is full. -/
theorem fill_perm {places : List (Fin n)} (h : places.Perm (List.finRange n)) :
    (fill g places (List.replicate n none)).filterMap id = List.ofFn g := by
  have hfull : fill g places (List.replicate n none) = (List.ofFn g).map some := by
    apply List.ext_getElem?
    intro i
    by_cases hi : i < n
    · have := getElem?_fill g places _ (List.length_replicate (n := n) (a := none)) ⟨i, hi⟩
      rw [this, if_pos (h.mem_iff.mpr (List.mem_finRange _))]
      simp [hi]
    · rw [List.getElem?_eq_none (by rw [length_fill, List.length_replicate]; omega),
        List.getElem?_eq_none (by simpa using hi)]
  rw [hfull, List.filterMap_map]
  exact List.filterMap_some

end

end DohProxy.Lib
