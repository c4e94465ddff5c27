import DohProxy.Lib.Chain

/-!
# Least recently used, on lists

The reference of a cache that forgets the entry that was not used for the longest time: a list
of keys and values, the most recently used first.
-/

namespace DohProxy.Lib.Lru

open Chain (keys not_mem_of_nodup)

variable {K V : Type} [DecidableEq K]

/-- The list without a key. -/
def forget (k : K) (l : List (K × V)) : List (K × V) := l.filter fun kv => kv.1 ≠ k

/-- Looking a key up makes it the most recently used, unless its value is dead: then it is forgotten. -/
def get (dead : V → Prop) [DecidablePred dead] (k : K) (l : List (K × V)) :
    Option V × List (K × V) :=
  match l.lookup k with
  | none => (none, l)
  | some v => if dead v then (none, forget k l) else (some v, (k, v) :: forget k l)

/-- A written key is the most recently used. A new key takes the place of the least recently
used one when the list is full. -/
def upsert (max : ℕ) (k : K) (v : V) (l : List (K × V)) : List (K × V) :=
  if (l.lookup k).isSome then (k, v) :: forget k l
  else if l.length < max then (k, v) :: l
  else (k, v) :: l.dropLast

/-- A removed key gives its value back. -/
def remove (k : K) (l : List (K × V)) : Option V × List (K × V) := (l.lookup k, forget k l)

variable {k : K} {v : V} {l before after : List (K × V)}

theorem exists_split_of_lookup (h : l.lookup k = some v) :
    ∃ before after, l = before ++ (k, v) :: after := by
  obtain ⟨before, after, hl, -⟩ := List.lookup_eq_some_iff.mp h
  exact ⟨before, after, hl⟩

theorem lookup_eq_none : l.lookup k = none ↔ k ∉ keys l := by
  rw [List.lookup_eq_none_iff]
  constructor
  · intro h hmem
    obtain ⟨kv, hkv, rfl⟩ := List.mem_map.mp hmem
    simpa using h kv hkv
  · intro h kv hkv
    have hne : k ≠ kv.1 := by
      rintro rfl
      exact h (List.mem_map_of_mem hkv)
    simpa using hne

theorem forget_eq_self (h : k ∉ keys l) : forget k l = l := by
  refine List.filter_eq_self.mpr fun kv hkv => decide_eq_true ?_
  rintro rfl
  exact h (List.mem_map_of_mem hkv)

/-- The one entry of a key is forgotten. -/
theorem forget_split (h : (keys (before ++ (k, v) :: after)).Nodup) :
    forget k (before ++ (k, v) :: after) = before ++ after := by
  have hk := not_mem_of_nodup h
  rw [keys, List.map_append, List.mem_append, not_or] at hk
  have hafter : forget k ((k, v) :: after) = after := by
    rw [forget, List.filter_cons_of_neg (by simp)]
    exact forget_eq_self hk.2
  calc forget k (before ++ (k, v) :: after) = forget k before ++ forget k ((k, v) :: after) :=
    List.filter_append ..
    _ = before ++ after := by rw [forget_eq_self hk.1, hafter]

theorem lookup_split (h : (keys (before ++ (k, v) :: after)).Nodup) :
    (before ++ (k, v) :: after).lookup k = some v := by
  have hk := not_mem_of_nodup h
  rw [keys, List.map_append, List.mem_append, not_or] at hk
  refine List.lookup_eq_some_iff.mpr ⟨before, after, rfl, fun kv hkv => ?_⟩
  refine bne_iff_ne.mpr ?_
  rintro rfl
  exact hk.1 (List.mem_map_of_mem hkv)

theorem length_get_le {dead : V → Prop} [DecidablePred dead] (hnd : (keys l).Nodup) :
    (get dead k l).2.length ≤ l.length := by
  unfold get
  cases h : l.lookup k with
  | none => exact Nat.le_refl _
  | some v =>
    obtain ⟨before, after, rfl⟩ := exists_split_of_lookup h
    dsimp only
    split
    · exact List.length_filter_le _ _
    · rw [forget_split hnd]
      simp [Nat.add_assoc]

theorem length_upsert_le {max : ℕ} (hmax : 0 < max) (hl : l.length ≤ max) (hnd : (keys l).Nodup) :
    (upsert max k v l).length ≤ max := by
  unfold upsert
  split
  · next h =>
    obtain ⟨w, hw⟩ := Option.isSome_iff_exists.mp h
    obtain ⟨before, after, rfl⟩ := exists_split_of_lookup hw
    rw [forget_split hnd]
    simpa [Nat.add_assoc] using hl
  · split
    · next h => exact h
    · rw [List.length_cons, List.length_dropLast]
      omega

/-- Writing takes the last key out of a full list, when the written key is new, and no other key. -/
theorem not_mem_upsert_iff {max : ℕ} {x : K} (hnd : (keys l).Nodup) (hle : l.length ≤ max)
    (hx : x ∈ keys l) :
    x ∉ keys (upsert max k v l) ↔ k ∉ keys l ∧ l.length = max ∧ (keys l).getLast? = some x := by
  unfold upsert
  split
  · next h =>
    obtain ⟨w, hw⟩ := Option.isSome_iff_exists.mp h
    obtain ⟨before, after, rfl⟩ := exists_split_of_lookup hw
    rw [forget_split hnd]
    refine iff_of_false (fun hnot => hnot ?_) fun hnew => hnew.1 (by simp)
    simpa [or_left_comm] using hx
  · next h =>
    have hk : k ∉ keys l := lookup_eq_none.mp (Option.not_isSome_iff_eq_none.mp h)
    split
    · next hroom => exact iff_of_false (fun hnot =>
        hnot (List.mem_cons_of_mem _ hx)) fun hfull => by omega
    · next hroom =>
      rcases List.eq_nil_or_concat l with rfl | ⟨l, ⟨y, w⟩, rfl⟩
      · simp at hx
      · rw [List.concat_eq_append] at *
        have hy := not_mem_of_nodup hnd
        rw [List.append_nil] at hy
        have hlast : (keys (l ++ [(y, w)])).getLast? = some y := by simp
        rw [List.dropLast_concat, hlast]
        constructor
        · intro hnot
          have hxl : x ∉ keys l := fun hmem => hnot (List.mem_cons_of_mem _ hmem)
          have hxy : x = y := by simpa [hxl] using hx
          exact ⟨hk, Nat.le_antisymm hle (Nat.le_of_not_lt hroom), congrArg some hxy.symm⟩
        · rintro ⟨-, -, heq⟩ hmem
          obtain rfl : y = x := Option.some.inj heq
          rcases List.mem_cons.mp hmem with rfl | hmem
          · exact hk hx
          · exact hy hmem

/-! ### What is known about a key -/

theorem lookup_cons_of_ne {x : K} (h : x ≠ k) : ((k, v) :: l).lookup x = l.lookup x := by
  rw [List.lookup_cons, beq_false_of_ne h]

theorem lookup_forget_self (k : K) (l : List (K × V)) : (forget k l).lookup k = none := by
  rw [lookup_eq_none]
  intro hmem
  obtain ⟨kv, hkv, rfl⟩ := List.mem_map.mp hmem
  exact of_decide_eq_true (List.mem_filter.mp hkv).2 rfl

theorem lookup_forget {x : K} (h : x ≠ k) : (forget k l).lookup x = l.lookup x := by
  induction l with
  | nil => rfl
  | cons kv l ih =>
    obtain ⟨y, w⟩ := kv
    by_cases hy : y = k
    · subst hy
      rw [forget, List.filter_cons_of_neg (by simp), lookup_cons_of_ne h]
      exact ih
    · rw [forget, List.filter_cons_of_pos (by simpa using hy)]
      by_cases hx : x = y
      · subst hx
        rw [List.lookup_cons_self, List.lookup_cons_self]
      · rw [lookup_cons_of_ne hx, lookup_cons_of_ne hx]
        exact ih

/-- A lookup changes nothing about other keys. -/
theorem lookup_get {dead : V → Prop} [DecidablePred dead] {x : K} (h : x ≠ k) :
    (get dead k l).2.lookup x = l.lookup x := by
  unfold get
  split
  · rfl
  · split
    · exact lookup_forget h
    · rw [lookup_cons_of_ne h, lookup_forget h]

/-- What a lookup finds is there after it, and nothing else. -/
theorem lookup_get_self {dead : V → Prop} [DecidablePred dead] :
    (get dead k l).2.lookup k = (get dead k l).1 := by
  unfold get
  split
  · next h => exact h
  · split
    · exact lookup_forget_self k l
    · exact List.lookup_cons_self

theorem lookup_upsert_self (max : ℕ) : (upsert max k v l).lookup k = some v := by
  unfold upsert
  split
  · exact List.lookup_cons_self
  · split <;> exact List.lookup_cons_self

/-- Writing changes nothing about another key, but may make room by it. -/
theorem lookup_upsert {max : ℕ} {x : K} (h : x ≠ k) :
    (upsert max k v l).lookup x = l.lookup x ∨ (upsert max k v l).lookup x = none := by
  unfold upsert
  split
  · exact .inl (by rw [lookup_cons_of_ne h, lookup_forget h])
  · split
    · exact .inl (lookup_cons_of_ne h)
    · rw [lookup_cons_of_ne h]
      rcases List.eq_nil_or_concat l with rfl | ⟨l, ⟨y, w⟩, rfl⟩
      · exact .inl rfl
      · rw [List.concat_eq_append, List.dropLast_concat, List.lookup_append]
        cases l.lookup x with
        | none => exact .inr rfl
        | some u => exact .inl rfl

end DohProxy.Lib.Lru
