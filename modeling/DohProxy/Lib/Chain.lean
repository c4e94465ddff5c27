import Mathlib.Data.List.Nodup
import Mathlib.Tactic.Common

/-!
# Doubly linked lists in a map

A list of entries with keys, kept in a map: the node of a key holds the entry, the key before
it and the key after it.

## What is proved

`Threads m head tail l` says that the nodes of the map are linked to the list `l`.
`Threads.unlink` takes an entry out by pointing its neighbours at each other,
`Threads.pushFront` puts one in front, `Threads.setEntry` changes an entry in its place.
`Threads.follow` — following the links from the head visits the keys in order, and
`Threads.next_iff_prev` — the links back are the inverse of the links forth.
-/

namespace DohProxy.Lib

/-- A node: an entry with the keys before and after it. -/
structure Link (K E : Type) where
  /-- What the node is kept for. -/
  entry : E
  /-- The key before it. -/
  prev : Option K
  /-- The key after it. -/
  next : Option K
  deriving DecidableEq

namespace Chain

variable {K E : Type} {m m' : K → Option (Link K E)} {p n head tail : Option K} {k : K} {e : E}
  {l l₁ l₂ before after : List (K × E)}

/-- The keys of a list. -/
abbrev keys (l : List (K × E)) : List K := l.map Prod.fst

/-- The first key of a list, or else what is after the list. -/
def first : List (K × E) → Option K → Option K
  | [], n => n
  | (k, _) :: _, _ => some k

/-- The last key of a list, or else what is before the list. -/
def last : Option K → List (K × E) → Option K
  | p, [] => p
  | _, (k, _) :: l => last (some k) l

/-- The nodes of a list are linked to each other, to `p` before it and to `n` after it. -/
def Linked (m : K → Option (Link K E)) : Option K → List (K × E) → Option K → Prop
  | _, [], _ => True
  | p, (k, e) :: l, n => m k = some ⟨e, p, first l n⟩ ∧ Linked m (some k) l n

/-! ### Ends of a list -/

@[simp] theorem first_nil (n : Option K) : first ([] : List (K × E)) n = n := rfl

@[simp] theorem first_cons (n : Option K) : first ((k, e) :: l) n = some k := rfl

@[simp] theorem last_nil (p : Option K) : last p ([] : List (K × E)) = p := rfl

theorem last_cons (p : Option K) : last p ((k, e) :: l) = last (some k) l := rfl

theorem first_append (l₁ l₂ : List (K × E)) (n : Option K) : first (l₁ ++ l₂) n = first l₁
    (first l₂ n) := by
  cases l₁ <;> rfl

theorem last_append (l₁ l₂ : List (K × E)) : ∀ p, last p (l₁ ++ l₂) = last (last p l₁) l₂ := by
  induction l₁ with
  | nil => exact fun _ => rfl
  | cons b l₁ ih => exact fun _ => ih _

theorem mem_keys_of_first (h : first l none = some k) : k ∈ keys l := by
  cases l with
  | nil => simp at h
  | cons b l => simp [Option.some.inj h.symm]

theorem mem_keys_of_last : ∀ {p : Option K}, last p l = some k → k ∈ keys l ∨ p = some k := by
  induction l with
  | nil => exact fun h => .inr h
  | cons b l ih =>
    intro p h
    rcases ih h with hk | hk
    · exact .inl (List.mem_cons_of_mem _ hk)
    · exact .inl (by simp [Option.some.inj hk])

theorem mem_keys_of_last_none (h : last none l = some k) : k ∈ keys l :=
  (mem_keys_of_last h).resolve_right (by simp)

theorem last_eq_getLast? (l : List (K × E)) : last none l = (keys l).getLast? := by
  rcases List.eq_nil_or_concat l with rfl | ⟨l, ⟨k, e⟩, rfl⟩
  · rfl
  · simp [last_append, last_cons]

theorem last_eq_none : last none l = none ↔ l = [] := by
  rw [last_eq_getLast?, List.getLast?_eq_none_iff, List.map_eq_nil_iff]

/-! ### Linked nodes -/

theorem linked_append : ∀ {p : Option K},
    Linked m p (l₁ ++ l₂) n ↔ Linked m p l₁ (first l₂ n) ∧ Linked m (last p l₁) l₂ n := by
  induction l₁ with
  | nil => simp [Linked]
  | cons b l₁ ih =>
    intro p
    rw [List.cons_append, Linked, Linked, ih, first_append, last_cons, and_assoc]

/-- Only the nodes of the list matter. -/
theorem Linked.congr (h : ∀ k ∈ keys l, m' k = m k) : ∀ {p : Option K}, Linked m p l n →
    Linked m' p l n := by
  induction l with
  | nil => exact fun _ => trivial
  | cons b l ih =>
    rintro p ⟨hb, hl⟩
    exact ⟨(h b.1 (by simp)).trans hb, ih (fun k hk => h k (List.mem_cons_of_mem _ hk)) hl⟩

/-- The node of a key that is in the list. -/
theorem Linked.node (h : Linked m p (before ++ (k, e) :: after) n) :
    m k = some ⟨e, last p before, first after n⟩ := (linked_append.mp h).2.1

section

variable [DecidableEq K]

/-- Changing the node of a key, if there are the key and the node. -/
def modifyAt (m : K → Option (Link K E)) (k : Option K) (f : Link K E → Link K E) :
    K → Option (Link K E) :=
  fun x => if k = some x then (m x).map f else m x

@[simp] theorem modifyAt_none (f : Link K E → Link K E) : modifyAt m none f = m := by
  funext x; simp [modifyAt]

theorem modifyAt_self (f : Link K E → Link K E) : modifyAt m (some k) f k = (m k).map f := by
    simp [modifyAt]

theorem modifyAt_of_ne {x : K} {k : Option K} (f : Link K E → Link K E) (h : k ≠ some x) :
    modifyAt m k f x = m x := by simp [modifyAt, h]

theorem modifyAt_some_of_mem {x : K} (f : Link K E → Link K E) (hk : k ∉ keys l) (hx : x ∈ keys l) :
    modifyAt m (some k) f x = m x :=
  modifyAt_of_ne f fun hxk => hk (Option.some.inj hxk ▸ hx)

theorem modifyAt_isSome (k : Option K) (f : Link K E → Link K E) (x : K) :
    (modifyAt m k f x).isSome = (m x).isSome := by
  unfold modifyAt
  split <;> simp

/-- The last node is pointed elsewhere. -/
theorem Linked.setNext (n' : Option K) : ∀ {p : Option K}, Linked m p l n → (keys l).Nodup →
    Linked (modifyAt m (last none l) fun node => { node with next := n' }) p l n' := by
  induction l with
  | nil => exact fun _ _ => trivial
  | cons b l ih =>
    obtain ⟨k, e⟩ := b
    rintro p ⟨hb, hl⟩ hnd
    obtain ⟨hk, hnd⟩ := List.nodup_cons.mp hnd
    cases l with
    | nil => exact ⟨by rw [last_cons, last_nil, modifyAt_self, hb]; rfl, trivial⟩
    | cons b l =>
      refine ⟨?_, ih hl hnd⟩
      rw [modifyAt_of_ne, hb]
      · rfl
      · exact fun h => hk (mem_keys_of_last_none h)

/-- The first node is pointed elsewhere. -/
theorem Linked.setPrev (p' : Option K) (h : Linked m p l n) (hnd : (keys l).Nodup) :
    Linked (modifyAt m (first l none) fun node => { node with prev := p' }) p' l n := by
  cases l with
  | nil => trivial
  | cons b l =>
    obtain ⟨hb, hl⟩ := h
    obtain ⟨hk, -⟩ := List.nodup_cons.mp hnd
    exact ⟨by rw [first_cons, modifyAt_self, hb]; rfl, hl.congr fun x hx =>
      modifyAt_some_of_mem _ hk hx⟩

end

/-! ### The whole list -/

/-- The map holds the list, between `head` and `tail`. -/
structure Threads (m : K → Option (Link K E)) (head tail : Option K) (l : List (K × E)) : Prop where
  /-- No key is twice in the list. -/
  nodup : (keys l).Nodup
  /-- The nodes are linked. -/
  linked : Linked m none l none
  /-- The head is the first key. -/
  head_eq : head = first l none
  /-- The tail is the last key. -/
  tail_eq : tail = last none l

theorem threads_nil (m : K → Option (Link K E)) : Threads m none none [] :=
  ⟨List.nodup_nil, trivial, rfl, rfl⟩

theorem Threads.congr (h : Threads m head tail l) (heq : ∀ k ∈ keys l, m' k = m k) :
    Threads m' head tail l :=
  { h with linked := h.linked.congr heq }

theorem Threads.node (h : Threads m head tail (before ++ (k, e) :: after)) :
    m k = some ⟨e, last none before, first after none⟩ := h.linked.node

theorem not_mem_of_nodup (h : (keys (before ++ (k, e) :: after)).Nodup) :
    k ∉ keys (before ++ after) := by
  rw [keys, List.map_append, List.map_cons, List.nodup_middle, List.nodup_cons] at h
  rw [keys, List.map_append]
  exact h.1

section

variable [DecidableEq K]

/-- The neighbours of a key are pointed at each other, and the key at nothing. -/
def unlink (m : K → Option (Link K E)) (k : K) (prev next : Option K) : K → Option (Link K E) :=
  modifyAt (modifyAt (modifyAt m prev fun node => { node with next := next }) next
    fun node => { node with prev := prev }) (some k) fun node =>
      { node with prev := none, next := none }

theorem unlink_isSome (k : K) (prev next : Option K) (x : K) :
    (unlink m k prev next x).isSome = (m x).isSome := by
  simp only [unlink, modifyAt_isSome]

/-- **Taking an entry out.** -/
theorem Threads.unlink (h : Threads m head tail (before ++ (k, e) :: after)) :
    Threads (unlink m k (last none before) (first after none))
      (if last none before = none then first after none else head)
      (if first after none = none then last none before else tail) (before ++ after) := by
  have hk := not_mem_of_nodup h.nodup
  have hnd : (keys before ++ k :: keys after).Nodup := by simpa [keys] using h.nodup
  obtain ⟨hbefore, hafter, hdisj⟩ := List.nodup_append'.mp
    (List.nodup_cons.mp (List.nodup_middle.mp hnd)).2
  obtain ⟨hb, -, ha⟩ := linked_append.mp h.linked
  rw [keys, List.map_append, List.mem_append, not_or] at hk
  refine ⟨by rw [keys, List.map_append]; exact (List.nodup_middle.mp hnd).of_cons,
    linked_append.mpr ⟨?_, ?_⟩, ?_, ?_⟩
  · refine (hb.setNext (first after none) hbefore).congr fun x hx => ?_
    rw [Chain.unlink, modifyAt_some_of_mem _ hk.1 hx, modifyAt_of_ne]
    exact fun hxn => hdisj hx (mem_keys_of_first hxn)
  · have ha' : Linked (modifyAt m (last none before) fun node =>
      { node with next := first after none })
        (some k) after none :=
      ha.congr fun x hx => modifyAt_of_ne _ fun hxp => hdisj (mem_keys_of_last_none hxp) hx
    refine (ha'.setPrev (last none before) hafter).congr fun x hx => ?_
    rw [Chain.unlink, modifyAt_some_of_mem _ hk.2 hx]
  · rw [h.head_eq, first_append, first_append]
    cases before with
    | nil => rfl
    | cons b before => rw [if_neg (by rw [last_eq_none]; simp)]; rfl
  · rw [h.tail_eq, last_append, last_append, last_cons]
    cases after with
    | nil => rfl
    | cons b after => rfl

/-- The node that was taken out points at nothing. -/
theorem Threads.unlink_self (h : Threads m head tail (before ++ (k, e) :: after)) :
    Chain.unlink m k (last none before) (first after none) k = some ⟨e, none, none⟩ := by
  have hk := not_mem_of_nodup h.nodup
  rw [keys, List.map_append, List.mem_append, not_or] at hk
  rw [Chain.unlink, modifyAt_self, modifyAt_of_ne _ (fun hn => hk.2 (mem_keys_of_first hn)),
    modifyAt_of_ne _ (fun hp => hk.1 (mem_keys_of_last_none hp)), h.node]
  rfl

/-- **Putting an entry in front.** -/
theorem Threads.pushFront (h : Threads m head tail l) (hk : k ∉ keys l)
    (hm : m k = some ⟨e, none, head⟩) :
    Threads (modifyAt m head fun node => { node with prev := some k }) (some k)
      (if head = none then some k else tail) ((k, e) :: l) := by
  have hhead := h.head_eq
  subst hhead
  refine ⟨List.nodup_cons.mpr ⟨hk, h.nodup⟩, ⟨?_, h.linked.setPrev (some k) h.nodup⟩, rfl, ?_⟩
  · rw [modifyAt_of_ne _ (fun hf => hk (mem_keys_of_first hf)), hm]
  · rw [h.tail_eq]
    cases l with
    | nil => rfl
    | cons b l => rfl

/-- Changing an entry in its place. -/
theorem Threads.setEntry (h : Threads m head tail (before ++ (k, e) :: after)) (e' : E) :
    Threads (modifyAt m (some k) fun node => { node with entry := e' }) head tail (before ++
      (k, e') :: after) := by
  have hk := not_mem_of_nodup h.nodup
  have hother : ∀ x ∈ keys (before ++ after),
      modifyAt m (some k) (fun node => { node with entry := e' }) x = m x := by
    intro x hx
    exact modifyAt_some_of_mem _ hk hx
  obtain ⟨hb, hm, ha⟩ := linked_append.mp h.linked
  refine ⟨by simpa [keys] using h.nodup, linked_append.mpr ⟨?_, ?_, ?_⟩, ?_, ?_⟩
  · exact hb.congr fun x hx => hother x (by rw [keys, List.map_append]; exact List.mem_append_left _ hx)
  · rw [modifyAt_self, hm]
    rfl
  · exact ha.congr fun x hx => hother x (by rw [keys, List.map_append]; exact List.mem_append_right _ hx)
  · rw [h.head_eq, first_append, first_append]
    rfl
  · rw [h.tail_eq, last_append, last_append]
    rfl

end

/-! ### Walking along the list -/

/-- The keys on the way from a key along the links, at most so many. -/
def follow (m : K → Option (Link K E)) : ℕ → Option K → List K
  | 0, _ => []
  | _ + 1, none => []
  | fuel + 1, some k =>
    match m k with
    | none => []
    | some node => k :: follow m fuel node.next

theorem follow_of_linked : ∀ {p : Option K} {fuel : ℕ}, Linked m p l none → l.length ≤ fuel →
    follow m fuel (first l none) = keys l := by
  induction l with
  | nil =>
    intro p fuel _ _
    cases fuel <;> rfl
  | cons b l ih =>
    rintro p fuel ⟨hb, hl⟩ hle
    cases fuel with
    | zero => simp at hle
    | succ fuel =>
      rw [first_cons, follow, hb]
      exact congrArg (b.1 :: ·) (ih hl (Nat.le_of_succ_le_succ hle))

/-- **Following the links visits the keys in order.** -/
theorem Threads.follow (h : Threads m head tail l) {fuel : ℕ} (hle : l.length ≤ fuel) :
    follow m fuel head = keys l := by
  rw [h.head_eq]
  exact follow_of_linked h.linked hle

theorem exists_split_of_mem (h : k ∈ keys l) : ∃ before e after, l = before ++ (k, e) :: after := by
  obtain ⟨⟨_, e⟩, hmem, rfl⟩ := List.mem_map.mp h
  obtain ⟨before, after, hl⟩ := List.append_of_mem hmem
  exact ⟨before, e, after, hl⟩

/-- **The links back are the inverse of the links forth.** -/
theorem Threads.next_iff_prev (h : Threads m head tail l) {x y : K} (hx : (m x).isSome → x ∈ keys l)
    (hy : (m y).isSome → y ∈ keys l) : (m x).bind Link.next = some y ↔
      (m y).bind Link.prev = some x := by
  constructor
  · intro hnext
    obtain ⟨before, e, after, rfl⟩ := exists_split_of_mem (hx (by cases hm : m x <;> simp_all))
    rw [h.node, Option.bind_some] at hnext
    cases after with
    | nil => simp at hnext
    | cons b after =>
      obtain ⟨k, e'⟩ := b
      obtain rfl : k = y := Option.some.inj hnext
      rw [List.append_cons] at h
      rw [h.node, Option.bind_some, last_append]
      rfl
  · intro hprev
    obtain ⟨before, e, after, rfl⟩ := exists_split_of_mem (hy (by cases hm : m y <;> simp_all))
    rw [h.node, Option.bind_some] at hprev
    rcases List.eq_nil_or_concat before with rfl | ⟨before, ⟨k, e'⟩, rfl⟩
    · simp at hprev
    · rw [List.concat_eq_append] at h hprev
      dsimp only at hprev
      rw [last_append] at hprev
      obtain rfl : k = x := Option.some.inj hprev
      rw [← List.append_cons] at h
      rw [h.node]
      rfl

end Chain

end DohProxy.Lib
