import DohProxy.Lib.Lru
import DohProxy.Net.IpAddr
import Mathlib.Data.Finmap

/-!
# The cache of the fastest addresses

`FastestIpCache` of `globals.rs`: a map from addresses to nodes that hold the addresses before
and after them, so that the map is a doubly linked list as well, the most recently used
address first. Every neighbour is looked up in the map before it is changed.

## What is proved

`run_refines` — whatever calls are made, the cache replies as a list of addresses and entries
does that forgets the least recently used one, and its nodes hold that list.
-/

namespace DohProxy.Cache

open Lib Lib.Chain Net

/-- What was found out about an address. -/
inductive FastIpCacheStatus where
  /-- It was reached. -/
  | success
  /-- It was not. -/
  | failure
  deriving DecidableEq

/-- What the cache keeps about an address. -/
structure FastIpCacheEntry where
  /-- Whether it was reached. -/
  status : FastIpCacheStatus
  /-- How fast. -/
  latencyMs : UInt32
  /-- When to find out again. -/
  expireAtMs : UInt64
  deriving DecidableEq

/-- `FASTEST_IP_CACHE_MAX_SIZE`. -/
abbrev fastestIpCacheMaxSize : ℕ := 64 * 1024

/-- A node of the map: an `entry`, with the addresses `prev` and `next`. -/
abbrev FastIpCacheNode := Link IpAddr FastIpCacheEntry

/-- The cache. -/
structure FastestIpCache where
  /-- The most entries there may be. -/
  maxSize : ℕ
  /-- The most recently used address. -/
  head : Option IpAddr
  /-- The least recently used address. -/
  tail : Option IpAddr
  /-- The nodes. -/
  entries : Finmap fun _ : IpAddr => FastIpCacheNode

namespace FastestIpCache

/-- An empty cache. -/
def withMaxSize (maxSize : ℕ) : FastestIpCache := ⟨max maxSize 1, none, none, ∅⟩

/-- The number of entries. -/
def len (c : FastestIpCache) : ℕ := c.entries.keys.card

/-- `if let Some(node) = self.entries.get_mut(&key)`. -/
def modifyNode (c : FastestIpCache) (key : IpAddr) (f : FastIpCacheNode → FastIpCacheNode) :
    FastestIpCache :=
  match c.entries.lookup key with
  | some node => { c with entries := c.entries.insert key (f node) }
  | none => c

/-- The neighbours `prev` and `next` of an address are linked to each other. -/
def detach (c : FastestIpCache) (key : IpAddr) (prev next : Option IpAddr) : FastestIpCache :=
  let c := match prev with
    | some p => c.modifyNode p fun node => { node with next := next }
    | none => { c with head := next }
  let c := match next with
    | some n => c.modifyNode n fun node => { node with prev := prev }
    | none => { c with tail := prev }
  c.modifyNode key fun node => { node with prev := none, next := none }

/-- The end of `upsert` and of `move_to_front`: an address whose node is in front becomes the head. -/
def linkHead (c : FastestIpCache) (key : IpAddr) : FastestIpCache :=
  let c := match c.head with
    | some h => c.modifyNode h fun node => { node with prev := some key }
    | none => { c with tail := some key }
  { c with head := some key }

/-- An address becomes the most recently used one. -/
def moveToFront (c : FastestIpCache) (key : IpAddr) : FastestIpCache :=
  if c.head = some key then c
  else
    match c.entries.lookup key with
    | none => c
    | some node =>
      let c := c.detach key node.prev node.next
      let c := c.modifyNode key fun node => { node with prev := none, next := c.head }
      c.linkHead key

/-- Removing an address. -/
def remove (c : FastestIpCache) (key : IpAddr) : Option FastIpCacheEntry × FastestIpCache :=
  match c.entries.lookup key with
  | none => (none, c)
  | some node =>
    let c := c.detach key node.prev node.next
    ((c.entries.lookup key).map Link.entry, { c with entries := c.entries.erase key })

/-- The loop that removes the tail while there are too many entries. `none` is a loop that has not
come to its end with the fuel. -/
def evictIfNeeded : ℕ → FastestIpCache → Option FastestIpCache
  | 0, _ => none
  | fuel + 1, c =>
    if c.maxSize < c.len then
      match c.tail with
      | none => some c
      | some tail => evictIfNeeded fuel (c.remove tail).2
    else some c

/-- The entry of an address at a time. -/
def get (c : FastestIpCache) (key : IpAddr) (nowMs : UInt64) :
    Option FastIpCacheEntry × FastestIpCache :=
  match c.entries.lookup key with
  | none => (none, c)
  | some node =>
    if node.entry.expireAtMs ≤ nowMs then (none, (c.remove key).2)
    else (some node.entry, c.moveToFront key)

/-- Writing the entry of an address. -/
def upsert (c : FastestIpCache) (key : IpAddr) (entry : FastIpCacheEntry) : Option FastestIpCache :=
  match c.entries.lookup key with
  | some _ => some ((c.modifyNode key fun node => { node with entry := entry }).moveToFront key)
  | none =>
    let c := { c with entries := c.entries.insert key ⟨entry, none, c.head⟩ }
    let c := c.linkHead key
    evictIfNeeded (c.len + 1) c

/-! ### Calls -/

/-- A call. -/
inductive Call where
  /-- `get(key, now_ms)`. -/
  | get (key : IpAddr) (nowMs : UInt64)
  /-- `upsert(key, entry)`. -/
  | upsert (key : IpAddr) (entry : FastIpCacheEntry)
  /-- `remove(key)`. -/
  | remove (key : IpAddr)

/-- What a call returns, and the cache after it. -/
def call (c : FastestIpCache) : Call → Option (Option FastIpCacheEntry × FastestIpCache)
  | .get key nowMs => some (c.get key nowMs)
  | .upsert key entry => (c.upsert key entry).map (none, ·)
  | .remove key => some (c.remove key)

/-- What calls return, one after the other, and the cache after them. -/
def run (c : FastestIpCache) : List Call → Option (List (Option FastIpCacheEntry) × FastestIpCache)
  | [] => some ([], c)
  | op :: ops =>
    match c.call op with
    | none => none
    | some (reply, c) => (c.run ops).map fun (replies, c) => (reply :: replies, c)

/-- An entry is dead when its time has come. -/
def Dead (nowMs : UInt64) (entry : FastIpCacheEntry) : Prop := entry.expireAtMs ≤ nowMs

instance (nowMs : UInt64) : DecidablePred (Dead nowMs) :=
  fun _ => inferInstanceAs (Decidable (_ ≤ _))

/-- What a call returns of the reference list, and the list after it. -/
def refCall (max : ℕ) (l : List (IpAddr × FastIpCacheEntry)) :
    Call → Option FastIpCacheEntry × List (IpAddr × FastIpCacheEntry)
  | .get key nowMs => Lru.get (Dead nowMs) key l
  | .upsert key entry => (none, Lru.upsert max key entry l)
  | .remove key => Lru.remove key l

/-- What calls return of the reference list, and the list after them. -/
def refRun (max : ℕ) (l : List (IpAddr × FastIpCacheEntry)) :
    List Call → List (Option FastIpCacheEntry) × List (IpAddr × FastIpCacheEntry)
  | [] => ([], l)
  | op :: ops =>
    let (reply, l) := refCall max l op
    let (replies, l) := refRun max l ops
    (reply :: replies, l)

/-! ### Nodes -/

variable {c : FastestIpCache} {key : IpAddr} {prev next : Option IpAddr} {entry : FastIpCacheEntry}
  {l before after : List (IpAddr × FastIpCacheEntry)}

/-- The node of an address. -/
def node (c : FastestIpCache) (key : IpAddr) : Option FastIpCacheNode := c.entries.lookup key

@[simp] theorem node_mk (maxSize : ℕ) (head tail : Option IpAddr) :
    node ⟨maxSize, head, tail, c.entries⟩ = c.node := rfl

theorem node_erase {x : IpAddr} (h : x ≠ key) :
    node { c with entries := c.entries.erase key } x = c.node x :=
  Finmap.lookup_erase_ne h

theorem node_insert {n : FastIpCacheNode} {x : IpAddr} (h : x ≠ key) :
    node { c with entries := c.entries.insert key n } x = c.node x := Finmap.lookup_insert_of_ne _ h

theorem node_isSome : (c.node key).isSome ↔ key ∈ c.entries := Finmap.lookup_isSome

@[simp] theorem modifyNode_head (f : FastIpCacheNode → FastIpCacheNode) :
    (c.modifyNode key f).head = c.head := by
  unfold modifyNode; split <;> rfl

@[simp] theorem modifyNode_tail (f : FastIpCacheNode → FastIpCacheNode) :
    (c.modifyNode key f).tail = c.tail := by
  unfold modifyNode; split <;> rfl

@[simp] theorem modifyNode_maxSize (f : FastIpCacheNode → FastIpCacheNode) :
    (c.modifyNode key f).maxSize = c.maxSize := by
  unfold modifyNode; split <;> rfl

@[simp] theorem modifyNode_node (f : FastIpCacheNode → FastIpCacheNode) :
    (c.modifyNode key f).node = modifyAt c.node (some key) f := by
  funext x
  unfold modifyNode
  split
  · next node h =>
    by_cases hx : x = key
    · subst hx
      rw [modifyAt_self, FastestIpCache.node, FastestIpCache.node, Finmap.lookup_insert, h,
        Option.map_some]
    · rw [modifyAt_of_ne _ (fun hk => hx (Option.some.inj hk).symm)]
      exact Finmap.lookup_insert_of_ne _ hx
  · next h =>
    by_cases hx : x = key
    · subst hx
      rw [modifyAt_self, FastestIpCache.node, h, Option.map_none]
    · rw [modifyAt_of_ne _ (fun hk => hx (Option.some.inj hk).symm)]

theorem detach_node : (c.detach key prev next).node = unlink c.node key prev next := by
  cases prev <;> cases next <;> simp [detach, unlink]

theorem detach_head : (c.detach key prev next).head = if prev = none then next else c.head := by
  cases prev <;> cases next <;> simp [detach]

theorem detach_tail : (c.detach key prev next).tail = if next = none then prev else c.tail := by
  cases prev <;> cases next <;> simp [detach]

@[simp] theorem detach_maxSize : (c.detach key prev next).maxSize = c.maxSize := by
  cases prev <;> cases next <;> simp [detach]

theorem linkHead_node :
    (c.linkHead key).node = modifyAt c.node c.head fun node => { node with prev := some key } := by
  unfold linkHead
  cases h : c.head with
  | none => exact (modifyAt_none _).symm
  | some h => exact modifyNode_node _

@[simp] theorem linkHead_head : (c.linkHead key).head = some key := rfl

theorem linkHead_tail : (c.linkHead key).tail = if c.head = none then some key else c.tail := by
  unfold linkHead
  cases h : c.head <;> simp

@[simp] theorem linkHead_maxSize : (c.linkHead key).maxSize = c.maxSize := by
  unfold linkHead
  cases h : c.head <;> simp

/-! ### The list that the nodes hold -/

/-- The nodes hold a list, and there are no others. -/
structure Holds (c : FastestIpCache) (l : List (IpAddr × FastIpCacheEntry)) : Prop where
  /-- The nodes are linked. -/
  threads : Threads c.node c.head c.tail l
  /-- Every node is one of them. -/
  covers : ∀ key, (c.node key).isSome ↔ key ∈ keys l

theorem holds_withMaxSize (maxSize : ℕ) : (withMaxSize maxSize).Holds [] :=
  ⟨threads_nil _, fun _ => by simp [node, withMaxSize]⟩

theorem Holds.entry_eq (h : c.Holds l) (key : IpAddr) :
    (c.node key).map Link.entry = l.lookup key := by
  cases hl : l.lookup key with
  | none =>
    have hk : ¬ (c.node key).isSome := fun hs => Lru.lookup_eq_none.mp hl ((h.covers key).mp hs)
    rw [Option.not_isSome_iff_eq_none.mp hk, Option.map_none]
  | some entry =>
    obtain ⟨before, after, rfl⟩ := Lru.exists_split_of_lookup hl
    rw [h.threads.node, Option.map_some]

theorem Holds.len_eq (h : c.Holds l) : c.len = l.length := by
  have hkeys : c.entries.keys = (keys l).toFinset := by
    ext x
    rw [Finmap.mem_keys, ← node_isSome, h.covers, List.mem_toFinset]
  rw [len, hkeys, List.toFinset_card_of_nodup h.threads.nodup, List.length_map]

/-- Where the node of an address points. -/
theorem Holds.split {n : FastIpCacheNode} (h : c.Holds l) (hn : c.node key = some n) :
    ∃ before after, l = before ++ (key, n.entry) :: after ∧ n.prev = last none before ∧
      n.next = first after none := by
  have hentry := h.entry_eq key
  rw [hn, Option.map_some] at hentry
  obtain ⟨before, after, rfl⟩ := Lru.exists_split_of_lookup hentry.symm
  have heq := hn.symm.trans h.threads.node
  rw [Option.some.injEq] at heq
  exact ⟨before, after, rfl, congrArg Link.prev heq, congrArg Link.next heq⟩

/-- A detached address leaves its node behind. -/
structure Detached (c c' : FastestIpCache) (key : IpAddr) (entry : FastIpCacheEntry)
    (l : List (IpAddr × FastIpCacheEntry)) : Prop where
  /-- The other nodes are linked. -/
  threads : Threads c'.node c'.head c'.tail l
  /-- The address is not among them. -/
  fresh : key ∉ keys l
  /-- Its node points at nothing. -/
  node : c'.node key = some ⟨entry, none, none⟩
  /-- There are no other nodes. -/
  covers : ∀ x, (c'.node x).isSome ↔ x = key ∨ x ∈ keys l

theorem Holds.detach (h : c.Holds (before ++ (key, entry) :: after)) :
    c.Detached (c.detach key (last none before) (first after none)) key entry
      (before ++ after) := by
  refine ⟨?_, not_mem_of_nodup h.threads.nodup, ?_, fun x => ?_⟩
  · rw [detach_node, detach_head, detach_tail]
    exact h.threads.unlink
  · rw [detach_node]
    exact h.threads.unlink_self
  · rw [detach_node, unlink_isSome, h.covers]
    simp only [keys, List.map_append, List.map_cons, List.mem_append, List.mem_cons]
    tauto

/-- **Removing** gives the entry back and forgets the address. -/
theorem Holds.remove (h : c.Holds l) (key : IpAddr) :
    (c.remove key).1 = l.lookup key ∧ (c.remove key).2.Holds (Lru.forget key l) ∧
      (c.remove key).2.maxSize = c.maxSize := by
  have hentry := h.entry_eq key
  unfold FastestIpCache.remove
  split
  · next hn =>
    rw [node, hn, Option.map_none] at hentry
    exact ⟨hentry, by rwa [Lru.forget_eq_self (Lru.lookup_eq_none.mp hentry.symm)], rfl⟩
  · next n hn =>
    obtain ⟨before, after, rfl, hprev, hnext⟩ := h.split hn
    have hd := h.detach
    rw [Lru.forget_split h.threads.nodup, Lru.lookup_split h.threads.nodup, hprev, hnext]
    refine ⟨congrArg (Option.map Link.entry) hd.node,
      ⟨hd.threads.congr fun x hx => node_erase ?_, fun x => ?_⟩,
      detach_maxSize⟩
    · rintro rfl
      exact hd.fresh hx
    · by_cases hx : x = key
      · subst hx
        exact iff_of_false (by simp [node]) hd.fresh
      · rw [node_erase hx, hd.covers, or_iff_right hx]

/-- A node in front that points at the head becomes the head. -/
theorem holds_linkHead (h : Threads c.node c.head c.tail l) (hfresh : key ∉ keys l)
    (hn : c.node key = some ⟨entry, none, c.head⟩) (hcovers : ∀ x, (c.node x).isSome ↔
      x = key ∨ x ∈ keys l) :
    (c.linkHead key).Holds ((key, entry) :: l) := by
  refine ⟨?_, fun x => ?_⟩
  · rw [linkHead_node, linkHead_tail]
    exact h.pushFront hfresh hn
  · rw [linkHead_node, modifyAt_isSome, hcovers]
    exact List.mem_cons.symm

/-- **Moving to the front**. -/
theorem Holds.moveToFront (h : c.Holds (before ++ (key, entry) :: after)) :
    (c.moveToFront key).Holds ((key, entry) :: (before ++ after)) ∧
      (c.moveToFront key).maxSize = c.maxSize := by
  have hfresh := not_mem_of_nodup h.threads.nodup
  unfold FastestIpCache.moveToFront
  by_cases hhead : c.head = some key
  · rw [if_pos hhead]
    cases before with
    | nil => exact ⟨h, rfl⟩
    | cons b before =>
      obtain rfl : b.1 = key := Option.some.inj (h.threads.head_eq.symm.trans hhead)
      exact absurd (by simp) hfresh
  · have hd := h.detach
    have hnode : c.entries.lookup key = some ⟨entry, last none before,
      first after none⟩ := h.threads.node
    rw [if_neg hhead, hnode]
    dsimp only
    generalize hc : c.detach key (last none before) (first after none) = c' at hd
    have hsize : c'.maxSize = c.maxSize := hc ▸ detach_maxSize
    refine ⟨holds_linkHead ?_ hfresh ?_ fun x => ?_, ?_⟩
    · rw [modifyNode_node, modifyNode_head, modifyNode_tail]
      exact hd.threads.congr fun x hx => modifyAt_some_of_mem _ hfresh hx
    · rw [modifyNode_node, modifyNode_head, modifyAt_self, hd.node, Option.map_some]
    · rw [modifyNode_node, modifyAt_isSome, hd.covers]
    · rw [linkHead_maxSize, modifyNode_maxSize, hsize]

/-- **Looking up**. -/
theorem Holds.get (h : c.Holds l) (key : IpAddr) (nowMs : UInt64) :
    (c.get key nowMs).1 = (Lru.get (Dead nowMs) key l).1 ∧
      (c.get key nowMs).2.Holds (Lru.get (Dead nowMs) key l).2 ∧
        (c.get key nowMs).2.maxSize = c.maxSize := by
  have hentry := h.entry_eq key
  unfold FastestIpCache.get Lru.get
  cases hn : c.entries.lookup key with
  | none =>
    rw [node, hn, Option.map_none] at hentry
    rw [← hentry]
    exact ⟨rfl, h, rfl⟩
  | some n =>
    rw [node, hn, Option.map_some] at hentry
    rw [← hentry]
    dsimp only
    by_cases hdead : n.entry.expireAtMs ≤ nowMs
    · rw [if_pos hdead, if_pos (show Dead nowMs n.entry from hdead)]
      exact ⟨rfl, (h.remove key).2⟩
    · rw [if_neg hdead, if_neg (show ¬ Dead nowMs n.entry from hdead)]
      obtain ⟨before, after, rfl, -⟩ := h.split hn
      rw [Lru.forget_split h.threads.nodup]
      exact ⟨rfl, h.moveToFront⟩

/-! ### Making room -/

/-- No round of the loop is made when there is room. -/
theorem evictIfNeeded_of_le {fuel : ℕ} (h : c.len ≤ c.maxSize) :
    evictIfNeeded (fuel + 1) c = some c := by
  rw [evictIfNeeded, if_neg (Nat.not_lt_of_ge h)]

/-- One round is made when there is one entry too many: it removes the last one. -/
theorem Holds.evictIfNeeded (h : c.Holds (l ++ [(key, entry)]))
    (hfull : l.length = c.maxSize) {fuel : ℕ} :
    ∃ c', FastestIpCache.evictIfNeeded (fuel + 2) c = some c' ∧ c'.Holds l ∧
      c'.maxSize = c.maxSize := by
  have hlt : c.maxSize < c.len := by rw [h.len_eq, List.length_append, ← hfull]; exact Nat.lt_succ_self _
  have htail : c.tail = some key := by rw [h.threads.tail_eq, last_append]; rfl
  obtain ⟨-, hc', hsize⟩ := h.remove key
  rw [Lru.forget_split h.threads.nodup, List.append_nil] at hc'
  refine ⟨(c.remove key).2, ?_, hc', hsize⟩
  rw [FastestIpCache.evictIfNeeded, if_pos hlt, htail]
  exact evictIfNeeded_of_le (by rw [hc'.len_eq, hsize, hfull])

/-- **Writing**. -/
theorem Holds.upsert (h : c.Holds l) (hmax : 0 < c.maxSize)
    (hle : l.length ≤ c.maxSize) (key : IpAddr)
    (entry : FastIpCacheEntry) :
    ∃ c', c.upsert key entry = some c' ∧ c'.Holds (Lru.upsert c.maxSize key entry l) ∧
      c'.maxSize = c.maxSize := by
  have hentry := h.entry_eq key
  unfold FastestIpCache.upsert Lru.upsert
  cases hn : c.entries.lookup key with
  | some n =>
    rw [node, hn, Option.map_some] at hentry
    obtain ⟨before, after, rfl, -⟩ := h.split hn
    rw [if_pos (by rw [← hentry]; rfl), Lru.forget_split h.threads.nodup]
    refine ⟨_, rfl, ?_⟩
    have hset : (c.modifyNode key fun node => { node with entry := entry }).Holds
        (before ++ (key, entry) :: after) := by
      refine ⟨?_, fun x => ?_⟩
      · rw [modifyNode_node, modifyNode_head, modifyNode_tail]
        exact h.threads.setEntry entry
      · rw [modifyNode_node, modifyAt_isSome, h.covers]
        simp [keys]
    simpa using hset.moveToFront
  | none =>
    rw [node, hn, Option.map_none] at hentry
    rw [if_neg (by rw [← hentry]; simp)]
    have hfresh := Lru.lookup_eq_none.mp hentry.symm
    dsimp only
    -- the new node is in front of the others
    generalize hc₁ : linkHead { c with entries := c.entries.insert key ⟨entry, none, c.head⟩ } key =
      c₁
    have hput : c₁.Holds ((key, entry) :: l) := by
      rw [← hc₁]
      have hne : ∀ x ∈ keys l, x ≠ key := by
        rintro x hx rfl
        exact hfresh hx
      refine holds_linkHead (h.threads.congr fun x hx => node_insert (hne x hx)) hfresh
        (Finmap.lookup_insert _) ?_
      intro x
      rw [node_isSome, Finmap.mem_insert, ← node_isSome, h.covers]
    have hsize : c₁.maxSize = c.maxSize := by rw [← hc₁, linkHead_maxSize]
    by_cases hroom : l.length < c.maxSize
    · rw [if_pos hroom]
      exact ⟨c₁, evictIfNeeded_of_le (by rwa [hput.len_eq, hsize]), hput, hsize⟩
    · rw [if_neg hroom]
      have hfull : l.length = c.maxSize := Nat.le_antisymm hle (Nat.le_of_not_lt hroom)
      rcases List.eq_nil_or_concat l with rfl | ⟨l, ⟨k, e⟩, rfl⟩
      · rw [← hfull] at hmax
        exact absurd hmax (Nat.lt_irrefl 0)
      · rw [List.concat_eq_append, List.length_append] at hfull
        rw [List.concat_eq_append, ← List.cons_append] at hput
        rw [List.concat_eq_append, List.dropLast_concat, hput.len_eq, List.length_append, ← hsize]
        exact hput.evictIfNeeded (by rw [hsize, ← hfull]; rfl)

/-! ### Any calls -/

/-- The cache is a representation of the reference list. -/
structure Represents (c : FastestIpCache) (l : List (IpAddr × FastIpCacheEntry)) : Prop where
  /-- No address is twice in the list. -/
  nodup : (keys l).Nodup
  /-- The entries of the map are those of the list. -/
  entries : ∀ key, (c.node key).map Link.entry = l.lookup key
  /-- Following `next` from the head visits the addresses in the order of the list, and ends. -/
  forth : ∀ fuel, l.length ≤ fuel → follow c.node fuel c.head = keys l
  /-- `prev` is the inverse of `next`. -/
  back : ∀ x y, (c.node x).bind Link.next = some y ↔ (c.node y).bind Link.prev = some x
  /-- The tail is the last address. -/
  tail : c.tail = (keys l).getLast?

theorem Holds.represents (h : c.Holds l) : c.Represents l where
  nodup := h.threads.nodup
  entries := h.entry_eq
  forth _ hle := h.threads.follow hle
  back x y := h.threads.next_iff_prev (h.covers x).mp (h.covers y).mp
  tail := by rw [h.threads.tail_eq, last_eq_getLast?]

/-- What holds between calls. -/
structure Inv (max : ℕ) (c : FastestIpCache) (l : List (IpAddr × FastIpCacheEntry)) : Prop where
  /-- The nodes hold the reference list. -/
  holds : c.Holds l
  /-- The bound does not change. -/
  bound : c.maxSize = max
  /-- There is room for an entry. -/
  pos : 0 < max
  /-- The list is in the bound. -/
  len_le : l.length ≤ max

theorem inv_withMaxSize (maxSize : ℕ) : Inv (max maxSize 1) (withMaxSize maxSize) [] :=
  ⟨holds_withMaxSize maxSize, rfl, by simp, by simp⟩

/-- **One call** keeps the invariant and replies as the reference does. -/
theorem Inv.call {max : ℕ} (h : Inv max c l) (op : Call) :
    ∃ c', c.call op = some ((refCall max l op).1, c') ∧ Inv max c' (refCall max l op).2 := by
  have hnd := h.holds.threads.nodup
  cases op with
  | get key nowMs =>
    obtain ⟨hreply, hc', hsize⟩ := h.holds.get key nowMs
    refine ⟨(c.get key nowMs).2, congrArg some (Prod.ext hreply rfl), hc',
      hsize.trans h.bound, h.pos, ?_⟩
    exact (Lru.length_get_le hnd).trans h.len_le
  | upsert key entry =>
    obtain ⟨c', hcall, hc', hsize⟩ := h.holds.upsert (h.bound ▸ h.pos)
      (h.bound ▸ h.len_le) key entry
    rw [h.bound] at hc' hsize
    refine ⟨c', ?_, hc', hsize, h.pos, Lru.length_upsert_le h.pos h.len_le hnd⟩
    rw [FastestIpCache.call, hcall]
    rfl
  | remove key =>
    obtain ⟨hreply, hc', hsize⟩ := h.holds.remove key
    refine ⟨(c.remove key).2, congrArg some (Prod.ext hreply rfl), hc',
      hsize.trans h.bound, h.pos, ?_⟩
    exact (List.length_filter_le _ l).trans h.len_le

/-- **Any calls**, by induction on them. -/
theorem Inv.run {max : ℕ} (ops : List Call) : ∀ {c l}, Inv max c l →
    ∃ c', c.run ops = some ((refRun max l ops).1, c') ∧ Inv max c' (refRun max l ops).2 := by
  induction ops with
  | nil => exact fun {c _} h => ⟨c, rfl, h⟩
  | cons op ops ih =>
    intro c l h
    obtain ⟨c₁, hcall, h₁⟩ := h.call op
    obtain ⟨c₂, hrun, h₂⟩ := ih h₁
    refine ⟨c₂, ?_, h₂⟩
    rw [FastestIpCache.run, hcall]
    dsimp only
    rw [hrun]
    rfl

/-- Which address an insertion takes out: the last one of the list, and only of a full cache. -/
theorem Inv.evicts {max : ℕ} (h : Inv max c l) {c' : FastestIpCache}
    (hcall : c.upsert key entry = some c')
    {x : IpAddr} (hx : x ∈ c.entries) :
    x ∉ c'.entries ↔ key ∉ c.entries ∧ c.len = max ∧ (keys l).getLast? = some x := by
  obtain ⟨_, hc', hholds, -⟩ := h.holds.upsert (h.bound ▸ h.pos) (h.bound ▸ h.len_le) key entry
  obtain rfl := Option.some.inj (hcall.symm.trans hc')
  have hmem : ∀ {c : FastestIpCache} {l}, c.Holds l → ∀ y, y ∈ c.entries ↔ y ∈ keys l :=
    fun hc y => node_isSome.symm.trans (hc.covers y)
  rw [hmem hholds, hmem h.holds, h.holds.len_eq, h.bound]
  exact Lru.not_mem_upsert_iff h.holds.threads.nodup h.len_le ((hmem h.holds x).mp hx)

/-- **The cache is a list that forgets the least recently used entry.** Whatever calls are made of a
new cache, every one of them returns what it returns of the reference list, and after them the
nodes represent that list, of no more than `max maxSize 1` entries. Of the addresses in the cache,
the next insertion takes out just the last one, and that if the cache is full. -/
theorem run_refines (maxSize : ℕ) (ops : List Call) :
    ∃ c, (withMaxSize maxSize).run ops = some ((refRun (max maxSize 1) [] ops).1, c) ∧
      c.Represents (refRun (max maxSize 1) [] ops).2 ∧
      c.len = (refRun (max maxSize 1) [] ops).2.length ∧ c.len ≤ max maxSize 1 ∧
      ∀ key entry c', c.upsert key entry = some c' → ∀ x ∈ c.entries,
        (x ∉ c'.entries ↔ key ∉ c.entries ∧ c.len = max maxSize 1 ∧
          (keys (refRun (max maxSize 1) [] ops).2).getLast? = some x) := by
  obtain ⟨c, hrun, h⟩ := (inv_withMaxSize maxSize).run ops
  refine ⟨c, hrun, h.holds.represents, h.holds.len_eq, h.holds.len_eq ▸ h.len_le, ?_⟩
  intro key entry c' hcall x hx
  exact h.evicts hcall hx

/-- The second address was used before the first one, so it makes room for the third. -/
example :
    let a := fun i => IpAddr.v4 (Vector.replicate 4 i)
    let e := ⟨.success, 10, 5000⟩
    ((withMaxSize 2).run [.upsert (a 1) e, .upsert (a 2) e, .get (a 1) 0, .upsert (a 3) e]).map
      (fun r => follow r.2.node 5 r.2.head) = some [a 3, a 1] := by
  decide +kernel

end FastestIpCache

end DohProxy.Cache
