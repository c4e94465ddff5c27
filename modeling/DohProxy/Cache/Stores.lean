import DohProxy.Cache.FastestIp
import DohProxy.Lib.Runs
import DohProxy.Lib.Saturating
import Mathlib.Order.Bounds.Basic

/-!
# What pings store about an address

Pings to two ports of an address, of many queries at once, end in any order, and each stores what it
has found out: `store_fastest_success` and `store_fastest_failure` of `fastest_addr.rs`. Each holds
the lock of the cache from its lookup to its write, so the accesses to the cache come one after
the other.

## What is proved

`Access.update` is what an access makes of the entry of its address, whatever else is in the cache:
`lookup_refAccess_self`. `stores_settle` — **an address that is reached at all is known by its
smallest latency**, in whatever order the pings end.
-/

namespace DohProxy.Cache

open Lib Lib.Chain System Net

/-- `FASTEST_ADDR_CACHE_TTL_SECS`. -/
abbrev fastestAddrCacheTtlSecs : UInt64 := 10 * 60

/-- When something that is found out now expires. -/
def expireAtMs (now : UInt64) : UInt64 := saturatingAdd now (saturatingMul fastestAddrCacheTtlSecs 1000)

/-- An access to the cache, with the time that the clock showed before it. -/
inductive Access where
  /-- `load_fastest_cache(ip)`. -/
  | load (ip : IpAddr) (now : UInt64)
  /-- `store_fastest_success(ip, latency_ms)`. -/
  | success (ip : IpAddr) (latencyMs : UInt32) (now : UInt64)
  /-- `store_fastest_failure(ip)`. -/
  | failure (ip : IpAddr) (now : UInt64)
  deriving DecidableEq

/-- The address. -/
def Access.ip : Access → IpAddr
  | .load ip _ | .success ip _ _ | .failure ip _ => ip

/-- The time. -/
def Access.now : Access → UInt64
  | .load _ now | .success _ _ now | .failure _ now => now

namespace FastestIpCache

/-- `store_fastest_failure`. -/
def storeFastestFailure (c : FastestIpCache) (ip : IpAddr) (now : UInt64) :
    Option FastestIpCache :=
  let (existing, c) := c.get ip now
  if existing.isSome then some c else c.upsert ip ⟨.failure, 0, expireAtMs now⟩

/-- `store_fastest_success`. -/
def storeFastestSuccess (c : FastestIpCache) (ip : IpAddr) (latencyMs : UInt32) (now : UInt64) :
    Option FastestIpCache :=
  let (existing, c) := c.get ip now
  let shouldReplace : Bool := match existing with
    | none => true
    | some existing => existing.status = .failure ∨ latencyMs < existing.latencyMs
  if shouldReplace = true then c.upsert ip ⟨.success, latencyMs, expireAtMs now⟩ else some c

/-- The cache after an access. -/
def access (c : FastestIpCache) : Access → Option FastestIpCache
  | .load ip now => some (c.get ip now).2
  | .success ip latencyMs now => c.storeFastestSuccess ip latencyMs now
  | .failure ip now => c.storeFastestFailure ip now

end FastestIpCache

/-- Accesses to a cache, one after the other. -/
def accessing (c : FastestIpCache) : System FastestIpCache Access := ⟨c, FastestIpCache.access⟩

/-! ### What an access does to an entry -/

/-- What an access writes, when it finds an entry that has not expired, or none. -/
def Access.write (existing : Option FastIpCacheEntry) : Access → Option FastIpCacheEntry
  | .load _ _ => none
  | .success _ latencyMs now =>
    match existing with
    | none => some ⟨.success, latencyMs, expireAtMs now⟩
    | some existing =>
      if existing.status = .failure ∨ latencyMs < existing.latencyMs then
        some ⟨.success, latencyMs, expireAtMs now⟩
      else none
  | .failure _ now =>
    match existing with
    | none => some ⟨.failure, 0, expireAtMs now⟩
    | some _ => none

/-- The entry of its address after an access. -/
def Access.update (a : Access) (old : Option FastIpCacheEntry) : Option FastIpCacheEntry :=
  let existing := old.filter fun entry => a.now < entry.expireAtMs
  (a.write existing).or existing

/-- The reference list after an access. -/
def refAccess (max : ℕ) (l : List (IpAddr × FastIpCacheEntry)) (a : Access) :
    List (IpAddr × FastIpCacheEntry) :=
  let found := Lru.get (FastestIpCache.Dead a.now) a.ip l
  match a.write found.1 with
  | none => found.2
  | some entry => Lru.upsert max a.ip entry found.2

variable {max : ℕ} {c c' : FastestIpCache} {l : List (IpAddr × FastIpCacheEntry)} {a : Access}
  {ip : IpAddr}

/-- Every access is a lookup, and then it may write. -/
theorem access_eq (c : FastestIpCache) (a : Access) :
    c.access a = match a.write (c.get a.ip a.now).1 with
      | none => some (c.get a.ip a.now).2
      | some entry => (c.get a.ip a.now).2.upsert a.ip entry := by
  cases a with
  | load ip now => rfl
  | success ip latencyMs now =>
    simp only [FastestIpCache.access, FastestIpCache.storeFastestSuccess, Access.write, Access.ip,
      Access.now]
    cases (c.get ip now).1 with
    | none => rfl
    | some existing =>
      by_cases h : existing.status = .failure ∨ latencyMs < existing.latencyMs
      · simp only [if_pos h, decide_eq_true h, if_true]
      · simp only [if_neg h, decide_eq_false h, Bool.false_eq_true, if_false]
  | failure ip now =>
    simp only [FastestIpCache.access, FastestIpCache.storeFastestFailure, Access.write, Access.ip,
      Access.now]
    cases (c.get ip now).1 <;> rfl

/-- **An access** keeps the invariant of the cache. -/
theorem Inv.access (h : FastestIpCache.Inv max c l) (a : Access) :
    ∃ c', c.access a = some c' ∧ FastestIpCache.Inv max c' (refAccess max l a) := by
  obtain ⟨c₁, hget, h₁⟩ := h.call (.get a.ip a.now)
  simp only [FastestIpCache.call, FastestIpCache.refCall, Option.some.injEq] at hget
  rw [access_eq, hget, refAccess]
  dsimp only
  cases hw : a.write (Lru.get (FastestIpCache.Dead a.now) a.ip l).1 with
  | none => exact ⟨c₁, rfl, h₁⟩
  | some entry =>
    obtain ⟨c₂, hupsert, h₂⟩ := h₁.call (.upsert a.ip entry)
    obtain ⟨c₂, hc₂, heq⟩ := Option.map_eq_some_iff.mp hupsert
    obtain rfl := (Prod.mk.inj heq).2
    exact ⟨c₂, hc₂, h₂⟩

theorem get_eq_filter (now : UInt64) (ip : IpAddr) (l : List (IpAddr × FastIpCacheEntry)) :
    (Lru.get (FastestIpCache.Dead now) ip l).1 =
      (l.lookup ip).filter fun entry => now < entry.expireAtMs := by
  unfold Lru.get
  cases l.lookup ip with
  | none => rfl
  | some entry =>
    by_cases h : entry.expireAtMs ≤ now
    · simp [FastestIpCache.Dead, h, Option.filter_some, UInt64.not_lt.mpr h]
    · simp [FastestIpCache.Dead, h, Option.filter_some, UInt64.not_le.mp h]

/-- What an access makes of the entry of its address. -/
theorem lookup_refAccess_self (max : ℕ) (l : List (IpAddr × FastIpCacheEntry)) (a : Access) :
    (refAccess max l a).lookup a.ip = a.update (l.lookup a.ip) := by
  rw [refAccess, Access.update, ← get_eq_filter]
  split
  · next h => rw [h, Option.none_or, Lru.lookup_get_self]
  · next entry h => rw [h, Option.some_or, Lru.lookup_upsert_self]

/-- An access changes no other entry, but may make room by it. -/
theorem lookup_refAccess (max : ℕ) (l : List (IpAddr × FastIpCacheEntry)) (h : ip ≠ a.ip) :
    (refAccess max l a).lookup ip = l.lookup ip ∨ (refAccess max l a).lookup ip = none := by
  rw [refAccess]
  split
  · exact .inl (Lru.lookup_get h)
  · exact (Lru.lookup_upsert h).imp_left fun heq => heq.trans (Lru.lookup_get h)

/-! ### What the reports about an address come to -/

/-- What an access reports about an address: the latency of a connection, or that there is none. -/
def Access.report (ip : IpAddr) : Access → Option (Option UInt32)
  | .load _ _ => none
  | .success ip' latencyMs _ => if ip' = ip then some (some latencyMs) else none
  | .failure ip' _ => if ip' = ip then some none else none

/-- The reports about an address. -/
def reports (ip : IpAddr) (as : List Access) : List (Option UInt32) :=
  as.filterMap (Access.report ip)

/-- An entry is what some reports come to, in whatever order. -/
structure Settled (reports : List (Option UInt32)) (entry : FastIpCacheEntry) : Prop where
  /-- The address has been reached, and this is the smallest latency. -/
  reached : (∃ latencyMs, some latencyMs ∈ reports) →
    entry.status = .success ∧ IsLeast {latencyMs | some latencyMs ∈ reports} entry.latencyMs
  /-- It has not. -/
  unreached : (∀ latencyMs, some latencyMs ∉ reports) → entry.status = .failure ∧ entry.latencyMs = 0

/-- The entry of an address. -/
def FastestIpCache.entry (c : FastestIpCache) (ip : IpAddr) : Option FastIpCacheEntry :=
  (c.node ip).map Link.entry

/-- The accesses for an address come at `start` or later, and before something that is found out at
`start` expires. The others do not make room by its entry. -/
def Within (ip : IpAddr) (start : UInt64) (c : FastestIpCache) (a : Access) : Prop :=
  (a.ip = ip → start ≤ a.now ∧ a.now < expireAtMs start) ∧
    (a.ip ≠ ip → ip ∈ c.entries → ∀ c', c.access a = some c' → ip ∈ c'.entries)

/-- Pings of an address store what they find out. -/
structure Stores (ip : IpAddr) (start : UInt64) (c₀ : FastestIpCache) (as : List Access)
    (c : FastestIpCache) : Prop where
  /-- The cache is one that calls lead to. -/
  reachable : ∃ maxSize ops replies, (FastestIpCache.withMaxSize maxSize).run ops =
    some (replies, c₀)
  /-- What it has about the address has expired. -/
  expired : ∀ entry, c₀.entry ip = some entry → entry.expireAtMs ≤ start
  /-- The accesses, of these and other pings. -/
  run : Run (accessing c₀) (Within ip start) as c
  /-- There is a report. -/
  reported : reports ip as ≠ []

/-- What is known of an address after some reports. -/
def KnownBy (start : UInt64) (reports : List (Option UInt32)) (known : Option FastIpCacheEntry) :
    Prop :=
  if reports = [] then ∀ entry, known = some entry → entry.expireAtMs ≤ start
  else ∃ entry, known = some entry ∧ expireAtMs start ≤ entry.expireAtMs ∧ Settled reports entry

variable {start : UInt64} {as : List Access} {rs : List (Option UInt32)}
  {known : Option FastIpCacheEntry} {entry : FastIpCacheEntry}

theorem report_success (ip : IpAddr) (latencyMs : UInt32) (now : UInt64) :
    (Access.success ip latencyMs now).report (Access.success ip latencyMs now).ip =
      some (some latencyMs) :=
  if_pos rfl

theorem report_failure (ip : IpAddr) (now : UInt64) :
    (Access.failure ip now).report (Access.failure ip now).ip = some none :=
  if_pos rfl

theorem expireAtMs_mono {now now' : UInt64} (h : now ≤ now') : expireAtMs now ≤ expireAtMs now' := by
  rw [UInt64.le_iff_toNat_le] at *
  simp only [expireAtMs, toNat_saturatingAdd]
  omega

/-- What is written expires no earlier than something that is found out before. -/
theorem expireAtMs_le_of_write {existing : Option FastIpCacheEntry}
    (h : a.write existing = some entry) (hstart : start ≤ a.now) :
    expireAtMs start ≤ entry.expireAtMs := by
  have hexpire : entry.expireAtMs = expireAtMs a.now := by
    cases a with
    | load ip now => cases h
    | success ip latencyMs now =>
      cases existing with
      | none =>
        obtain rfl := Option.some.inj h
        simp only [Access.now]
      | some existing =>
        simp only [Access.write] at h
        split at h
        · obtain rfl := Option.some.inj h
          simp only [Access.now]
        · cases h
    | failure ip now =>
      cases existing with
      | none =>
        obtain rfl := Option.some.inj h
        simp only [Access.now]
      | some existing => cases h
  rw [hexpire]
  exact expireAtMs_mono hstart

theorem Settled.mem_of_success (h : Settled rs entry) (hs : entry.status = .success) :
    ∃ latencyMs, some latencyMs ∈ rs := by
  by_contra hno
  have hfail := (h.unreached (not_exists.mp hno)).1
  rw [hs] at hfail
  cases hfail

/-- A failure adds nothing to what is settled. -/
theorem Settled.failure (h : Settled rs entry) : Settled (rs ++ [none]) entry := by
  constructor
  · simpa using h.reached
  · simpa using h.unreached

/-- A success adds its latency. -/
theorem Settled.success (h : Settled rs entry) (latencyMs : UInt32) (now : UInt64) :
    Settled (rs ++ [some latencyMs])
      (if entry.status = .failure ∨ latencyMs < entry.latencyMs then
        ⟨.success, latencyMs, expireAtMs now⟩ else entry) := by
  refine ⟨fun _ => ?_, fun hno => absurd (by simp) (hno latencyMs)⟩
  have hcases : ∀ {other : UInt32}, some other ∈ rs ++ [some latencyMs] →
      some other ∈ rs ∨ other = latencyMs := by
    intro other hother
    simpa using hother
  by_cases hreached : ∃ latencyMs, some latencyMs ∈ rs
  · obtain ⟨hs, hmem, hle⟩ := h.reached hreached
    split
    · next hlt =>
      have hlt : latencyMs < entry.latencyMs := hlt.resolve_left (by rw [hs]; decide)
      refine ⟨rfl, by simp, fun other hother => ?_⟩
      rcases hcases hother with hother | rfl
      · exact UInt32.le_trans (UInt32.le_of_lt hlt) (hle hother)
      · exact UInt32.le_refl _
    · next hge =>
      refine ⟨hs, List.mem_append_left _ hmem, fun other hother => ?_⟩
      rcases hcases hother with hother | rfl
      · exact hle hother
      · exact UInt32.not_lt.mp (not_or.mp hge).2
  · rw [if_pos (.inl (h.unreached (not_exists.mp hreached)).1)]
    refine ⟨rfl, by simp, fun other hother => ?_⟩
    rcases hcases hother with hother | rfl
    · exact absurd ⟨other, hother⟩ hreached
    · exact UInt32.le_refl _

theorem settled_failure (expireAtMs : UInt64) : Settled [none] ⟨.failure, 0, expireAtMs⟩ :=
  ⟨by simp, fun _ => ⟨rfl, rfl⟩⟩

theorem settled_success (latencyMs : UInt32) (expireAtMs : UInt64) :
    Settled [some latencyMs] ⟨.success, latencyMs, expireAtMs⟩ := by
  refine ⟨fun _ => ⟨rfl, List.mem_singleton_self _, fun other hother => ?_⟩,
    fun hno => absurd (List.mem_singleton_self _) (hno latencyMs)⟩
  obtain rfl := Option.some.inj (List.mem_singleton.mp hother)
  exact UInt32.le_refl _

/-- **An access for the address** adds its report to what is known. -/
theorem KnownBy.update (h : KnownBy start rs known) (hstart : start ≤ a.now)
    (hend : a.now < expireAtMs start) :
    KnownBy start (rs ++ (a.report a.ip).toList) (a.update known) := by
  by_cases hrs : rs = []
  · -- what there is has expired, so that the first report is written
    subst hrs
    rw [KnownBy, if_pos rfl] at h
    have hexisting : (known.filter fun entry => a.now < entry.expireAtMs) = none := by
      rw [Option.filter_eq_none_iff]
      intro entry hentry
      simpa using UInt64.le_trans (h entry hentry) hstart
    rw [Access.update, hexisting, Option.or_none, List.nil_append]
    cases a with
    | load ip now => simp [KnownBy, Access.report, Access.write]
    | success ip latencyMs now =>
      have hwrite : (Access.success ip latencyMs now).write none =
        some ⟨.success, latencyMs, expireAtMs now⟩ := rfl
      rw [report_success, Option.toList_some, KnownBy, if_neg (List.cons_ne_nil _ _)]
      exact ⟨_, hwrite, expireAtMs_le_of_write hwrite hstart, settled_success latencyMs _⟩
    | failure ip now =>
      have hwrite : (Access.failure ip now).write none =
        some ⟨.failure, 0, expireAtMs now⟩ := rfl
      rw [report_failure, Option.toList_some, KnownBy, if_neg (List.cons_ne_nil _ _)]
      exact ⟨_, hwrite, expireAtMs_le_of_write hwrite hstart, settled_failure _⟩
  · rw [KnownBy, if_neg hrs] at h
    obtain ⟨entry, rfl, hexpire, hsettled⟩ := h
    have hexisting : ((some entry).filter fun entry => a.now < entry.expireAtMs) = some entry := by
      rw [Option.filter_some, if_pos (by simpa using UInt64.lt_of_lt_of_le hend hexpire)]
    rw [Access.update, hexisting, KnownBy, if_neg (by simp [hrs])]
    cases a with
    | load ip now => exact ⟨entry, rfl, hexpire, by simpa [Access.report] using hsettled⟩
    | success ip latencyMs now =>
      have hnew := hsettled.success latencyMs now
      rw [report_success, Option.toList_some]
      by_cases hlt : entry.status = .failure ∨ latencyMs < entry.latencyMs
      · have hwrite : (Access.success ip latencyMs now).write (some entry) =
          some ⟨.success, latencyMs, expireAtMs now⟩ := if_pos hlt
        rw [if_pos hlt] at hnew
        rw [hwrite, Option.some_or]
        exact ⟨_, rfl, expireAtMs_le_of_write hwrite hstart, hnew⟩
      · have hwrite : (Access.success ip latencyMs now).write (some entry) = none := if_neg hlt
        rw [if_neg hlt] at hnew
        rw [hwrite, Option.none_or]
        exact ⟨entry, rfl, hexpire, hnew⟩
    | failure ip now =>
      rw [report_failure, Option.toList_some]
      exact ⟨entry, rfl, hexpire, hsettled.failure⟩

/-! ### Any accesses -/

variable {c₀ : FastestIpCache}

theorem mem_entries_iff (ip : IpAddr) (c : FastestIpCache) :
    ip ∈ c.entries ↔ (c.entry ip).isSome := by
  rw [FastestIpCache.entry, Option.isSome_map, FastestIpCache.node_isSome]

theorem entry_eq_lookup (h : FastestIpCache.Inv max c l) (ip : IpAddr) :
    c.entry ip = l.lookup ip :=
  h.holds.entry_eq ip

/-- A lookup returns what there is, unless it has expired. -/
theorem get_eq (h : FastestIpCache.Inv max c l) (ip : IpAddr) (now : UInt64) :
    (c.get ip now).1 = (c.entry ip).filter fun entry => now < entry.expireAtMs := by
  obtain ⟨_, hget, -⟩ := h.call (.get ip now)
  simp only [FastestIpCache.call, FastestIpCache.refCall, Option.some.injEq] at hget
  rw [hget, entry_eq_lookup h]
  exact get_eq_filter now ip l

/-- An access in a cache that calls lead to: it updates the entry of its address, and leaves the
others alone but for the one it may make room by. -/
theorem access_spec (h : FastestIpCache.Inv max c l) (hs : c.access a = some c') :
    (∃ l', FastestIpCache.Inv max c' l') ∧ c'.entry a.ip = a.update (c.entry a.ip) ∧
      ∀ ip, ip ≠ a.ip → c'.entry ip = c.entry ip ∨ c'.entry ip = none := by
  obtain ⟨_, hc', h'⟩ := Inv.access h a
  obtain rfl := Option.some.inj (hs.symm.trans hc')
  refine ⟨⟨_, h'⟩, ?_, fun ip hne => ?_⟩
  · rw [entry_eq_lookup h', entry_eq_lookup h, lookup_refAccess_self]
  · rw [entry_eq_lookup h', entry_eq_lookup h]
    exact lookup_refAccess max l hne

/-- A cache that calls lead to keeps the invariant. -/
theorem Reachable.inv {maxSize : ℕ} {ops : List FastestIpCache.Call}
    {replies : List (Option FastIpCacheEntry)}
    (h : (FastestIpCache.withMaxSize maxSize).run ops = some (replies, c)) :
    ∃ max l, FastestIpCache.Inv max c l := by
  obtain ⟨c', hrun, hinv⟩ := (FastestIpCache.inv_withMaxSize maxSize).run ops
  obtain rfl := (Prod.mk.inj (Option.some.inj (h.symm.trans hrun))).2
  exact ⟨_, _, hinv⟩

/-- **What is known of the address** after any accesses. -/
theorem Stores.knownBy (h : Stores ip start c₀ as c) {as' : List Access} {c' : FastestIpCache}
    (hrun : Run (accessing c₀) (Within ip start) as' c') :
    KnownBy start (reports ip as') (c'.entry ip) := by
  obtain ⟨maxSize, ops, replies, hc₀⟩ := h.reachable
  obtain ⟨max, l₀, hinv₀⟩ := Reachable.inv hc₀
  refine (hrun.invariant (I := fun as c => (∃ l, FastestIpCache.Inv max c l) ∧
    KnownBy start (reports ip as) (c.entry ip)) ⟨⟨l₀, hinv₀⟩, ?_⟩ ?_).2
  · rw [KnownBy, if_pos (by rfl)]
    exact h.expired
  · rintro as c a c' ⟨⟨l, hinv⟩, hknown⟩ ⟨hself, hother⟩ hs
    obtain ⟨hinv', hupdate, hkeep⟩ := access_spec hinv hs
    refine ⟨hinv', ?_⟩
    have hreports : reports ip (as ++ [a]) = reports ip as ++ (a.report ip).toList := by
      rw [reports, List.filterMap_append]
      cases hr : a.report ip <;> simp [reports, hr]
    rw [hreports]
    by_cases hip : a.ip = ip
    · subst hip
      rw [hupdate]
      exact hknown.update (hself rfl).1 (hself rfl).2
    · -- an access for another address, which does not make room by this one's entry
      have hreport : a.report ip = none := by
        cases a with
        | load ip' now => rfl
        | success ip' latencyMs now => exact if_neg hip
        | failure ip' now => exact if_neg hip
      have hsame : c'.entry ip = c.entry ip := by
        rcases hkeep ip (Ne.symm hip) with heq | hnone
        · exact heq
        · rw [hnone]
          by_contra hne
          have hmem := (mem_entries_iff ip c).mpr (Option.isSome_iff_ne_none.mpr (Ne.symm hne))
          have hmem' := (mem_entries_iff ip c').mp (hother hip hmem c' hs)
          rw [hnone] at hmem'
          cases hmem'
      rw [hreport, Option.toList_none, List.append_nil, hsame]
      exact hknown

theorem Stores.settled (h : Stores ip start c₀ as c) :
    ∃ entry, c.entry ip = some entry ∧ Settled (reports ip as) entry := by
  have hknown := h.knownBy h.run
  rw [KnownBy, if_neg h.reported] at hknown
  obtain ⟨entry, hentry, -, hsettled⟩ := hknown
  exact ⟨entry, hentry, hsettled⟩

/-- **What pings of an address store comes to the smallest latency** if any of them has reached it,
and to a failure else; a success that has not expired stays one, and its latency does not
grow. Neither the order of the pings nor anything else in the cache counts. -/
theorem stores_settle (h : Stores ip start c₀ as c) :
    (∃ entry, c.entry ip = some entry ∧ Settled (reports ip as) entry) ∧
    (∀ before after c₁ entry₁, as = before ++ after →
      Run (accessing c₀) (Within ip start) before c₁ → c₁.entry ip = some entry₁ →
      start < entry₁.expireAtMs → entry₁.status = .success →
        ∃ entry, c.entry ip = some entry ∧ entry.status = .success ∧
          entry.latencyMs ≤ entry₁.latencyMs) ∧
    ∀ start' c₀' as' c', Stores ip start' c₀' as' c' → (reports ip as').Perm (reports ip as) →
      (c'.entry ip).map (fun entry => (entry.status, entry.latencyMs)) =
        (c.entry ip).map fun entry => (entry.status, entry.latencyMs) := by
  obtain ⟨entry, hentry, hsettled⟩ := h.settled
  refine ⟨⟨entry, hentry, hsettled⟩, ?_, ?_⟩
  · rintro before after c₁ entry₁ rfl hbefore hentry₁ hlive hs
    have hknown := h.knownBy hbefore
    rw [hentry₁] at hknown
    by_cases hnone : reports ip before = []
    · rw [KnownBy, if_pos hnone] at hknown
      exact absurd hlive (UInt64.not_lt.mpr (hknown entry₁ rfl))
    · rw [KnownBy, if_neg hnone] at hknown
      obtain ⟨_, heq, -, hsettled₁⟩ := hknown
      obtain rfl := Option.some.inj heq
      obtain ⟨latencyMs, hmem⟩ := hsettled₁.mem_of_success hs
      have hsub : ∀ r ∈ reports ip before, r ∈ reports ip (before ++ after) := by
        intro r hr
        rw [reports, List.filterMap_append]
        exact List.mem_append_left _ hr
      obtain ⟨hs', hleast⟩ := hsettled.reached ⟨latencyMs, hsub _ hmem⟩
      exact ⟨entry, hentry, hs', hleast.2 (hsub _ (hsettled₁.reached ⟨latencyMs, hmem⟩).2.1)⟩
  · intro start' c₀' as' c' h' hperm
    obtain ⟨entry', hentry', hsettled'⟩ := h'.settled
    rw [hentry, hentry', Option.map_some, Option.map_some, Option.some.injEq, Prod.mk.injEq]
    by_cases hreached : ∃ latencyMs, some latencyMs ∈ reports ip as
    · obtain ⟨latencyMs, hmem⟩ := hreached
      obtain ⟨hs, hleast⟩ := hsettled.reached ⟨latencyMs, hmem⟩
      obtain ⟨hs', hleast'⟩ := hsettled'.reached ⟨latencyMs, hperm.mem_iff.mpr hmem⟩
      exact ⟨hs'.trans hs.symm, UInt32.le_antisymm (hleast'.2 (hperm.mem_iff.mpr hleast.1))
        (hleast.2 (hperm.mem_iff.mp hleast'.1))⟩
    · have hno := not_exists.mp hreached
      obtain ⟨hs, hzero⟩ := hsettled.unreached hno
      obtain ⟨hs', hzero'⟩ := hsettled'.unreached fun latencyMs hmem =>
        hno latencyMs (hperm.mem_iff.mp hmem)
      exact ⟨hs'.trans hs.symm, hzero'.trans hzero.symm⟩

/-- Two pings of an address end with a failure and a success, and a third one is faster. -/
def pings (ip other : IpAddr) : List Access :=
  [.failure ip 1000, .success ip 30 1001, .success other 7 1002, .success ip 20 1003]

instance (ip : IpAddr) (start : UInt64) (c : FastestIpCache) (a : Access) :
    Decidable (Within ip start c a) :=
  inferInstanceAs (Decidable (_ ∧ (_ → _ → ∀ c', c.access a = some c' → ip ∈ c'.entries)))

theorem stores_settle_pings :
    let ip := IpAddr.v4 #v[192, 0, 2, 1]
    let other := IpAddr.v4 #v[192, 0, 2, 2]
    ∃ c, Stores ip 1000 (FastestIpCache.withMaxSize 2) (pings ip other) c ∧
      ∃ entry, c.entry ip = some entry ∧
        Settled [none, some 30, some 20] entry := by
  intro ip other
  have hsome : ((accessing (FastestIpCache.withMaxSize 2)).exec (Within ip 1000)
      (FastestIpCache.withMaxSize 2) (pings ip other)).isSome := by decide +kernel
  obtain ⟨c, hc⟩ := Option.isSome_iff_exists.mp hsome
  have hnone : (FastestIpCache.withMaxSize 2).entry ip = none := by decide
  have h : Stores ip 1000 (FastestIpCache.withMaxSize 2) (pings ip other) c :=
    ⟨⟨2, [], [], rfl⟩, by simp [hnone], run_of_exec hc, by decide⟩
  exact ⟨c, h, (stores_settle h).1⟩

end DohProxy.Cache
