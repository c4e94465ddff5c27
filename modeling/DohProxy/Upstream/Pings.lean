import DohProxy.Cache.Stores
import DohProxy.Upstream.FastestAddr

/-!
# Where a ping is kept

`ping_do_tcp` of `fastest_addr.rs` connects to an address and stores what it has found out. An IPv6
address that embeds an IPv4 address is stored under the latter, but `load_fastest_cache`, which
`ping_all` calls to find out whether to ping at all, looks an address up as it is.

## What is proved

`pinged_found_iff` — **what a ping has stored is found again, and is nobody else's, exactly for the
addresses that do not embed an IPv4 address.**
-/

namespace DohProxy.Upstream

open Lib System Net Cache

/-- `Ipv6Addr::to_ipv4`: the IPv4 address that is embedded in `::a.b.c.d` or `::ffff:a.b.c.d`. -/
def toIpv4 (addr : Ipv6Addr) : Option Ipv4Addr :=
  if (∀ i : Fin 10, addr[i] = 0) ∧ (addr[10] = 0 ∧ addr[11] = 0 ∨
    addr[10] = 0xff ∧ addr[11] = 0xff) then
    some #v[addr[12], addr[13], addr[14], addr[15]]
  else none

/-- The address that a ping is stored under: `cache_ip`. -/
def cacheIp : IpAddr → IpAddr
  | .v6 v6 => ((toIpv4 v6).map IpAddr.v4).getD (.v6 v6)
  | .v4 v4 => .v4 v4

/-- A ping, with what comes of it. -/
structure Ping where
  /-- The address. -/
  ip : IpAddr
  /-- The port. -/
  port : UInt16
  /-- Whether the connection is there before the timeout. -/
  connected : Bool
  /-- How many milliseconds have elapsed by then. -/
  elapsed : ℕ
  /-- When it is stored. -/
  now : UInt64

/-- `latency_ms`. -/
def Ping.latencyMs (ping : Ping) : UInt32 := UInt32.ofNat (min ping.elapsed (2 ^ 32 - 1))

/-- `ping_do_tcp`: what it returns, and the cache after it. -/
def pingDoTcp (c : FastestIpCache) (ping : Ping) : Option (PingResult × FastestIpCache) := do
  let c ← if ping.connected then c.storeFastestSuccess (cacheIp ping.ip) ping.latencyMs ping.now
    else c.storeFastestFailure (cacheIp ping.ip) ping.now
  return (⟨ping.ip, ping.latencyMs, ping.connected⟩, c)

/-- What uses the cache. -/
inductive CacheUse where
  /-- `load_fastest_cache(ip)`. -/
  | load (ip : IpAddr) (now : UInt64)
  /-- The end of a ping. -/
  | ping (ping : Ping)

/-- The cache after a use. -/
def useCache (c : FastestIpCache) : CacheUse → Option FastestIpCache
  | .load ip now => some (c.get ip now).2
  | .ping ping => (pingDoTcp c ping).map Prod.snd

/-- Loads, and pings that end in any order. -/
def pinging (c : FastestIpCache) : System FastestIpCache CacheUse := ⟨c, useCache⟩

/-- The access that a use comes to. -/
def CacheUse.access : CacheUse → Access
  | .load ip now => .load ip now
  | .ping p =>
    if p.connected then .success (cacheIp p.ip) p.latencyMs p.now
    else .failure (cacheIp p.ip) p.now

/-- The address is one of IPv6 that embeds one of IPv4. -/
def EmbedsIpv4 (ip : IpAddr) : Prop := ∃ v6 v4, ip = .v6 v6 ∧ toIpv4 v6 = some v4

/-- A use does not make room by the entry of an address, or find that it has expired. -/
def Spares (ip : IpAddr) (c : FastestIpCache) (use : CacheUse) : Prop :=
  ip ∈ c.entries → ∀ c', useCache c use = some c' → ip ∈ c'.entries

/-- After a ping of the address that has ended at `since`, it is found for as long as what the ping
has stored is there and has not expired. -/
def FoundAgain (ip : IpAddr) (since : UInt64) (c : FastestIpCache) : Prop :=
  ∀ uses c' now, Run (pinging c) (Spares (cacheIp ip)) uses c' → since ≤ now →
    (∀ entry, c'.entry (cacheIp ip) = some entry → now < entry.expireAtMs) →
    (c'.get ip now).1.isSome

/-- For any other address, a lookup finds what it has found before, or no longer does. -/
def OthersKept (ip : IpAddr) (c c' : FastestIpCache) : Prop :=
  ∀ other now entry, other ≠ ip → (c'.get other now).1 = some entry →
    (c.get other now).1 = some entry

/-! ### The uses as accesses -/

variable {c c' : FastestIpCache} {uses : List CacheUse} {use : CacheUse} {ip : IpAddr}

theorem useCache_eq (c : FastestIpCache) (use : CacheUse) : useCache c use = c.access use.access := by
  cases use with
  | load ip now => rfl
  | ping ping =>
    simp only [useCache, pingDoTcp, CacheUse.access]
    cases ping.connected with
    | true => simp [FastestIpCache.access, Option.map_bind]
    | false => simp [FastestIpCache.access, Option.map_bind]

theorem cacheIp_of_not_embedsIpv4 (h : ¬ EmbedsIpv4 ip) : cacheIp ip = ip := by
  cases ip with
  | v4 v4 => rfl
  | v6 v6 =>
    have hnone : toIpv4 v6 = none := Option.eq_none_iff_forall_ne_some.mpr fun v4 hv4 =>
      h ⟨v6, v4, rfl, hv4⟩
    rw [cacheIp, hnone, Option.map_none, Option.getD_none]

/-- What a ping is stored under does not embed an IPv4 address. -/
theorem not_embedsIpv4_cacheIp (ip : IpAddr) : ¬ EmbedsIpv4 (cacheIp ip) := by
  rintro ⟨v6, v4, heq, hv4⟩
  cases ip with
  | v4 _ => cases heq
  | v6 addr =>
    rw [cacheIp] at heq
    cases haddr : toIpv4 addr with
    | some _ => rw [haddr] at heq; cases heq
    | none =>
      rw [haddr] at heq
      obtain rfl := IpAddr.v6.inj heq
      rw [haddr] at hv4
      cases hv4

/-- What holds of the cache whatever uses it. -/
structure Pinged (c : FastestIpCache) : Prop where
  /-- It is a list of entries. -/
  inv : ∃ max l, FastestIpCache.Inv max c l
  /-- There is no entry for an address that embeds an IPv4 address. -/
  none_of_embeds : ∀ ip, EmbedsIpv4 ip → c.entry ip = none

theorem CacheUse.embedsIpv4_access (h : EmbedsIpv4 use.access.ip) : ∃ ip now, use = .load ip now := by
  cases use with
  | load ip now => exact ⟨ip, now, rfl⟩
  | ping p =>
    refine absurd h ?_
    rw [CacheUse.access]
    split <;> exact not_embedsIpv4_cacheIp p.ip

/-- **A use** keeps it. -/
theorem Pinged.useCache (h : Pinged c) (hs : Upstream.useCache c use = some c') :
    Pinged c' := by
  obtain ⟨max, l, hinv⟩ := h.inv
  rw [useCache_eq] at hs
  obtain ⟨hinv', hself, hother⟩ := access_spec hinv hs
  refine ⟨⟨max, hinv'⟩, fun ip hembeds => ?_⟩
  by_cases hip : ip = use.access.ip
  · -- only a load is for such an address, and it stores nothing
    subst hip
    obtain ⟨ip, now, rfl⟩ := CacheUse.embedsIpv4_access hembeds
    rw [hself, h.none_of_embeds _ hembeds]
    rfl
  · rcases hother ip hip with heq | hnone
    · rw [heq, h.none_of_embeds ip hembeds]
    · exact hnone

theorem pinged_withMaxSize (maxSize : ℕ) : Pinged (FastestIpCache.withMaxSize maxSize) :=
  ⟨⟨_, _, FastestIpCache.inv_withMaxSize maxSize⟩, fun _ _ => rfl⟩

theorem Pinged.run {cond : FastestIpCache → CacheUse → Prop} (h : Pinged c)
    (hrun : Run (pinging c) cond uses c') : Pinged c' :=
  hrun.stateInvariant h fun _ _ _ hp _ hs => hp.useCache hs

/-! ### After a ping -/

variable {ping : Ping} {result : PingResult}

/-- What a ping does to the cache. -/
theorem pingDoTcp_access (h : pingDoTcp c ping = some (result, c')) :
    c.access (CacheUse.ping ping).access = some c' := by
  rw [← useCache_eq, useCache, h, Option.map_some]

theorem Pinged.of_ping (h : Pinged c) (hs : pingDoTcp c ping = some (result, c')) :
    Pinged c' := by
  refine h.useCache (?_ : Upstream.useCache c (.ping ping) = some c')
  rw [Upstream.useCache, hs, Option.map_some]

theorem CacheUse.ip_access_ping (ping : Ping) : (CacheUse.ping ping).access.ip = cacheIp ping.ip := by
  rw [CacheUse.access]
  split <;> rfl

/-- A ping ends with something in the cache. -/
theorem isSome_entry_of_ping (h : Pinged c) (hs : pingDoTcp c ping = some (result, c')) :
    (c'.entry (cacheIp ping.ip)).isSome := by
  obtain ⟨max, l, hinv⟩ := h.inv
  obtain ⟨-, hself, -⟩ := access_spec hinv (pingDoTcp_access hs)
  rw [← CacheUse.ip_access_ping, hself, Access.update]
  cases hlive : (c.entry (CacheUse.ping ping).access.ip).filter fun entry =>
      (CacheUse.ping ping).access.now < entry.expireAtMs with
  | none =>
    rw [CacheUse.access]
    split <;> rfl
  | some entry =>
    rw [Option.isSome_or, Option.isSome_some, Bool.or_true]

/-- A ping ends. -/
theorem exists_pingDoTcp (h : Pinged c) (ping : Ping) :
    ∃ result c', pingDoTcp c ping = some (result, c') := by
  obtain ⟨max, l, hinv⟩ := h.inv
  obtain ⟨c', hc', -⟩ := Inv.access hinv (CacheUse.ping ping).access
  rw [← useCache_eq, useCache] at hc'
  obtain ⟨⟨result, c'⟩, h, -⟩ := Option.map_eq_some_iff.mp hc'
  exact ⟨result, c', h⟩

theorem Pinged.foundAgain (h : Pinged c) (hsome : (c.entry (cacheIp ip)).isSome)
    (hip : ¬ EmbedsIpv4 ip) (since : UInt64) : FoundAgain ip since c := by
  intro uses c' now hrun _ hlive
  rw [cacheIp_of_not_embedsIpv4 hip] at hsome hrun hlive
  have hkept : (c'.entry ip).isSome := by
    rw [← mem_entries_iff]
    exact hrun.stateInvariant (I := fun c => ip ∈ c.entries) ((mem_entries_iff ip c).mpr hsome)
      fun _ _ c' hmem hspares hs => hspares hmem c' hs
  obtain ⟨entry, hentry⟩ := Option.isSome_iff_exists.mp hkept
  obtain ⟨max, l, hinv⟩ := (h.run hrun).inv
  rw [get_eq hinv, hentry, Option.filter_some, if_pos (by simpa using hlive entry hentry)]
  rfl

theorem Pinged.othersKept (h : Pinged c) (hs : pingDoTcp c ping = some (result, c'))
    (hip : ¬ EmbedsIpv4 ping.ip) : OthersKept ping.ip c c' := by
  intro other now entry hother hentry
  obtain ⟨max, l, hinv⟩ := h.inv
  obtain ⟨⟨l', hinv'⟩, -, hkeep⟩ := access_spec hinv (pingDoTcp_access hs)
  rw [CacheUse.ip_access_ping, cacheIp_of_not_embedsIpv4 hip] at hkeep
  rw [get_eq hinv'] at hentry
  rw [get_eq hinv]
  rcases hkeep other hother with heq | hnone
  · rw [← heq, hentry]
  · rw [hnone] at hentry
    cases hentry

theorem expireAtMs_zero_lt (now : UInt64) : 0 < expireAtMs now :=
  UInt64.lt_of_lt_of_le (by decide : 0 < expireAtMs 0)
    (expireAtMs_mono (UInt64.le_iff_toNat_le.mpr (Nat.zero_le _)))

/-- What is there after a ping has not expired at time zero. -/
theorem expireAtMs_pos_of_ping (h : Pinged c) (hs : pingDoTcp c ping = some (result, c'))
    {entry : FastIpCacheEntry} (hentry : c'.entry (cacheIp ping.ip) = some entry) :
    0 < entry.expireAtMs := by
  obtain ⟨max, l, hinv⟩ := h.inv
  obtain ⟨-, hself, -⟩ := access_spec hinv (pingDoTcp_access hs)
  rw [← CacheUse.ip_access_ping, hself, Access.update, Option.or_eq_some_iff] at hentry
  rcases hentry with hwrite | ⟨-, hold⟩
  · exact UInt64.lt_of_lt_of_le (expireAtMs_zero_lt 0)
      (expireAtMs_le_of_write hwrite (UInt64.le_iff_toNat_le.mpr (Nat.zero_le _)))
  · have hlive := (Option.filter_eq_some_iff.mp hold).2
    exact UInt64.lt_of_le_of_lt (UInt64.le_iff_toNat_le.mpr (Nat.zero_le _))
      (of_decide_eq_true hlive)

/-- An address that embeds one of IPv4 is not found, whatever there is. -/
theorem Pinged.not_foundAgain (h : Pinged c) {now : UInt64}
    (hlive : ∀ entry, c.entry (cacheIp ip) = some entry → now < entry.expireAtMs)
    (hip : EmbedsIpv4 ip) : ¬ FoundAgain ip now c := by
  intro hfound
  obtain ⟨max, l, hinv⟩ := h.inv
  have hget := hfound [] c now .init (UInt64.le_refl _) hlive
  rw [get_eq hinv, h.none_of_embeds ip hip] at hget
  cases hget

/-- **A ping is found again, and only for its own address, exactly if that embeds no IPv4
address**: in any cache that loads and pings lead to, and whatever the ping finds out. -/
theorem pinged_found_iff {maxSize : ℕ}
    (h : Run (pinging (FastestIpCache.withMaxSize maxSize)) Always uses c) (ip : IpAddr)
    (port : UInt16) (connected : Bool) (elapsed : ℕ) :
    (∀ now, ∃ result c', pingDoTcp c ⟨ip, port, connected, elapsed, now⟩ = some (result, c') ∧
      FoundAgain ip now c' ∧ OthersKept ip c c') ↔ ¬ EmbedsIpv4 ip := by
  have hc := (pinged_withMaxSize maxSize).run h
  constructor
  · intro hall hip
    obtain ⟨result, c', hs, hfound, -⟩ := hall 0
    exact (hc.of_ping hs).not_foundAgain
      (fun entry hentry => expireAtMs_pos_of_ping hc hs hentry) hip hfound
  · intro hip now
    obtain ⟨result, c', hs⟩ := exists_pingDoTcp hc ⟨ip, port, connected, elapsed, now⟩
    exact ⟨result, c', hs,
      (hc.of_ping hs).foundAgain (isSome_entry_of_ping hc hs) hip now,
      hc.othersKept hs hip⟩

theorem pinged_found_iff_empty :
    ∃ result c', pingDoTcp (FastestIpCache.withMaxSize 2)
        ⟨.v4 #v[192, 0, 2, 1], 80, true, 12, 1000⟩ = some (result, c') ∧
      FoundAgain (.v4 #v[192, 0, 2, 1]) 1000 c' ∧
      OthersKept (.v4 #v[192, 0, 2, 1]) (FastestIpCache.withMaxSize 2) c' :=
  (pinged_found_iff (.init (T := pinging (FastestIpCache.withMaxSize 2))) _ 80 true 12).mpr
    (fun ⟨_, _, heq, _⟩ => IpAddr.noConfusion heq) 1000

/-- `::ffff:192.0.2.1`. -/
def mapped : IpAddr := .v6 #v[0, 0, 0, 0, 0, 0, 0, 0, 0, 0, 0xff, 0xff, 192, 0, 2, 1]

/-- **A ping is lost for its address, and found for another one**, the one that it embeds. -/
theorem mapped_ping_lost :
    ∃ result c', pingDoTcp (FastestIpCache.withMaxSize 2) ⟨mapped, 80, true, 12, 1000⟩ =
        some (result, c') ∧
      ¬ FoundAgain mapped 1000 c' ∧ ¬ OthersKept mapped (FastestIpCache.withMaxSize 2) c' := by
  obtain ⟨result, c', hs⟩ := exists_pingDoTcp (pinged_withMaxSize 2) ⟨mapped, 80, true, 12, 1000⟩
  have hbehind : (pingDoTcp (FastestIpCache.withMaxSize 2) ⟨mapped, 80, true, 12, 1000⟩).map
      (fun r => (r.2.entry (cacheIp mapped), (r.2.get mapped 1000).1,
        (r.2.get (cacheIp mapped) 1000).1)) =
      some (some ⟨.success, 12, 601000⟩, none, some ⟨.success, 12, 601000⟩) := by decide +kernel
  rw [hs, Option.map_some, Option.some.injEq, Prod.mk.injEq, Prod.mk.injEq] at hbehind
  obtain ⟨hentry, hself, hother⟩ := hbehind
  refine ⟨result, c', hs, fun hfound => ?_, fun hkept => ?_⟩
  · have hget := hfound [] c' 1000 .init (by decide) fun entry h => by
      rw [hentry] at h
      obtain rfl := Option.some.inj h
      decide
    rw [hself] at hget
    cases hget
  · have hbefore := hkept (cacheIp mapped) 1000 _ (by decide) hother
    revert hbefore
    decide

end DohProxy.Upstream
