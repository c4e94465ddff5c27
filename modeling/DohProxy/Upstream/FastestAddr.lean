import DohProxy.Cache.FastestIp
import DohProxy.Upstream.Exchange
import DohProxy.Upstream.Rewrite
import Mathlib

/-!
# The fastest address

When an address is asked for, all upstreams are asked, and the addresses in their replies are
compared: by what the cache knows of them, or by a connection that is tried for the purpose. A
reply that has the fastest address is then rewritten to have no other. This is
`exchange_fastest_addr` of `fastest_addr.rs`.

## The model

What is left to chance, and to other queries, is a `Race`: the order in which a set is gone
through, the cache and the clock at each lookup, what the pings find and which of them complete
before the time is up.

## What is proved

`exchangeFastestAddr_answered` — **the answer is the first reply, or a reply with a fastest address
for all of its addresses of that family.**
-/

namespace DohProxy.Upstream

open Lib Outcome Net Cache

/-- `FASTEST_ADDR_PING_PORTS`. -/
def fastestAddrPingPorts : List UInt16 := [80, 443]

/-- `IpAddr::is_unspecified`. -/
def isUnspecified (ip : IpAddr) : Bool := ip.octets.all (· = 0)

/-- What a ping finds. -/
structure PingResult where
  /-- The address. -/
  ip : IpAddr
  /-- How long it took to connect. -/
  latencyMs : UInt32
  /-- Whether it came to a connection. -/
  success : Bool
  deriving DecidableEq

/-- What is left to chance and to others when addresses are compared. -/
structure Race where
  /-- The order in which a set of addresses is gone through. -/
  setOrder : List IpAddr → List IpAddr
  /-- It is an order of the set. -/
  setOrder_perm : ∀ ips, (setOrder ips).Perm ips
  /-- The cache at each lookup. Other queries change it. -/
  cache : ℕ → FastestIpCache
  /-- The time at each lookup. -/
  nowMillis : ℕ → UInt64
  /-- What `ping_do_tcp` finds for an address and a port: whether there is a connection, and how
  long that takes. -/
  pingDoTcp : IpAddr → UInt16 → Bool × UInt32
  /-- The pings that complete before the time is up, in the order in which they do. -/
  completed : List (IpAddr × UInt16) → List (IpAddr × UInt16)
  /-- They are among those that were started. -/
  completed_subperm : ∀ pings, (completed pings).Subperm pings

/-- The addresses in the answers of a packet. -/
def extractAnswerIps (packet : List UInt8) : List IpAddr :=
  match Msg.unpack packet with
  | .ok msg => msg.answerIps
  | _ => []

/-- Whether an address is in the answers of a packet. -/
def containsAnswerIp (packet : List UInt8) (targetIp : IpAddr) : Bool :=
  match Msg.unpack packet with
  | .ok msg => msg.containsAnswerIp targetIp
  | _ => false

/-- The addresses to choose from. -/
def ipSet (replies : List (List UInt8)) : List IpAddr :=
  (replies.flatMap fun reply => (extractAnswerIps reply).filter fun ip => ¬ isUnspecified ip).dedup

/-- `load_fastest_cache`. -/
def loadFastestCache (race : Race) (k : ℕ) (ip : IpAddr) : Option FastIpCacheEntry :=
  ((race.cache k).get ip (race.nowMillis k)).1

/-- The better of the best address so far and one that is in the cache. -/
def updateBest (cachedBest : Option PingResult) (ip : IpAddr) (cached : FastIpCacheEntry) :
    Option PingResult :=
  let better := match cachedBest with
    | some best => decide (cached.latencyMs < best.latencyMs)
    | none => true
  if cached.status = .success ∧ better = true then some ⟨ip, cached.latencyMs, true⟩ else cachedBest

/-- The loop over the addresses: the best one that is in the cache, and the pings for the others. -/
def scan (race : Race) : ℕ → List IpAddr → (cachedBest : Option PingResult) →
    (scheduled : List (IpAddr × UInt16)) →
    Option PingResult × List (IpAddr × UInt16)
  | _, [], cachedBest, scheduled => (cachedBest, scheduled)
  | k, ip :: ips, cachedBest, scheduled =>
    match loadFastestCache race k ip with
    | some cached => scan race (k + 1) ips (updateBest cachedBest ip cached) scheduled
    | none => scan race (k + 1) ips cachedBest (scheduled ++ fastestAddrPingPorts.map (ip, ·))

/-- The loop that waits for pings. At the end the time is up, or there are no more. -/
def awaitPing (cachedBest : Option PingResult) : List PingResult → Option PingResult
  | [] => cachedBest
  | result :: results =>
    if ¬ result.success then awaitPing cachedBest results
    else
      match cachedBest with
      | some cached => if cached.latencyMs < result.latencyMs then some cached else some result
      | none => some result

/-- The result of a ping. -/
def Race.pingResult (race : Race) (ping : IpAddr × UInt16) : PingResult :=
  let (success, latencyMs) := race.pingDoTcp ping.1 ping.2
  ⟨ping.1, latencyMs, success⟩

/-- The fastest of the addresses. -/
def pingAll (race : Race) : List IpAddr → Option PingResult
  | [] => none
  | [ip] => some ⟨ip, 0, true⟩
  | ips =>
    let (cachedBest, scheduled) := scan race 0 ips none []
    if scheduled = [] then cachedBest
    else awaitPing cachedBest ((race.completed scheduled).map race.pingResult)

/-- A reply with one address for all. -/
def filterResponseAnswer (packet : List UInt8) (selectedIp : IpAddr) :
    Outcome DoHError (List UInt8) := do
  let (res, packet) := Msg.rewriteAnswerIpsInPacket selectedIp packet
  res.mapErr fun _ => DoHError.invalidData
  return packet

/-- What is made of the replies of all upstreams. -/
def exchangeFastestAddr (race : Race) (all : ExchangeAll) : Outcome Empty ExchangeOutcome :=
  let queryStats := QueryStatistics.withMain all.stats
  match all.replies with
  | [] => return ⟨.error (all.err.getD .upstreamIssue), queryStats⟩
  | firstPacket :: rest =>
    let ips := race.setOrder (ipSet (firstPacket :: rest))
    if ips = [] then return ⟨.ok firstPacket, queryStats⟩
    else
      match pingAll race ips with
      | none => return ⟨.ok firstPacket, queryStats⟩
      | some ping =>
        match (firstPacket :: rest).find? (containsAnswerIp · ping.ip) with
        | none => return ⟨.ok firstPacket, queryStats⟩
        | some reply => do
          match ← (filterResponseAnswer reply ping.ip).option with
          | some packet => return ⟨.ok packet, queryStats⟩
          | none => return ⟨.ok firstPacket, queryStats⟩

/-! ### What the cache knows -/

/-- At the `k`-th lookup the cache knows of a connection to an address, with its latency. -/
def Race.CachedSuccess (race : Race) (k : ℕ) (ip : IpAddr) (latencyMs : UInt32) : Prop :=
  ∃ node, (race.cache k).entries.lookup ip = some node ∧ race.nowMillis k < node.entry.expireAtMs ∧
    node.entry.status = .success ∧ node.entry.latencyMs = latencyMs

variable {race : Race}

theorem Race.cachedSuccess_iff {k : ℕ} {ip : IpAddr} {latencyMs : UInt32} :
    race.CachedSuccess k ip latencyMs ↔
    ∃ cached, loadFastestCache race k ip = some cached ∧ cached.status = .success ∧
      cached.latencyMs = latencyMs := by
  unfold CachedSuccess loadFastestCache FastestIpCache.get
  cases (race.cache k).entries.lookup ip with
  | none => simp
  | some node =>
    dsimp only
    split
    · next hdead => simp [UInt64.not_lt.mpr hdead]
    · next hlive => simp [UInt64.not_le.mp hlive]

/-- The best is no slower. -/
def NoSlower (best : Option PingResult) (latencyMs : UInt32) : Prop :=
  ∃ b, best = some b ∧ b.latencyMs ≤ latencyMs

theorem NoSlower.trans {best : Option PingResult} {a b : UInt32} (h : NoSlower best a)
    (hab : a ≤ b) : NoSlower best b := by
  obtain ⟨r, hr, hle⟩ := h
  exact ⟨r, hr, UInt32.le_trans hle hab⟩

/-- One address that is in the cache. -/
theorem updateBest_spec (best : Option PingResult) (ip : IpAddr) (cached : FastIpCacheEntry) :
    (updateBest best ip cached = best ∨
      cached.status = .success ∧ updateBest best ip cached = some ⟨ip, cached.latencyMs, true⟩) ∧
    (∀ latencyMs, NoSlower best latencyMs → NoSlower (updateBest best ip cached) latencyMs) ∧
    (cached.status = .success → NoSlower (updateBest best ip cached) cached.latencyMs) := by
  unfold updateBest
  by_cases hs : cached.status = .success
  · cases best with
    | none =>
      rw [if_pos ⟨hs, rfl⟩]
      refine ⟨.inr ⟨hs, rfl⟩, ?_, fun _ => ⟨_, rfl, UInt32.le_refl _⟩⟩
      rintro _ ⟨_, h, _⟩
      cases h
    | some b =>
      by_cases hlt : cached.latencyMs < b.latencyMs
      · rw [if_pos ⟨hs, by simpa using hlt⟩]
        refine ⟨.inr ⟨hs, rfl⟩, ?_, fun _ => ⟨_, rfl, UInt32.le_refl _⟩⟩
        rintro latencyMs ⟨_, h, hle⟩
        cases h
        exact ⟨_, rfl, UInt32.le_trans (UInt32.le_of_lt hlt) hle⟩
      · rw [if_neg (by simpa [hs] using hlt)]
        exact ⟨.inl rfl, fun _ h => h, fun _ => ⟨b, rfl, UInt32.not_lt.mp hlt⟩⟩
  · rw [if_neg fun h => hs h.1]
    exact ⟨.inl rfl, fun _ h => h, fun h => absurd h hs⟩

/-- **The loop keeps the best** that is in the cache, and starts pings for the addresses that are not. -/
theorem scan_spec : ∀ {ips : List IpAddr} {k : ℕ} {best₀ best : Option PingResult}
    {scheduled₀ scheduled : List (IpAddr × UInt16)},
      scan race k ips best₀ scheduled₀ = (best, scheduled) →
    (best = best₀ ∨ ∃ j ip latencyMs, ips[j]? = some ip ∧ race.CachedSuccess (k + j) ip latencyMs ∧
      best = some ⟨ip, latencyMs, true⟩) ∧
    (∀ latencyMs, NoSlower best₀ latencyMs → NoSlower best latencyMs) ∧
    (∀ j ip latencyMs, ips[j]? = some ip → race.CachedSuccess (k + j) ip latencyMs →
      NoSlower best latencyMs) ∧
    ∀ ping ∈ scheduled, ping ∈ scheduled₀ ∨ ping.1 ∈ ips := by
  intro ips
  induction ips with
  | nil =>
    intro k best₀ best scheduled₀ scheduled h
    cases h
    exact ⟨.inl rfl, fun _ h => h, by simp, fun _ h => .inl h⟩
  | cons ip ips ih =>
    intro k best₀ best scheduled₀ scheduled h
    rw [scan] at h
    cases hc : loadFastestCache race k ip with
    | none =>
      rw [hc] at h
      obtain ⟨hbest, hmono, hcached, hpings⟩ := ih h
      refine ⟨hbest.imp_right ?_, hmono, ?_, ?_⟩
      · rintro ⟨j, ip', latencyMs, hj, hsuccess, hb⟩
        exact ⟨j + 1, ip', latencyMs, hj, by rwa [Nat.add_right_comm] at hsuccess, hb⟩
      · rintro (_ | j) ip' latencyMs hj hsuccess
        · cases hj
          obtain ⟨cached, hload, -⟩ := Race.cachedSuccess_iff.mp hsuccess
          rw [Nat.add_zero, hc] at hload
          cases hload
        · exact hcached j ip' latencyMs hj (by rwa [Nat.add_right_comm])
      · intro ping hmem
        rcases hpings ping hmem with hmem | hmem
        · rcases List.mem_append.mp hmem with hmem | hmem
          · exact .inl hmem
          · obtain ⟨port, -, rfl⟩ := List.mem_map.mp hmem
            exact .inr List.mem_cons_self
        · exact .inr (List.mem_cons_of_mem ip hmem)
    | some cached =>
      rw [hc] at h
      obtain ⟨hbest, hmono, hcached, hpings⟩ := ih h
      obtain ⟨hupdate, hkeep, hnew⟩ := updateBest_spec best₀ ip cached
      refine ⟨?_, fun latencyMs h => hmono latencyMs (hkeep latencyMs h), ?_, fun ping hmem => ?_⟩
      · rcases hbest with rfl | ⟨j, ip', latencyMs, hj, hsuccess, hb⟩
        · refine hupdate.imp_right fun ⟨hs, hb⟩ => ⟨0, ip, cached.latencyMs, rfl, ?_, hb⟩
          exact Race.cachedSuccess_iff.mpr ⟨cached, hc, hs, rfl⟩
        · exact .inr ⟨j + 1, ip', latencyMs, hj, by rwa [Nat.add_right_comm] at hsuccess, hb⟩
      · rintro (_ | j) ip' latencyMs hj hsuccess
        · cases hj
          obtain ⟨cached', hload, hs, rfl⟩ := Race.cachedSuccess_iff.mp hsuccess
          rw [Nat.add_zero, hc] at hload
          cases hload
          exact hmono _ (hnew hs)
        · exact hcached j ip' latencyMs hj (by rwa [Nat.add_right_comm])
      · exact (hpings ping hmem).imp_right (List.mem_cons_of_mem ip)

/-- **The first connection wins**, unless the cache knows of a faster one. -/
theorem awaitPing_spec {cachedBest : Option PingResult} :
    ∀ {results : List PingResult} {ping : PingResult},
    awaitPing cachedBest results = some ping → cachedBest = some ping ∨
      ping ∈ results ∧ ping.success = true ∧ ∀ best, cachedBest = some best →
        ping.latencyMs ≤ best.latencyMs := by
  intro results
  induction results with
  | nil => exact fun h => .inl h
  | cons result results ih =>
    intro ping h
    unfold awaitPing at h
    split at h
    · exact (ih h).imp_right fun ⟨hmem, hrest⟩ => ⟨List.mem_cons_of_mem result hmem, hrest⟩
    · next hs =>
      have hs : result.success = true := by simpa using hs
      cases cachedBest with
      | none =>
        cases h
        exact .inr ⟨List.mem_cons_self, hs, nofun⟩
      | some best =>
        dsimp only at h
        split at h
        · exact .inl h
        · next hge =>
          cases h
          refine .inr ⟨List.mem_cons_self, hs, ?_⟩
          rintro _ ⟨⟩
          exact UInt32.not_lt.mp hge

/-- The pings that complete before the time is up. -/
def Race.completedPings (race : Race) (ips : List IpAddr) : List (IpAddr × UInt16) :=
  race.completed (scan race 0 ips none []).2

/-- Why an address is the fastest of some: there is no other, or the cache knows of a connection to
it, or a ping came to one; and the cache knows of none that is faster. -/
structure Justified (race : Race) (ips : List IpAddr) (ip : IpAddr)
    (latencyMs : UInt32) : Prop where
  /-- Why it may be chosen. -/
  reason : ips = [ip] ∧ latencyMs = 0 ∨ (∃ k, ips[k]? = some ip ∧
    race.CachedSuccess k ip latencyMs) ∨
    ∃ port, (ip, port) ∈ race.completedPings ips ∧ race.pingDoTcp ip port = (true, latencyMs)
  /-- Why no other should be. -/
  fastest : ∀ k ip' latencyMs', ips[k]? = some ip' → race.CachedSuccess k ip' latencyMs' →
    latencyMs ≤ latencyMs'

theorem pingAll_cons_cons (ip₁ ip₂ : IpAddr) (rest : List IpAddr) :
    pingAll race (ip₁ :: ip₂ :: rest) =
    let (cachedBest, scheduled) := scan race 0 (ip₁ :: ip₂ :: rest) none []
    if scheduled = [] then cachedBest
    else awaitPing cachedBest ((race.completed scheduled).map race.pingResult) := rfl

/-- **The comparison is justified.** -/
theorem pingAll_spec {ips : List IpAddr} {ping : PingResult} (h : pingAll race ips = some ping) :
    ping.ip ∈ ips ∧ Justified race ips ping.ip ping.latencyMs := by
  match ips, h with
  | [], h => cases h
  | [ip], h =>
    cases h
    exact ⟨List.mem_singleton_self ip, .inl ⟨rfl, rfl⟩, fun _ _ _ _ _ => UInt32.zero_le⟩
  | ip₁ :: ip₂ :: rest, h =>
    rw [pingAll_cons_cons] at h
    generalize ip₁ :: ip₂ :: rest = ips at h ⊢
    cases hscan : scan race 0 ips none [] with
    | mk cachedBest scheduled =>
      obtain ⟨hbest, -, hcached, hpings⟩ := scan_spec hscan
      simp only [Nat.zero_add] at hbest hcached
      -- the best one that is in the cache may be chosen
      have hchosen : cachedBest = some ping → ping.ip ∈ ips ∧
        Justified race ips ping.ip ping.latencyMs := by
        rintro rfl
        rcases hbest with hbest | ⟨j, ip, latencyMs, hj, hsuccess, hbest⟩
        · cases hbest
        · cases hbest
          refine ⟨List.mem_of_getElem? hj, .inr (.inl ⟨j, hj, hsuccess⟩),
            fun k ip' latencyMs' hk hs => ?_⟩
          obtain ⟨_, ⟨⟩, hle⟩ := hcached k ip' latencyMs' hk hs
          exact hle
      rw [hscan] at h
      dsimp only at h
      split at h
      · exact hchosen h
      · rcases awaitPing_spec h with h | ⟨hmem, hs, hle⟩
        · exact hchosen h
        · obtain ⟨⟨ip, port⟩, hping, rfl⟩ := List.mem_map.mp hmem
          have hstarted := (hpings _ ((race.completed_subperm scheduled).subset hping)).resolve_left
            List.not_mem_nil
          have hcompleted : (ip, port) ∈ race.completedPings ips := by
            rwa [Race.completedPings, hscan]
          refine ⟨hstarted, .inr (.inr ⟨port, hcompleted, Prod.ext hs rfl⟩),
            fun k ip' latencyMs' hk hs' => ?_⟩
          obtain ⟨b, hb, hble⟩ := hcached k ip' latencyMs' hk hs'
          exact UInt32.le_trans (hle b hb) hble

/-! ### The answer -/

/-- The answer is the first reply, or one in which some records have all been given the address that
is justified. -/
def Answered (which : ResourceRecord → IpAddr → Prop) (race : Race) (replies : List (List UInt8))
    (packet : List UInt8) : Prop :=
  replies.head? = some packet ∨
    ∃ reply ∈ replies, ∃ ip latencyMs, RdataSet (locateAnswers reply)
      (which · ip) ip.octets reply packet ∧
      isUnspecified ip = false ∧ (∃ m, Msg.unpack reply = .ok m ∧ ip ∈ m.answerIps) ∧
      Justified race (race.setOrder (ipSet replies)) ip latencyMs

theorem filterResponseAnswer_of_unpack {reply : List UInt8} {m : Msg} (h : Msg.unpack reply = .ok m)
    (ip : IpAddr) :
    ∃ packet, filterResponseAnswer reply ip = .ok packet ∧
      RdataSet (locateAnswers reply) (·.HasAddressLike ip) ip.octets reply packet := by
  obtain ⟨packet, hrw, hset⟩ := Msg.rewriteAnswerIpsInPacket_of_unpack h ip
  refine ⟨packet, ?_, hset⟩
  rw [filterResponseAnswer, hrw]
  rfl

/-- The answer is the first reply, or the first one with the fastest address, rewritten. -/
theorem exchangeFastestAddr_cases (race : Race) (all : ExchangeAll) (hne : all.replies ≠ [])
    (hok : ∀ reply ∈ all.replies, ∃ m, Msg.unpack reply = .ok m) :
    ∃ packet, exchangeFastestAddr race all = .ok ⟨.ok packet, .withMain all.stats⟩ ∧
      (all.replies.head? = some packet ∨
        ∃ reply ping, pingAll race (race.setOrder (ipSet all.replies)) = some ping ∧
        all.replies.find? (containsAnswerIp · ping.ip) = some reply ∧
        RdataSet (locateAnswers reply) (·.HasAddressLike ping.ip) ping.ip.octets reply packet) := by
  obtain ⟨replies, stats, err⟩ := all
  dsimp only at hne hok ⊢
  cases replies with
  | nil => exact absurd rfl hne
  | cons firstPacket rest =>
    unfold exchangeFastestAddr
    dsimp only
    generalize race.setOrder (ipSet (firstPacket :: rest)) = ips
    split
    · exact ⟨firstPacket, rfl, .inl rfl⟩
    · cases hping : pingAll race ips with
      | none => exact ⟨firstPacket, rfl, .inl rfl⟩
      | some ping =>
        dsimp only
        cases hfind : (firstPacket :: rest).find? (containsAnswerIp · ping.ip) with
        | none => exact ⟨firstPacket, rfl, .inl rfl⟩
        | some reply =>
          obtain ⟨m, hm⟩ := hok reply (List.mem_of_find?_eq_some hfind)
          obtain ⟨packet, hfilter, hset⟩ := filterResponseAnswer_of_unpack hm ping.ip
          refine ⟨packet, ?_, .inr ⟨reply, ping, rfl, hfind, hset⟩⟩
          dsimp only
          rw [hfilter]
          rfl

/-- **What an address query is answered**: the first reply, or a reply with the fastest address for
all of its addresses of that family. -/
theorem exchangeFastestAddr_answered (race : Race) (all : ExchangeAll) (hne : all.replies ≠ [])
    (hok : ∀ reply ∈ all.replies, ∃ m, Msg.unpack reply = .ok m) :
    ∃ packet, exchangeFastestAddr race all = .ok ⟨.ok packet, .withMain all.stats⟩ ∧
      Answered ResourceRecord.HasAddressLike race all.replies packet := by
  obtain ⟨packet, hrun, hcases⟩ := exchangeFastestAddr_cases race all hne hok
  refine ⟨packet, hrun, hcases.imp_right ?_⟩
  rintro ⟨reply, ping, hping, hfind, hset⟩
  have hmem := List.mem_of_find?_eq_some hfind
  have hcontains := List.find?_some hfind
  obtain ⟨m, hm⟩ := hok reply hmem
  obtain ⟨hcandidate, hjust⟩ := pingAll_spec hping
  have hspecified : isUnspecified ping.ip = false := by
    have hc := (race.setOrder_perm _).mem_iff.mp hcandidate
    obtain ⟨_, -, hfiltered⟩ := List.mem_flatMap.mp (List.mem_dedup.mp hc)
    simpa using (List.mem_filter.mp hfiltered).2
  have hanswer : ping.ip ∈ m.answerIps := by
    rw [containsAnswerIp, hm] at hcontains
    exact Msg.mem_answerIps_iff.mpr (Msg.containsAnswerIp_iff.mp hcontains)
  exact ⟨reply, hmem, ping.ip, ping.latencyMs, hset, hspecified, ⟨m, hm, hanswer⟩, hjust⟩

/-- A reply with two addresses, and an address record whose data is not an address. -/
def oddReply : List UInt8 :=
  [0x12, 0x34, 0x81, 0x80, 0, 0, 0, 3, 0, 0, 0, 0] ++
    [0, 0, 1, 0, 1, 0, 0, 0, 60, 0, 4, 192, 0, 2, 1] ++
    [0, 0, 1, 0, 1, 0, 0, 0, 60, 0, 4, 192, 0, 2, 2] ++
    [0, 0, 1, 0, 1, 0, 0, 0, 60, 0, 5, 1, 2, 3, 4, 5]

/-- Its answers. -/
def oddMsg : Msg :=
  ⟨MsgHeader.fromWire 0x1234 0x8180, false, [],
    [⟨⟨[]⟩, .A, 1, 60, [192, 0, 2, 1]⟩, ⟨⟨[]⟩, .A, 1, 60, [192, 0, 2, 2]⟩,
    ⟨⟨[]⟩, .A, 1, 60, [1, 2, 3, 4, 5]⟩], [], []⟩

/-- Nothing is in the cache, and only the second address can be reached. -/
def emptyRace : Race where
  setOrder ips := ips
  setOrder_perm _ := .refl _
  cache _ := .withMaxSize 8
  nowMillis _ := 0
  pingDoTcp ip _ := (ip = .v4 #v[192, 0, 2, 2], 7)
  completed pings := pings
  completed_subperm _ := .refl _

theorem exchangeFastestAddr_answered_oddReply :
    ∃ packet, exchangeFastestAddr emptyRace ⟨[oddReply], [], none⟩ = .ok ⟨.ok packet,
      .withMain []⟩ ∧
      Answered ResourceRecord.HasAddressLike emptyRace [oddReply] packet :=
  exchangeFastestAddr_answered emptyRace ⟨[oddReply], [],
    none⟩ (List.cons_ne_nil _ _) fun reply hmem =>
    ⟨oddMsg, by rw [List.mem_singleton.mp hmem]; decide +kernel⟩

/-- **Not every address record is set**: one whose data is not an address is left as it is. -/
theorem not_answered_oddReply :
    ∃ packet, exchangeFastestAddr emptyRace ⟨[oddReply], [], none⟩ = .ok ⟨.ok packet,
      .withMain []⟩ ∧
      ¬ Answered (fun rr ip => rr.rrClass = dnsClassIn ∧
        rr.rrType = addressType ip) emptyRace [oddReply] packet := by
  refine ⟨oddReply.set 26 2, by decide +kernel, ?_⟩
  rintro (hfirst | ⟨reply, hmem, ip, latencyMs, hset, -, ⟨m, hm, hip⟩, -⟩)
  · exact absurd hfirst (by decide)
  · cases List.mem_singleton.mp hmem
    have hodd : (⟨⟨[]⟩, .A, 1, 60, [1, 2, 3, 4, 5]⟩,
      53) ∈ locateAnswers oddReply := by decide +kernel
    have hmsg : Msg.unpack oddReply = .ok oddMsg := by decide +kernel
    rw [hmsg] at hm
    cases hm
    cases ip with
    | v4 addr =>
      have hdata := congrArg List.length (hset.set _ _ hodd ⟨rfl, rfl⟩)
      simp [IpAddr.octets, oddReply] at hdata
    | v6 addr =>
      obtain ⟨rr, hrr, hlike, -⟩ := Msg.mem_answerIps_iff.mp hip
      have hnone : ∀ rr ∈ oddMsg.answers, rr.rrType ≠ .AAAA := by decide
      exact hnone rr hrr hlike.2.1

end DohProxy.Upstream
