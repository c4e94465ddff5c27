import DohProxy.Bootstrap.Reply
import DohProxy.Lib.Runs
import DohProxy.Lib.Saturating
import DohProxy.Lib.Text
import Mathlib.Data.Finmap

/-!
# The cache of the bootstrap resolvers

A host is looked up at a resolver with two queries, for IPv4 and for IPv6 addresses, and what
they bring is kept until the smallest TTL has passed. Many lookups go on at once, and they
share the cache. Looking into the cache and writing to it are a lookup's only steps on it.

## What is proved

`cache_sound` — **as long as two replies that are stored bring an address between them**, every
entry in the cache has an address, and expires with the first of its records. `empty_reply_served`
— two replies without an address are stored all the same, for 136 years.
-/

namespace DohProxy.Bootstrap

open Lib Outcome System Net Dns

/-! ### Hosts -/

/-- The host in lower case, with a dot at its end. -/
def normalizeBootstrapHost (host : List Char) : Option (List Char) :=
  let trimmed := Text.trim host
  if trimmed = [] then none
  else
    let lower := Text.toAsciiLowercase trimmed
    some (if lower.getLast? = some '.' then lower else lower ++ ['.'])

/-! ### The cache -/

/-- What an entry is kept under. -/
structure BootstrapCacheKey where
  /-- The resolver. -/
  resolver : SocketAddr
  /-- The host, as it is normalized. -/
  host : List Char
  deriving DecidableEq

/-- An entry. -/
structure BootstrapCacheEntry where
  /-- The addresses of the host. -/
  addrs : List IpAddr
  /-- The time up to which they are good. -/
  expireAtMs : UInt64
  deriving DecidableEq

/-- `BOOTSTRAP_RESOLVER_CACHE`. -/
abbrev BootstrapCache := Finmap fun _ : BootstrapCacheKey => BootstrapCacheEntry

/-- Looking into the cache. -/
def loadBootstrapCache (cache : BootstrapCache) (key : BootstrapCacheKey) (now : UInt64) :
    Option (List IpAddr) :=
  match cache.lookup key with
  | none => none
  | some entry => if entry.expireAtMs ≥ now then some entry.addrs else none

/-- Writing to the cache. -/
def storeBootstrapCache (cache : BootstrapCache) (key : BootstrapCacheKey) (addrs : List IpAddr)
    (ttlSecs : UInt32) (now : UInt64) : BootstrapCache :=
  let ttlMs := saturatingMul ttlSecs.toUInt64 1000
  cache.insert key ⟨addrs, saturatingAdd now ttlMs⟩

/-! ### Lookups -/

/-- What happens on the network for one query: the random id it gets, and what is received. -/
structure Exchange where
  /-- The id. -/
  queryId : UInt16
  /-- The datagram that came back, or how that failed. -/
  received : Except DoHError Packet

/-- One query. -/
def resolveOneBootstrap (host : List Char) (qtype : UInt16) (x : Exchange) :
    Outcome DoHError BootstrapDnsResult := do
  let _ ← buildBootstrapDnsQuery x.queryId host qtype
  match x.received with
  | .error e => .err e
  | .ok packet => parseBootstrapDnsResponse packet x.queryId qtype

/-- The cache, and the lookups that wait for their replies. -/
structure State where
  /-- The cache. -/
  cache : BootstrapCache
  /-- The lookups. -/
  waiting : List BootstrapCacheKey

/-- What can happen. -/
inductive Action where
  /-- A lookup of a host at a resolver begins. -/
  | start (resolver : SocketAddr) (host : List Char) (now : UInt64)
  /-- Both queries of a lookup are done. -/
  | finish (key : BootstrapCacheKey) (a aaaa : Exchange) (now : UInt64)
  /-- A lookup is given up, because another resolver was faster. -/
  | drop (key : BootstrapCacheKey)

/-- What `resolve_with_bootstrap_resolver` returns without asking. -/
def State.served (s : State) (resolver : SocketAddr) (host : List Char) (now : UInt64) :
    Option (List IpAddr) :=
  match normalizeBootstrapHost host with
  | none => none
  | some host => loadBootstrapCache s.cache ⟨resolver, host⟩ now

/-- The steps of `resolve_with_bootstrap_resolver`. -/
def resolveStep (s : State) : Action → Option State
  | .start resolver host now =>
    match normalizeBootstrapHost host with
    | none => some s
    | some host =>
      match loadBootstrapCache s.cache ⟨resolver, host⟩ now with
      | some _ => some s
      | none => some { s with waiting := ⟨resolver, host⟩ :: s.waiting }
  | .finish key a aaaa now =>
    if key ∈ s.waiting then
      let s := { s with waiting := s.waiting.erase key }
      let queryHost := trimEndDots key.host
      match resolveOneBootstrap queryHost bootstrapDnsTypeA a,
        resolveOneBootstrap queryHost bootstrapDnsTypeAaaa aaaa with
      | .ok aRes, .ok aaaaRes =>
        some { s with cache := storeBootstrapCache s.cache key (aRes.addrs ++ aaaaRes.addrs)
                        (min aRes.minTtlSecs aaaaRes.minTtlSecs) now }
      | _, _ => some s
    else none
  | .drop key => if key ∈ s.waiting then some { s with waiting := s.waiting.erase key } else none

/-- The bootstrap resolver, before anything is looked up. -/
def bootstrap : System State Action := ⟨⟨∅, []⟩, resolveStep⟩

/-! ### What the cache is for -/

/-- A query brings a reply. -/
def Exchange.Brings (x : Exchange) (m : Reply) : Prop :=
  ∃ packet, x.received = .ok packet ∧ 12 ≤ packet.length ∧ be16At packet 0 = x.queryId ∧
    be16At packet 2 &&& bootstrapDnsFlagQr ≠ 0 ∧ readReply packet = .ok m

/-- The records of two replies that give an address. -/
def addressRecords (m₄ m₆ : Reply) : List Answer :=
  m₄.addressRecords bootstrapDnsTypeA ++ m₆.addressRecords bootstrapDnsTypeAaaa

/-- An entry is made of two replies that were stored at a time: it has their addresses, of which
there is one, and expires with the first of the records that they are from. -/
structure MadeFrom (entry : BootstrapCacheEntry) (m₄ m₆ : Reply) (now : UInt64) : Prop where
  /-- Its addresses are those of both replies. -/
  addrs : entry.addrs =
    (m₄.result bootstrapDnsTypeA).addrs ++ (m₆.result bootstrapDnsTypeAaaa).addrs
  /-- There is one. -/
  ne_nil : entry.addrs ≠ []
  /-- It expires with the first of the records that have an address. -/
  expires : ∀ r ∈ addressRecords m₄ m₆,
    entry.expireAtMs.toNat ≤ now.toNat + 1000 * r.ttl.toNat

/-- An action stores what a lookup has brought. -/
def Action.Stores (key : BootstrapCacheKey) : Action → Prop
  | .finish key' a aaaa _ => key' = key ∧
    (∃ res, resolveOneBootstrap (trimEndDots key.host) bootstrapDnsTypeA a = .ok res) ∧
    ∃ res, resolveOneBootstrap (trimEndDots key.host) bootstrapDnsTypeAaaa aaaa = .ok res
  | _ => False

/-- An entry is what the last lookup has brought that stored something under its key. -/
def FromLast (as : List Action) (key : BootstrapCacheKey) (entry : BootstrapCacheEntry) : Prop :=
  ∃ before a aaaa now after m₄ m₆, as = before ++ .finish key a aaaa now :: after ∧
    (∀ act ∈ after, ¬ act.Stores key) ∧ a.Brings m₄ ∧ aaaa.Brings m₆ ∧ MadeFrom entry m₄ m₆ now

/-- What is to hold after some actions. -/
structure Sound (as : List Action) (s : State) : Prop where
  /-- Every entry is made of the replies to the lookup that stored it. -/
  entries : ∀ key entry, s.cache.lookup key = some entry → FromLast as key entry
  /-- An answer from the cache has an address. -/
  served : ∀ resolver host now addrs, s.served resolver host now = some addrs → addrs ≠ []

/-- Two replies to a lookup bring an address between them. -/
def BringsAddress (_ : State) : Action → Prop
  | .finish _ a aaaa _ => ∀ m₄ m₆, a.Brings m₄ → aaaa.Brings m₆ → addressRecords m₄ m₆ ≠ []
  | _ => True

/-! ### Proofs -/

variable {s s' : State} {as : List Action} {x : Exchange} {now : UInt64} {m m₄ m₆ : Reply}

/-- A query is a success when it brings a reply. -/
theorem brings_of_resolveOneBootstrap {host : List Char} {qtype : UInt16} {res : BootstrapDnsResult}
    (h : resolveOneBootstrap host qtype x = .ok res) : ∃ m, x.Brings m ∧ res = m.result qtype := by
  obtain ⟨_, -, h⟩ := bind_eq_ok.mp h
  cases hx : x.received with
  | error e => rw [hx] at h; cases h
  | ok packet =>
    rw [hx] at h
    dsimp only at h
    rw [parseBootstrapDnsResponse_eq] at h
    simp only [bind_eq_ok, ensure_eq_ok, pure_eq_ok, Outcome.ok.injEq] at h
    obtain ⟨_, hlen, _, hid, _, hqr, m, hm, rfl⟩ := h
    exact ⟨m, ⟨packet, hx, hlen, hid, hqr, hm⟩, rfl⟩

theorem toNat_min (a b : UInt32) : (min a b).toNat = min a.toNat b.toNat := by
  have h : min a b = if a ≤ b then a else b := rfl
  rw [h]
  split
  · next hle => exact (Nat.min_eq_left (UInt32.le_iff_toNat_le.mp hle)).symm
  · next hle => exact (Nat.min_eq_right (Nat.le_of_not_le (mt UInt32.le_iff_toNat_le.mpr hle))).symm

theorem foldl_min_le (l : List UInt32) : ∀ init : UInt32,
    (l.foldl min init).toNat ≤ init.toNat ∧ ∀ t ∈ l, (l.foldl min init).toNat ≤ t.toNat := by
  induction l with
  | nil => simp
  | cons u l ih =>
    intro init
    obtain ⟨hmin, hl⟩ := ih (min init u)
    rw [toNat_min] at hmin
    refine ⟨hmin.trans (Nat.min_le_left _ _), fun t ht => ?_⟩
    rcases List.mem_cons.mp ht with rfl | ht
    · exact hmin.trans (Nat.min_le_right _ _)
    · exact hl t ht

/-- No record has a smaller TTL than the smallest one. -/
theorem minTtlSecs_le {qtype : UInt16} {r : Answer} (hr : r ∈ m.addressRecords qtype) :
    (m.result qtype).minTtlSecs.toNat ≤ r.ttl.toNat :=
  (foldl_min_le _ _).2 _ (List.mem_map_of_mem hr)

/-- A record that gives an address gives one. -/
theorem addrs_ne_nil {qtype : UInt16} (h : m.addressRecords qtype ≠ []) :
    (m.result qtype).addrs ≠ [] := by
  obtain ⟨r, hr⟩ := List.exists_mem_of_ne_nil _ h
  obtain ⟨addr, haddr⟩ := Option.isSome_iff_exists.mp (List.mem_filter.mp hr).2
  exact List.ne_nil_of_mem (List.mem_filterMap.mpr ⟨r, hr, haddr⟩)

/-- The entry that is made of two replies. -/
def storedEntry (m₄ m₆ : Reply) (now : UInt64) : BootstrapCacheEntry :=
  ⟨(m₄.result bootstrapDnsTypeA).addrs ++ (m₆.result bootstrapDnsTypeAaaa).addrs,
    saturatingAdd now (saturatingMul
      (min (m₄.result bootstrapDnsTypeA).minTtlSecs
        (m₆.result bootstrapDnsTypeAaaa).minTtlSecs).toUInt64 1000)⟩

/-- **What is stored** is good when the replies bring an address. -/
theorem madeFrom_storedEntry (h : addressRecords m₄ m₆ ≠ []) (now : UInt64) :
    MadeFrom (storedEntry m₄ m₆ now) m₄ m₆ now := by
  refine ⟨rfl, ?_, fun r hr => ?_⟩
  · by_cases h₄ : m₄.addressRecords bootstrapDnsTypeA = []
    · have h₆ : m₆.addressRecords bootstrapDnsTypeAaaa ≠ [] :=
        fun h₆ => h (by rw [addressRecords, h₄, h₆]; rfl)
      exact List.append_ne_nil_of_right_ne_nil _ (addrs_ne_nil h₆)
    · exact List.append_ne_nil_of_left_ne_nil (addrs_ne_nil h₄) _
  · have hmin : (min (m₄.result bootstrapDnsTypeA).minTtlSecs
        (m₆.result bootstrapDnsTypeAaaa).minTtlSecs).toNat ≤ r.ttl.toNat := by
      rw [toNat_min]
      rcases List.mem_append.mp hr with hr | hr
      · exact (Nat.min_le_left _ _).trans (minTtlSecs_le hr)
      · exact (Nat.min_le_right _ _).trans (minTtlSecs_le hr)
    calc (storedEntry m₄ m₆ now).expireAtMs.toNat
        ≤ now.toNat + (saturatingMul _ 1000).toNat := toNat_saturatingAdd_le _ _
      _ ≤ now.toNat + _ * 1000 := Nat.add_le_add_left (toNat_saturatingMul_le _ _) _
      _ ≤ now.toNat + r.ttl.toNat * 1000 :=
        Nat.add_le_add_left (Nat.mul_le_mul_right _ (by rwa [UInt32.toNat_toUInt64])) _
      _ = now.toNat + 1000 * r.ttl.toNat := by rw [Nat.mul_comm]

/-- **What a step does to the cache**: nothing, or it stores an entry made of two replies. -/
theorem resolveStep_cases {act : Action} (h : resolveStep s act = some s') :
    (s'.cache = s.cache ∧ ∀ key, ¬ act.Stores key) ∨
      ∃ key a aaaa now m₄ m₆, act = .finish key a aaaa now ∧ a.Brings m₄ ∧ aaaa.Brings m₆ ∧
        s'.cache = s.cache.insert key (storedEntry m₄ m₆ now) := by
  cases act with
  | start resolver host now =>
    refine .inl ⟨?_, fun _ => id⟩
    simp only [resolveStep] at h
    split at h
    · rw [← Option.some.inj h]
    · split at h <;> rw [← Option.some.inj h]
  | finish key a aaaa now =>
    simp only [resolveStep] at h
    split at h
    · split at h
      · next h₄ h₆ =>
        obtain ⟨m₄, hm₄, rfl⟩ := brings_of_resolveOneBootstrap h₄
        obtain ⟨m₆, hm₆, rfl⟩ := brings_of_resolveOneBootstrap h₆
        exact .inr ⟨key, a, aaaa, now, m₄, m₆, rfl, hm₄, hm₆, by rw [← Option.some.inj h]; rfl⟩
      · next hnot =>
        refine .inl ⟨by rw [← Option.some.inj h], ?_⟩
        rintro _ ⟨rfl, ⟨aRes, h₄⟩, aaaaRes, h₆⟩
        exact hnot aRes aaaaRes h₄ h₆
    · cases h
  | drop key =>
    refine .inl ⟨?_, fun _ => id⟩
    simp only [resolveStep] at h
    split at h
    · rw [← Option.some.inj h]
    · cases h

/-- What does not store anything under a key leaves its entry as it was. -/
theorem FromLast.append {key : BootstrapCacheKey} {entry : BootstrapCacheEntry} {act : Action}
    (h : FromLast as key entry) (hact : ¬ act.Stores key) : FromLast (as ++ [act]) key entry := by
  obtain ⟨before, a, aaaa, now, after, m₄, m₆, rfl, hafter, hmade⟩ := h
  refine ⟨before, a, aaaa, now, after ++ [act], m₄, m₆, by simp, ?_, hmade⟩
  intro act' hmem
  rcases List.mem_append.mp hmem with hmem | hmem
  · exact hafter act' hmem
  · rw [List.mem_singleton.mp hmem]
    exact hact

/-- A lookup in the cache returns what an entry holds. -/
theorem entry_of_served {resolver : SocketAddr} {host : List Char} {addrs : List IpAddr}
    (h : s.served resolver host now = some addrs) :
    ∃ key entry, s.cache.lookup key = some entry ∧ entry.addrs = addrs := by
  unfold State.served at h
  split at h
  · cases h
  · unfold loadBootstrapCache at h
    split at h
    · cases h
    · next entry hentry =>
      split at h
      · exact ⟨_, entry, hentry, Option.some.inj h⟩
      · cases h

/-- What every entry is made of, as long as replies bring addresses. -/
theorem entries_of_run (h : Run bootstrap BringsAddress as s) :
    ∀ key entry, s.cache.lookup key = some entry → FromLast as key entry := by
  refine h.invariant (I := fun as s => ∀ key entry,
    s.cache.lookup key = some entry → FromLast as key entry) ?_ ?_
  · intro key entry hentry
    simp [bootstrap] at hentry
  · intro as s act s' hI hcond hstep key entry hentry
    rcases resolveStep_cases hstep with
      ⟨hcache, hnot⟩ | ⟨k, a, aaaa, now, m₄, m₆, rfl, h₄, h₆, hcache⟩
    · exact (hI key entry (hcache ▸ hentry)).append (hnot key)
    · rw [hcache] at hentry
      by_cases hk : key = k
      · subst hk
        rw [Finmap.lookup_insert] at hentry
        obtain rfl := Option.some.inj hentry
        exact ⟨as, a, aaaa, now, [], m₄, m₆, rfl, nofun, h₄, h₆,
          madeFrom_storedEntry (hcond m₄ m₆ h₄ h₆) now⟩
      · rw [Finmap.lookup_insert_of_ne _ hk] at hentry
        exact (hI key entry hentry).append fun hstores => hk hstores.1.symm

/-- **The cache is sound as long as replies that are stored bring an address**: in every run, by
any number of lookups at once, an entry has the addresses that the last lookup stored under its key,
of which there is one, and expires with the first of the records they are from, so that no lookup is
answered from the cache without an address. -/
theorem cache_sound (as : List Action) (s : State) (h : Run bootstrap BringsAddress as s) :
    Sound as s := by
  have hentries := entries_of_run h
  refine ⟨hentries, fun resolver host now addrs hserved => ?_⟩
  obtain ⟨key, entry, hentry, rfl⟩ := entry_of_served hserved
  obtain ⟨_, _, _, _, _, _, _, -, -, -, -, hmade⟩ := hentries key entry hentry
  exact hmade.ne_nil

/-- A resolver. -/
def quad9 : SocketAddr := .v4 #v[9, 9, 9, 9] 53

/-- A reply with id `0` for the host `a`: its status and its answer section. -/
def replyFor (status ancount : UInt8) (answers : List UInt8) : Packet :=
  [0, 0, 0x81, 0x80 + status, 0, 1, 0, ancount, 0, 0, 0, 0] ++ [1, 0x61, 0] ++
    [0, 1, 0, 1] ++ answers

/-- An IPv4 address, good for a minute. -/
def withAddress : Packet :=
  replyFor 0 1 ([0xc0, 12, 0, 1, 0, 1, 0, 0, 0, 60, 0, 4] ++ [192, 0, 2, 1])

/-- The status `SERVFAIL`. -/
def servfail : Packet := replyFor 2 0 []

/-- A lookup of the host `a`, and the replies to it. -/
def lookup (a aaaa : Packet) : List Action :=
  [.start quad9 ['a'] 1000, .finish ⟨quad9, ['a', '.']⟩ ⟨0, .ok a⟩ ⟨0, .ok aaaa⟩ 2000]

/-- A host with an IPv4 address but no IPv6 address is in the cache, after one lookup. -/
theorem cache_sound_one_family :
    ∃ s, Sound (lookup withAddress servfail) s ∧
      s.served quad9 ['A'] 62000 = some [.v4 #v[192, 0, 2, 1]] := by
  have hserved : ((resolveStep ⟨∅, [⟨quad9, ['a', '.']⟩]⟩
      (.finish ⟨quad9, ['a', '.']⟩ ⟨0, .ok withAddress⟩ ⟨0, .ok servfail⟩ 2000)).bind fun s =>
        s.served quad9 ['A'] 62000) = some [.v4 #v[192, 0, 2, 1]] := by
    decide +kernel
  obtain ⟨s, hs, hserved⟩ := Option.bind_eq_some_iff.mp hserved
  have hstart : bootstrap.step bootstrap.init (.start quad9 ['a'] 1000) = some ⟨∅,
    [⟨quad9, ['a', '.']⟩]⟩ := rfl
  refine ⟨s, cache_sound _ _ ((Run.init.step trivial hstart).step ?_ hs), hserved⟩
  rintro m₄ m₆ ⟨packet, hpacket, -, -, -, hm₄⟩ -
  obtain rfl := Except.ok.inj hpacket
  have hrecord : readReply withAddress = .ok ⟨[0x61, 0x2e],
    [⟨[0x61, 0x2e], 1, 1, 60, [192, 0, 2, 1]⟩]⟩ := by
    decide +kernel
  obtain rfl := Outcome.ok.inj (hm₄.symm.trans hrecord)
  exact List.append_ne_nil_of_left_ne_nil (by decide) _

/-- **Without an address, too, replies are stored**: after a lookup for which the resolver failed,
the cache answers with no address for 136 years. -/
theorem empty_reply_served :
    ∃ s, Run bootstrap Always (lookup servfail servfail) s ∧
      s.served quad9 ['a'] 4294967297000 = some [] ∧
      ¬ Sound (lookup servfail servfail) s := by
  have hserved : ((bootstrap.exec Always bootstrap.init (lookup servfail servfail)).bind fun s =>
      s.served quad9 ['a'] 4294967297000) = some [] := by
    decide +kernel
  obtain ⟨s, hs, hserved⟩ := Option.bind_eq_some_iff.mp hserved
  exact ⟨s, run_of_exec hs, hserved, fun h => h.served _ _ _ _ hserved rfl⟩

end DohProxy.Bootstrap
