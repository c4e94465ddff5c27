import DohProxy.Bootstrap.Cache
import DohProxy.Net.IpText

/-!
# The addresses of an upstream server

`resolve_upstream_addrs` of `lib.rs`: a host that is an address needs no lookup; else the system is
asked when no bootstrap resolver is configured, and all bootstrap resolvers are asked at once when
some are. The first of them for which both lookups succeed decides.

## The model

What the network does is a `Network`: the resolvers in the order in which their lookups are over, with
what these brought, and those for which they never are. The lookups that are made are kept next to
the cache; the code has no such thing.

## What is proved

`resolveUpstreamAddrs_found_iff` — **an address that a resolver brings is found unless a resolver
that brings none has won the race**. `resolveUpstreamAddrs_of_fromStr`, `resolveUpstreamAddrs_made` —
a host is looked up exactly if it is no address.
-/

namespace DohProxy.Bootstrap

open Lib Outcome Net Dns

/-- What is asked. -/
inductive Lookup where
  /-- The system, by `lookup_host`. -/
  | system (host : List Char) (port : UInt16)
  /-- The bootstrap resolvers. -/
  | bootstrap (host : List Char)
  deriving DecidableEq

/-- The cache, and what has been asked so far. -/
structure Lookups where
  /-- The cache. -/
  cache : BootstrapCache
  /-- What has been asked. -/
  made : List Lookup

/-- Both lookups at a resolver, and when it looks into the cache and writes to it. -/
structure Attempt where
  /-- The resolver. -/
  resolver : SocketAddr
  /-- The query for IPv4 addresses. -/
  a : Exchange
  /-- The query for IPv6 addresses. -/
  aaaa : Exchange
  /-- When it looks into the cache. -/
  loadedAt : UInt64
  /-- When it writes to the cache. -/
  storedAt : UInt64

/-- What the network does when a host is looked up. -/
structure Network (bootstrapDns : List SocketAddr) where
  /-- `tokio::net::lookup_host`. -/
  lookupHost : List Char → UInt16 → Option (List SocketAddr)
  /-- The resolvers, in the order in which they are done. -/
  completed : List Attempt
  /-- The resolvers that never are. -/
  stuck : List SocketAddr
  /-- These are the ones that are configured. -/
  perm : (completed.map Attempt.resolver ++ stuck).Perm bootstrapDns

/-- Something is asked. -/
def Lookups.ask (s : Lookups) (lookup : Lookup) : Lookups := { s with made := s.made ++ [lookup] }

/-- Both lookups at a resolver, or what the cache knows. -/
def resolveWithBootstrapResolver (x : Attempt) (host : List Char) :
    Proc Lookups DoHError (List IpAddr) := do
  let normalizedHost ← Proc.lift (match normalizeBootstrapHost host with
    | some host => .ok host
    | none => .err .upstreamIssue)
  match ← Proc.reads fun s =>
    .ok (loadBootstrapCache s.cache ⟨x.resolver, normalizedHost⟩ x.loadedAt) with
  | some cachedAddrs => return cachedAddrs
  | none =>
    let queryHost := trimEndDots normalizedHost
    let aRes ← Proc.lift (resolveOneBootstrap queryHost bootstrapDnsTypeA x.a)
    let aaaaRes ← Proc.lift (resolveOneBootstrap queryHost bootstrapDnsTypeAaaa x.aaaa)
    let addrs := aRes.addrs ++ aaaaRes.addrs
    Proc.modifies fun s => .ok { s with
      cache := storeBootstrapCache s.cache ⟨x.resolver, normalizedHost⟩ addrs
        (min aRes.minTtlSecs aaaaRes.minTtlSecs) x.storedAt }
    return addrs

/-- The loop over the resolvers that get done. After it, it waits for those that never are. Nothing is
in the cache that an earlier round has stored, since a success is the end of the loop. -/
def awaitResolvers (host : List Char) (stuck : List SocketAddr) :
    List Attempt → Option DoHError → Lookups → Outcome DoHError (List IpAddr) × Lookups
  | [], lastErr, s => (if stuck = [] then .err (lastErr.getD .upstreamIssue) else .timeout, s)
  | x :: xs, _, s =>
    match resolveWithBootstrapResolver x host s with
    | (.err e, s) => awaitResolvers host stuck xs (some e) s
    | success => success

section

variable {bootstrapDns : List SocketAddr}

/-- All bootstrap resolvers at once. -/
def resolveUpstreamIpsWithBootstrap (net : Network bootstrapDns) (host : List Char) :
    Proc Lookups DoHError (List IpAddr) :=
  fun s => awaitResolvers host net.stuck net.completed none (s.ask (.bootstrap host))

/-- The addresses of an upstream server. -/
def resolveUpstreamAddrs (net : Network bootstrapDns) (host : List Char) (port : UInt16) :
    Proc Lookups DoHError (List SocketAddr) :=
  match IpAddr.fromStr host with
  | some ip => return [.new ip port]
  | none =>
    if bootstrapDns = [] then do
      Proc.modifies fun s => .ok (s.ask (.system host port))
      match net.lookupHost host port with
      | none => Proc.lift (.err .upstreamIssue)
      | some addrs => do
        Proc.lift (ensure (addrs ≠ []) .upstreamIssue)
        return addrs
    else do
      let ips ← resolveUpstreamIpsWithBootstrap net host
      let addrs := ips.map fun ip => SocketAddr.new ip port
      Proc.lift (ensure (addrs ≠ []) .upstreamIssue)
      return addrs

end

/-! ### What a resolver brings -/

/-- The addresses that the two lookups at a resolver bring, if both succeed. -/
def Attempt.lookups (host : List Char) (x : Attempt) : Option (List IpAddr) :=
  (normalizeBootstrapHost host).bind fun host =>
    match resolveOneBootstrap (trimEndDots host) bootstrapDnsTypeA x.a,
      resolveOneBootstrap (trimEndDots host) bootstrapDnsTypeAaaa x.aaaa with
    | .ok aRes, .ok aaaaRes => some (aRes.addrs ++ aaaaRes.addrs)
    | _, _ => none

/-- What a resolver brings for a host. None is asked about an address. -/
def Attempt.found (host : List Char) (x : Attempt) : Option (List IpAddr) :=
  if (IpAddr.fromStr host).isSome then none else x.lookups host

/-- Some resolver brings an address. -/
def Brought (host : List Char) (completed : List Attempt) : Prop :=
  ∃ x ∈ completed, ∃ ips, x.found host = some ips ∧ ips ≠ []

/-- The first resolver for which both lookups succeed brings no address. -/
def EmptyWins (host : List Char) (completed : List Attempt) : Prop :=
  completed.findSome? (Attempt.found host) = some []

/-- The addresses are those of a resolver, with the port. -/
def Found (host : List Char) (port : UInt16) (completed : List Attempt)
    (r : Outcome DoHError (List SocketAddr)) : Prop :=
  ∃ addrs, r = .ok addrs ∧ addrs ≠ [] ∧ ∃ x ∈ completed, ∃ ips, x.found host = some ips ∧
    addrs = ips.map fun ip => .new ip port

variable {host : List Char} {x : Attempt} {s : Lookups} {completed : List Attempt}

theorem writeLabels_finished : ∀ labels : List (List Char), (writeLabels labels).Finished := by
  intro labels
  induction labels with
  | nil => trivial
  | cons label labels ih =>
    exact Safe.finished (Q := fun _ => True) (safe_ensure.bind fun _ _ _ =>
      (safe_true_iff.mpr ih).bind fun _ _ _ => trivial)

theorem resolveOneBootstrap_finished (host : List Char) (qtype : UInt16) (exchange : Exchange) :
    (resolveOneBootstrap host qtype exchange).Finished := by
  have hquery : Safe (fun _ => True) (buildBootstrapDnsQuery exchange.queryId host qtype) :=
    safe_ensure.bind fun _ _ _ =>
      (safe_true_iff.mpr (writeLabels_finished _)).bind fun _ _ _ => trivial
  refine Safe.finished (hquery.bind (R := fun _ => True) fun _ _ _ => ?_)
  cases exchange.received with
  | error e => trivial
  | ok packet => exact safe_true_iff.mpr (parseBootstrapDnsResponse_finished packet _ qtype)

/-- What a resolver comes to when the cache is empty. -/
theorem resolveWithBootstrapResolver_eq (x : Attempt) (host : List Char) (hs : s.cache = ∅) :
    (∃ ips cache, x.lookups host = some ips ∧
      resolveWithBootstrapResolver x host s = (.ok ips, { s with cache := cache })) ∨
    ∃ e, x.lookups host = none ∧ resolveWithBootstrapResolver x host s = (.err e, s) := by
  cases hn : normalizeBootstrapHost host with
  | none =>
    refine .inr ⟨.upstreamIssue, by rw [Attempt.lookups, hn]; rfl, ?_⟩
    simp only [resolveWithBootstrapResolver, hn, Proc.bind_apply, Proc.lift_apply, Proc.next_err]
  | some name =>
    have hload : loadBootstrapCache s.cache ⟨x.resolver, name⟩ x.loadedAt = none := by
      rw [hs, loadBootstrapCache, Finmap.lookup_empty]
    simp only [resolveWithBootstrapResolver, Attempt.lookups, hn, Option.bind_some,
      Proc.bind_apply, Proc.lift_apply, Proc.reads_apply, Proc.next_ok, hload]
    -- an error of the query for IPv4 addresses comes first
    have hfin := resolveOneBootstrap_finished (trimEndDots name) bootstrapDnsTypeA x.a
    have hfin' := resolveOneBootstrap_finished (trimEndDots name) bootstrapDnsTypeAaaa x.aaaa
    cases ha : resolveOneBootstrap (trimEndDots name) bootstrapDnsTypeA x.a with
    | ok aRes =>
      cases haaaa : resolveOneBootstrap (trimEndDots name) bootstrapDnsTypeAaaa x.aaaa with
      | ok aaaaRes => exact .inl ⟨_, _, rfl, rfl⟩
      | err e => exact .inr ⟨e, rfl, rfl⟩
      | panic => rw [haaaa] at hfin'; exact hfin'.elim
      | timeout => rw [haaaa] at hfin'; exact hfin'.elim
    | err e => exact .inr ⟨e, rfl, rfl⟩
    | panic => rw [ha] at hfin; exact hfin.elim
    | timeout => rw [ha] at hfin; exact hfin.elim

/-- A resolver asks nothing beyond its round. -/
theorem resolveWithBootstrapResolver_keeps (x : Attempt) (host : List Char) :
    Proc.Keeps Lookups.made (resolveWithBootstrapResolver x host) := by
  refine (Proc.keeps_lift _ _).bind fun name => (Proc.keeps_reads _ _).bind fun cached => ?_
  cases cached with
  | some addrs => exact Proc.keeps_pure _ _
  | none =>
    refine (Proc.keeps_lift _ _).bind fun aRes => (Proc.keeps_lift _ _).bind fun aaaaRes => ?_
    exact Proc.Keeps.bind (fun _ => rfl) fun _ => Proc.keeps_pure _ _

theorem awaitResolvers_made (stuck : List SocketAddr) (lastErr : Option DoHError) (s : Lookups) :
    (awaitResolvers host stuck completed lastErr s).2.made = s.made := by
  induction completed generalizing lastErr s with
  | nil => rfl
  | cons x completed ih =>
    have hmade := resolveWithBootstrapResolver_keeps x host s
    rw [awaitResolvers]
    split
    · next e s' h => rw [ih, ← hmade, h]
    · exact hmade

/-- What a resolver does to the cache, the steps of a lookup do. -/
theorem resolveWithBootstrapResolver_steps (x : Attempt) (host : List Char) (s : Lookups) :
    ∃ as s', bootstrap.exec System.Always ⟨s.cache, []⟩ as = some s' ∧
      s'.cache = (resolveWithBootstrapResolver x host s).2.cache := by
  cases hn : normalizeBootstrapHost host with
  | none =>
    refine ⟨[], _, rfl, ?_⟩
    simp only [resolveWithBootstrapResolver, hn, Proc.bind_apply, Proc.lift_apply, Proc.next_err]
  | some name =>
    cases hload : loadBootstrapCache s.cache ⟨x.resolver, name⟩ x.loadedAt with
    | some addrs =>
      refine ⟨[], _, rfl, ?_⟩
      simp only [resolveWithBootstrapResolver, hn, hload, Proc.bind_apply, Proc.lift_apply,
        Proc.reads_apply, Proc.next_ok]
      rfl
    | none =>
      refine ⟨[.start x.resolver host x.loadedAt,
        .finish ⟨x.resolver, name⟩ x.a x.aaaa x.storedAt], ?_⟩
      simp only [System.exec, bootstrap, resolveStep, hn, hload, if_true, Option.bind_some,
        List.mem_singleton, resolveWithBootstrapResolver, Proc.bind_apply, Proc.lift_apply,
        Proc.reads_apply, Proc.next_ok]
      cases resolveOneBootstrap (trimEndDots name) bootstrapDnsTypeA x.a <;>
        cases resolveOneBootstrap (trimEndDots name) bootstrapDnsTypeAaaa x.aaaa <;>
        exact ⟨_, rfl, rfl⟩

/-- **The loop**: the first resolver for which both lookups succeed decides. -/
theorem awaitResolvers_eq (stuck : List SocketAddr) (hs : s.cache = ∅) {ips : List IpAddr}
    (h : completed.findSome? (Attempt.lookups host) = some ips) (lastErr : Option DoHError) :
    (awaitResolvers host stuck completed lastErr s).1 = .ok ips := by
  induction completed generalizing lastErr with
  | nil => cases h
  | cons x completed ih =>
    rw [List.findSome?_cons] at h
    rw [awaitResolvers]
    obtain ⟨ips', cache, hx, hok⟩ | ⟨e, hx, herr⟩ :=
      resolveWithBootstrapResolver_eq x host hs
    · rw [hx] at h
      obtain rfl := Option.some.inj h
      rw [hok]
    · rw [hx] at h
      rw [herr]
      exact ih h (some e)

section

variable {bootstrapDns : List SocketAddr}

/-- An address is not looked up. -/
theorem resolveUpstreamAddrs_of_fromStr (net : Network bootstrapDns) (port : UInt16) (s : Lookups)
    {ip : IpAddr} (h : IpAddr.fromStr host = some ip) :
    resolveUpstreamAddrs net host port s = (.ok [.new ip port], s) := by
  rw [resolveUpstreamAddrs, h]
  rfl

/-- **What is no address is looked up**, once: by the system if there is no bootstrap resolver. -/
theorem resolveUpstreamAddrs_made (net : Network bootstrapDns) (port : UInt16) (s : Lookups)
    (h : IpAddr.fromStr host = none) :
    (resolveUpstreamAddrs net host port s).2.made =
      s.made ++ [if bootstrapDns = [] then .system host port else .bootstrap host] := by
  have hensure : ∀ addrs : List SocketAddr, Proc.Keeps Lookups.made (do
      Proc.lift (ensure (addrs ≠ []) DoHError.upstreamIssue)
      return addrs) :=
    fun addrs => (Proc.keeps_lift _ _).bind fun _ => Proc.keeps_pure _ _
  rw [resolveUpstreamAddrs, h]
  by_cases hempty : bootstrapDns = []
  · rw [if_pos hempty, if_pos hempty]
    refine Proc.bind_snd _ (fun _ => ?_) s
    cases net.lookupHost host port with
    | none => exact Proc.keeps_lift _ _
    | some addrs => exact hensure addrs
  · rw [if_neg hempty, if_neg hempty]
    exact (Proc.bind_snd _ (fun ips => hensure _) s).trans
      (awaitResolvers_made net.stuck none _)

/-- What the winner of the race brings is what there is. -/
theorem resolveUpstreamAddrs_eq (net : Network bootstrapDns) (port : UInt16)
    (hhost : IpAddr.fromStr host = none) {ips : List IpAddr}
    (h : net.completed.findSome? (Attempt.lookups host) = some ips) :
    (resolveUpstreamAddrs net host port ⟨∅, []⟩).1 =
      if ips = [] then .err .upstreamIssue else .ok (ips.map fun ip => .new ip port) := by
  have hne : bootstrapDns ≠ [] := by
    rintro rfl
    have hlen := net.perm.length_eq
    cases hc : net.completed with
    | nil => rw [hc] at h; cases h
    | cons x completed => rw [hc] at hlen; simp at hlen
  have hloop : (resolveUpstreamIpsWithBootstrap net host ⟨∅, []⟩).1 = .ok ips :=
    awaitResolvers_eq net.stuck rfl h none
  simp only [resolveUpstreamAddrs, hhost, if_neg hne, Proc.bind_apply, hloop, Proc.next_ok,
    Proc.lift_apply]
  split
  · next h => rw [h, List.map_nil, ensure_neg (by simp), Proc.next_err]
  · next h => rw [ensure_pos (by simpa using h), Proc.next_ok]; rfl

/-- **An address that a resolver brings is found unless one that brings none wins the race**: for
any resolvers, whatever their lookups come to and in whatever order they get done. -/
theorem resolveUpstreamAddrs_found_iff (net : Network bootstrapDns) (host : List Char)
    (port : UInt16) :
    (Brought host net.completed →
      Found host port net.completed (resolveUpstreamAddrs net host port ⟨∅, []⟩).1) ↔
    (Brought host net.completed → ¬ EmptyWins host net.completed) := by
  refine imp_congr_right fun ⟨x, hmem, ips, hx, hne⟩ => ?_
  -- a resolver has been asked, so the host is no address
  have hhost : IpAddr.fromStr host = none := by
    by_contra h
    rw [Attempt.found, if_pos (Option.isSome_iff_ne_none.mpr h)] at hx
    cases hx
  have hfound : Attempt.found host = Attempt.lookups host := by
    funext y
    exact if_neg (by rw [hhost]; simp)
  cases hfirst : net.completed.findSome? (Attempt.lookups host) with
  | none => 
    have := List.findSome?_eq_none_iff.mp hfirst x hmem
    rw [← hfound, hx] at this
    cases this
  | some first =>
    rw [resolveUpstreamAddrs_eq net port hhost hfirst, EmptyWins, hfound, hfirst, Option.some.injEq]
    split
    · next h => exact iff_of_false (fun ⟨_, hok, _⟩ => nomatch hok) fun hnot => hnot h
    · next h =>
      obtain ⟨y, hy, hyfirst⟩ := List.exists_of_findSome?_eq_some hfirst
      exact iff_of_true ⟨_, rfl, by simpa using h, y, hy, first, by rw [hfound, hyfirst], rfl⟩ h

end

/-- Two resolvers: the first to be done fails for both families, which counts as a success without an
address, and the second has an address. -/
def failsFirst : Network [quad9, .v4 #v[9, 9, 9, 10] 53] where
  lookupHost _ _ := none
  completed := [⟨quad9, ⟨0, .ok servfail⟩, ⟨0, .ok servfail⟩, 1000, 2000⟩,
    ⟨.v4 #v[9, 9, 9, 10] 53, ⟨0, .ok withAddress⟩, ⟨0, .ok servfail⟩, 1000, 3000⟩]
  stuck := []
  perm := .refl _

/-- **An address is not found** when a resolver that brings none wins the race. -/
theorem empty_reply_wins :
    Brought ['a'] failsFirst.completed ∧
      (resolveUpstreamAddrs failsFirst ['a'] 443 ⟨∅, []⟩).1 = .err .upstreamIssue ∧
      ¬ (Brought ['a'] failsFirst.completed → Found ['a'] 443 failsFirst.completed
        (resolveUpstreamAddrs failsFirst ['a'] 443 ⟨∅, []⟩).1) := by
  have hhost : IpAddr.fromStr ['a'] = none := by decide +kernel
  have hfirst : failsFirst.completed.findSome? (Attempt.lookups ['a']) = some [] := by
    decide +kernel
  have hsecond : Attempt.found ['a'] ⟨.v4 #v[9, 9, 9, 10] 53, ⟨0, .ok withAddress⟩,
      ⟨0, .ok servfail⟩, 1000, 3000⟩ = some [.v4 #v[192, 0, 2, 1]] := by
    decide +kernel
  have hbrought : Brought ['a'] failsFirst.completed :=
    ⟨_, List.mem_cons_of_mem _ List.mem_cons_self, _, hsecond, by decide⟩
  have herr := resolveUpstreamAddrs_eq failsFirst 443 hhost hfirst
  rw [if_pos rfl] at herr
  refine ⟨hbrought, herr, fun h => ?_⟩
  obtain ⟨addrs, hok, -⟩ := h hbrought
  rw [herr] at hok
  cases hok

end DohProxy.Bootstrap
