import DohProxy.Dns.EcsOptions
import DohProxy.Dns.PayloadSize
import DohProxy.Errors

/-!
# What the upstreams are asked

The first half of `_proxy` of `lib.rs`: a query is told what payload there is room for and, if that
is configured, where the client is.

## The model

The rewriters change the query in place, and nobody looks at their errors (`ignoring`).

## What is proved

* `prepareQuery_eq_ok_iff` — when a query can be prepared: unless it is cut off where the option
  would be looked for.
* `prepareQuery_message` — **what the upstreams are asked**: the client's message, with one OPT
  record, which announces the payload size and has the client's subnet. Another proxy of the same
  kind would ask the same.
-/

namespace DohProxy.Server

open Lib Outcome Net
open Dns hiding Question

/-- What is configured for queries. -/
structure ProxyGlobals where
  /-- Whether the upstreams are told where the client is. -/
  enableEcs : Bool
  /-- How many bits of an IPv4 address they are told. -/
  ecsPrefixV4 : UInt8
  /-- How many bits of an IPv6 address they are told. -/
  ecsPrefixV6 : UInt8
  /-- The smallest TTL. -/
  minTtl : UInt32
  /-- The greatest TTL. -/
  maxTtl : UInt32
  /-- The TTL of failures. -/
  errTtl : UInt32

/-- `let _ = ..`: nobody looks at an error. -/
def ignoring {σ ε ε' α : Type} (m : Proc σ ε α) : Proc σ ε' (Option α) := fun s =>
  ((m s).1.option, (m s).2)

/-- What is done with a query before the upstreams are asked. -/
def prepareQuery (globals : ProxyGlobals) (clientIp : Option IpAddr) :
    Proc Packet DoHError Unit := do
  let _ ← ignoring (setEdnsMaxPayloadSize 4096)
  if globals.enableEcs then
    match clientIp with
    | some clientIp =>
      let _ ← ignoring (addEcsToPacket clientIp globals.ecsPrefixV4 globals.ecsPrefixV6)
    | none => return ()

section

variable {globals : ProxyGlobals} {clientIp : Option IpAddr} {query : Packet}

/-- The address that the upstreams are told about. -/
def ProxyGlobals.told (globals : ProxyGlobals) (clientIp : Option IpAddr) : Option IpAddr :=
  if globals.enableEcs then clientIp else none

/-- Where nobody looks at the error, the rest comes next. -/
theorem ignoring_bind {σ ε ε' α β : Type} {m : Proc σ ε α} {s : σ} (f : Proc σ ε' β)
    (h : (m s).1.Finished) : ((ignoring m : Proc σ ε' (Option α)) >>= fun _ => f) s =
      f (m s).2 := by
  rw [Proc.bind_apply, ignoring]
  cases hm : (m s).1 with
  | ok | err => rfl
  | panic | timeout => rw [hm] at h; exact h.elim

theorem ignoring_bind_eq_ok_iff {σ ε ε' α : Type} {m : Proc σ ε α} {s : σ} :
    (((ignoring m : Proc σ ε' (Option α)) >>= fun _ => pure ()) s).1 = .ok () ↔
      (m s).1.Finished := by
  rw [Proc.bind_apply, ignoring]
  cases (m s).1 <;> simp [Proc.next, Outcome.option, Proc.pure_apply]

theorem ignoring_bind_finished {σ ε ε' α : Type} {m : Proc σ ε α} {s : σ}
    (h : (((ignoring m : Proc σ ε' (Option α)) >>= fun _ => pure ()) s).1.Finished) :
    (m s).1.Finished := by
  rw [Proc.bind_apply, ignoring] at h
  cases hm : (m s).1 with
  | ok | err => trivial
  | panic | timeout =>
    rw [hm] at h
    exact h.elim

/-- Without an address only the payload size is set. -/
theorem prepareQuery_of_none (h : globals.told clientIp = none) :
    prepareQuery globals clientIp query = (.ok (), (setEdnsMaxPayloadSize 4096 query).2) := by
  unfold prepareQuery
  rw [ignoring_bind _ (setEdnsMaxPayloadSize_spec 4096 query).1]
  unfold ProxyGlobals.told at h
  split
  · next hecs =>
    rw [if_pos hecs] at h
    rw [h]
    rfl
  · rfl

/-- With one, the option is added next. -/
theorem prepareQuery_of_some {ip : IpAddr} (h : globals.told clientIp = some ip) :
    prepareQuery globals clientIp query =
      (ignoring (addEcsToPacket ip globals.ecsPrefixV4 globals.ecsPrefixV6) >>= fun _ => pure ())
        (setEdnsMaxPayloadSize 4096 query).2 := by
  unfold prepareQuery
  rw [ignoring_bind _ (setEdnsMaxPayloadSize_spec 4096 query).1]
  unfold ProxyGlobals.told at h
  split at h
  · next hecs =>
    rw [if_pos hecs, h]
  · cases h

/-- **When a query can be prepared**: it is not cut off where the option would be looked for. -/
theorem prepareQuery_eq_ok_iff : (prepareQuery globals clientIp query).1 = .ok () ↔
    ¬ (globals.told clientIp ≠ none ∧ CutOff query) := by
  cases h : globals.told clientIp with
  | none =>
    rw [prepareQuery_of_none h]
    simp
  | some ip =>
    rw [prepareQuery_of_some h, ignoring_bind_eq_ok_iff, addEcsToPacket_finished_iff,
      (setEdnsMaxPayloadSize_spec 4096 query).2]
    simp

/-- Otherwise it stops the proxy. -/
theorem prepareQuery_eq_ok_of_finished (hfin : (prepareQuery globals clientIp query).1.Finished) :
    (prepareQuery globals clientIp query).1 = .ok () := by
  cases h : globals.told clientIp with
  | none => rw [prepareQuery_of_none h]
  | some ip =>
    rw [prepareQuery_of_some h] at hfin ⊢
    exact ignoring_bind_eq_ok_iff.mpr (ignoring_bind_finished hfin)

end

/-! ### Messages -/

section

variable {globals : ProxyGlobals} {clientIp : Option IpAddr} {query : Packet} {m m' m₁ : Message}
  {before after rs rs₁ : List Record} {opt : Record} {os : List EdnsOption}

/-- The option that tells where the client is, if the upstreams are told. -/
def ProxyGlobals.subnet (globals : ProxyGlobals) (clientIp : Option IpAddr) : List EdnsOption :=
  ((globals.told clientIp).map fun ip =>
    ecsOptionOf ip globals.ecsPrefixV4 globals.ecsPrefixV6).toList

/-- What is added to some options: nothing if they tell it already. -/
def ProxyGlobals.added (globals : ProxyGlobals) (clientIp : Option IpAddr)
    (os : List EdnsOption) : List EdnsOption :=
  if os.any fun o => o.code = ednsClientSubnet then [] else globals.subnet clientIp

/-- What the upstreams are asked for a query: its message with other additional records. To prepare
that once more changes nothing. -/
def Asked (globals : ProxyGlobals) (clientIp : Option IpAddr) (query : Packet) (m : Message)
    (rs : List Record) : Prop :=
  ∃ sent m', prepareQuery globals clientIp query = (.ok (), sent) ∧ segment sent = .ok m' ∧
    m.WithAdditionals m' rs ∧ prepareQuery globals clientIp sent = (.ok (), sent)

theorem withAdditionals_trans (h₁ : m.WithAdditionals m₁ rs₁) (h : m₁.WithAdditionals m' rs) :
    m.WithAdditionals m' rs := by
  obtain ⟨hid, hfl, hq, ha, hau, -⟩ := h₁
  obtain ⟨hid', hfl', hq', ha', hau', hrs⟩ := h
  exact ⟨hid'.trans hid, hfl'.trans hfl, hq'.trans hq, ha'.trans ha, hau'.trans hau, hrs⟩

/-- A query that is too large is left alone. -/
theorem setEdnsMaxPayloadSize_of_large (size : UInt16) (h : 4096 < query.length) :
    (setEdnsMaxPayloadSize size query).2 = query := by
  have hnot : ¬ ∃ rs, AdditionalRecords query rs ∧ optCount rs ≤ 1 :=
    fun ⟨rs, hrs, _⟩ => absurd hrs.1 (by omega)
  obtain ⟨msg, query', hrun, -, hsame⟩ := setEdnsMaxPayloadSize_of_not size hnot
  rw [hrun]
  exact hsame fun e he => absurd he.1 (by omega)

/-- A message that announces the payload size is left alone, however large it is. -/
theorem setEdnsMaxPayloadSize_settled (h : m.additionals = before ++ opt :: after)
    (hroot : opt.IsRootOpt) (hno : ∀ r ∈ before ++ after, r.rtype ≠ dnsTypeOpt)
    (hclass : opt.rclass = 4096) : (setEdnsMaxPayloadSize 4096 m.bytes).2 = m.bytes := by
  by_cases hlen : m.bytes.length ≤ 4096
  · rw [setEdnsMaxPayloadSize_again hlen h hroot.2 hno hclass]
  · exact setEdnsMaxPayloadSize_of_large _ (by omega)

/-- A message that has the option is left alone, and that is no panic. -/
theorem ignoring_addEcsToPacket_settled (h : m.additionals = before ++ opt :: after)
    (hroot : opt.IsRootOpt) (hno : ∀ r ∈ before, r.rtype ≠ dnsTypeOpt)
    (hos : opt.rdata = optionsBytes os) (hany : ∃ o ∈ os, o.code = ednsClientSubnet)
    (ip : IpAddr) (prefixV4 prefixV6 : UInt8) :
    ((ignoring (addEcsToPacket ip prefixV4 prefixV6) >>= fun _ => pure () :
      Proc Packet DoHError Unit)) m.bytes = (.ok (), m.bytes) := by
  have hsame := addEcsToPacket_again h hroot hno hos hany ip prefixV4 prefixV6
  have hfin : (addEcsToPacket ip prefixV4 prefixV6 m.bytes).1.Finished := by
    by_cases hlen : m.bytes.length ≤ 4096
    · rw [addEcsToPacket_extend hlen h hroot hno hos, if_pos (by simpa using hany)]
      trivial
    · rw [addEcsToPacket_of_large (by omega)]
      trivial
  rw [ignoring_bind _ hfin, hsame]
  rfl

/-- A message that announces the payload size gets the option after it, if it has none. -/
theorem asked_of_set (globals : ProxyGlobals) (clientIp : Option IpAddr)
    (hset : (setEdnsMaxPayloadSize 4096 query).2 = m.bytes) (hlen : m.bytes.length ≤ 4096)
    (h : m.additionals = before ++ opt :: after)
    (hroot : opt.IsRootOpt) (hno : ∀ r ∈ before ++ after, r.rtype ≠ dnsTypeOpt)
    (hclass : opt.rclass = 4096) (hos : opt.rdata = optionsBytes os) :
    ∃ opt', opt.Extends opt' (optionsBytes (globals.added clientIp os)) ∧
      Asked globals clientIp query m (before ++ opt' :: after) := by
  have hbefore : ∀ r ∈ before, r.rtype ≠ dnsTypeOpt := fun r hr => hno r (List.mem_append_left _ hr)
  have hsettled := setEdnsMaxPayloadSize_settled h hroot hno hclass
  unfold ProxyGlobals.added ProxyGlobals.subnet
  cases htold : globals.told clientIp with
  | none =>
    refine ⟨opt, ?_, m.bytes, m, ?_, segment_complete m, ⟨rfl, rfl, rfl, rfl, rfl, h⟩, ?_⟩
    · simp [Record.Extends]
    · rw [prepareQuery_of_none htold, hset]
    · rw [prepareQuery_of_none htold, hsettled]
  | some ip =>
    by_cases hany : ∃ o ∈ os, o.code = ednsClientSubnet
    · have hkept := ignoring_addEcsToPacket_settled h hroot hbefore hos hany ip
        globals.ecsPrefixV4 globals.ecsPrefixV6
      refine ⟨opt, ?_, m.bytes, m, ?_, segment_complete m, ⟨rfl, rfl, rfl, rfl, rfl, h⟩, ?_⟩
      · rw [if_pos (by simpa using hany)]
        simp [Record.Extends]
      · rw [prepareQuery_of_some htold, hset, hkept]
      · rw [prepareQuery_of_some htold, hsettled, hkept]
    · have hnone : ¬ (os.any fun o => o.code = ednsClientSubnet) = true := by simpa using hany
      have hfit := fits_ecsOption hlen h ip globals.ecsPrefixV4 globals.ecsPrefixV6
      have hadd := addEcsToPacket_extend hlen h hroot hbefore hos ip globals.ecsPrefixV4
        globals.ecsPrefixV6
      rw [if_neg hnone] at hadd
      -- the message with the option after the others
      have hm' : (m.extend (ecsOption ip globals.ecsPrefixV4 globals.ecsPrefixV6) h
          hfit).additionals = before ++ { opt with
            rdata := opt.rdata ++ ecsOption ip globals.ecsPrefixV4 globals.ecsPrefixV6,
            fits := hfit } :: after := rfl
      have hos' : opt.rdata ++ ecsOption ip globals.ecsPrefixV4 globals.ecsPrefixV6 =
          optionsBytes (os ++ [ecsOptionOf ip globals.ecsPrefixV4 globals.ecsPrefixV6]) := by
        rw [optionsBytes_concat, ← hos, ecsOptionOf_bytes]
      refine ⟨_, ?_, _, m.extend (ecsOption ip globals.ecsPrefixV4 globals.ecsPrefixV6) h hfit, ?_,
        segment_complete _, ⟨rfl, rfl, rfl, rfl, rfl, hm'⟩, ?_⟩
      · rw [if_neg hnone]
        refine ⟨rfl, rfl, rfl, rfl, ?_⟩
        rw [Option.map_some, Option.toList_some, optionsBytes_cons, optionsBytes_nil,
          List.append_nil, ecsOptionOf_bytes]
      · rw [prepareQuery_of_some htold, hset, ignoring_bind _ (by rw [hadd]; trivial), hadd]
        rfl
      · rw [prepareQuery_of_some htold, setEdnsMaxPayloadSize_settled hm' hroot hno hclass,
          ignoring_addEcsToPacket_settled hm' hroot hbefore hos'
            ⟨_, List.mem_append_right _ (List.mem_singleton_self _), rfl⟩]

/-- **What the upstreams are asked** for a message with at most one OPT record, of the root and made
of options: the same message, with one OPT record that announces the payload size and tells where
the client is, unless it tells that already. -/
theorem prepareQuery_message (globals : ProxyGlobals) (clientIp : Option IpAddr)
    (hm : segment query = .ok m) (hlen : query.length ≤ 4085) :
    ((∀ r ∈ m.additionals, r.rtype ≠ dnsTypeOpt) →
      ∃ opt', (optRecord 4096).Extends opt' (optionsBytes (globals.subnet clientIp)) ∧
        Asked globals clientIp query m (m.additionals ++ [opt'])) ∧
    ∀ before opt after os, m.additionals = before ++ opt :: after → opt.IsRootOpt →
      (∀ r ∈ before ++ after, r.rtype ≠ dnsTypeOpt) → opt.rdata = optionsBytes os →
      ∃ opt', { opt with rclass := 4096 }.Extends opt' (optionsBytes (globals.added clientIp os)) ∧
        Asked globals clientIp query m (before ++ opt' :: after) := by
  rw [segment_eq_ok_iff] at hm
  subst hm
  constructor
  · intro hno
    have hcount := (m.additionalRecords (by omega)).count_lt
    rw [m.be16At_ten, UInt16.lt_iff_toNat_lt, toNat_ofNat_count m.counts.2.2] at hcount
    have hset : setEdnsMaxPayloadSize 4096 m.bytes =
      (.ok (), (m.push (optRecord 4096) hcount).bytes) := setEdnsMaxPayloadSize_push hlen hno hcount
    obtain ⟨opt', hext, sent, m', hsent, hseg, hwith, hagain⟩ := asked_of_set globals clientIp
      (congrArg Prod.snd hset) (by rw [m.length_push_opt]; omega)
      (show (m.push (optRecord 4096) hcount).additionals = m.additionals ++ optRecord 4096 :: []
        from rfl) ⟨rfl, rfl⟩ (by simpa using hno) rfl (show (optRecord 4096).rdata = optionsBytes []
        from rfl)
    have hpush : m.WithAdditionals (m.push (optRecord 4096) hcount)
      (m.additionals ++ [optRecord 4096]) := ⟨rfl, rfl, rfl, rfl, rfl, rfl⟩
    exact ⟨opt', hext, sent, m', hsent, hseg, withAdditionals_trans hpush hwith, hagain⟩
  · intro before opt after os h hroot hno hos
    have hset : setEdnsMaxPayloadSize 4096 m.bytes = (.ok (), (m.setClass 4096 h).bytes) :=
      setEdnsMaxPayloadSize_setClass (by omega) h hroot.2 hno
    obtain ⟨opt', hext, sent, m', hsent, hseg, hwith, hagain⟩ := asked_of_set globals clientIp
      (congrArg Prod.snd hset) (by rw [m.length_setClass h]; omega)
      (show (m.setClass 4096 h).additionals = before ++ { opt with rclass := 4096 } :: after
        from rfl) hroot hno rfl hos
    have hclass : m.WithAdditionals (m.setClass 4096 h)
      (before ++ { opt with rclass := 4096 } :: after) := ⟨rfl, rfl, rfl, rfl, rfl, rfl⟩
    exact ⟨opt', hext, sent, m', hsent, hseg, withAdditionals_trans hclass hwith, hagain⟩

/-- The upstreams are told 24 bits of an IPv4 address. -/
def tellingGlobals : ProxyGlobals := ⟨true, 24, 56, 10, 604800, 2⟩

/-- The query for the root gets an OPT record that tells where the client is. -/
theorem prepareQuery_message_root :
    ∃ opt', (optRecord 4096).Extends opt'
        (optionsBytes (tellingGlobals.subnet (some (.v4 #v[203, 0, 113, 5])))) ∧
      Asked tellingGlobals (some (.v4 #v[203, 0, 113, 5])) (rootQuery [] (by decide)).bytes
        (rootQuery [] (by decide)) [opt'] :=
  (prepareQuery_message tellingGlobals (some (.v4 #v[203, 0, 113, 5])) (segment_complete _)
    (by decide)).1 (by decide)

end

end DohProxy.Server
