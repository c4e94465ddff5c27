import DohProxy.Dns.SmallestTtl
import DohProxy.Server.H3Request
import DohProxy.Server.Prepare
import DohProxy.Upstream.Waiting

/-!
# From a query to a response

`_proxy` of `lib.rs`: a query is prepared, the upstreams are asked, and their reply gets a TTL and
is padded.

## The model

What an upstream says may depend on all of the query, and it may never say anything (`Upstreams`).

## What is proved

* `proxy_finished_iff` — **when a query stops the proxy**: when it is cut off, or an upstream is
  waited for that never answers.
* `proxy_answered` — **what the client gets**: an upstream's reply, which is at most padded, and for
  how long it may be kept; and when it gets an error instead.
-/

namespace DohProxy.Server

open Lib Outcome Net
open Dns hiding Question

/-- The upstreams. -/
structure Upstreams where
  /-- The way of asking. -/
  mode : Upstream.UpstreamMode
  /-- Those that are asked. -/
  asked : List AskedUpstream
  /-- What is left to chance. -/
  schedule : ∀ query : Packet, Upstream.Schedule (Upstream.upstreamsOf query asked).length
  /-- How addresses are compared. -/
  race : Packet → Upstream.Race

/-- A query waits for an upstream that never answers. -/
def Upstreams.waits (upstreams : Upstreams) (query : Packet) : Bool :=
  Upstream.waits upstreams.mode query upstreams.asked (upstreams.schedule query)

/-- `upstream::exchange`. -/
def Upstreams.exchange (upstreams : Upstreams) (query : Packet) :
    Outcome Empty Upstream.ExchangeOutcome :=
  Upstream.exchangeAsked upstreams.mode query upstreams.asked (upstreams.schedule query)
    (upstreams.race query)

/-- A packet is made of the reply of an upstream. -/
def Upstreams.Says (upstreams : Upstreams) (query packet : Packet) : Prop :=
  Upstream.AskedSays upstreams.mode query upstreams.asked packet

/-- Whether a reply is a failure that may pass. -/
def isRecoverableError (packet : Packet) : Outcome Error Bool := do
  let rcode ← rcode packet
  return rcode = 2 || rcode = 5

/-- For how long a reply may be kept. -/
def responseTtl (globals : ProxyGlobals) (packet : Packet) : Outcome DoHError UInt32 := do
  if ← (isRecoverableError packet).mapErr fun _ => DoHError.upstreamIssue then return globals.errTtl
  else (minTtl packet globals.minTtl globals.maxTtl globals.errTtl).mapErr fun _ => .upstreamIssue

/-- `_proxy`: the response, and the statistics. -/
def proxy (globals : ProxyGlobals) (upstreams : Upstreams) (query : Packet)
    (clientIp : Option IpAddr) : Outcome DoHError (DnsResponse × Upstream.QueryStatistics) := do
  ensure (query.length ≥ minDnsPacketLen) .incomplete
  let (prepared, query) := prepareQuery globals clientIp query
  prepared
  let outcome ← (upstreams.exchange query).mapErr Empty.elim
  match outcome.packet with
  | .error e => .err e
  | .ok packet => do
    let ttl ← responseTtl globals packet
    let (padded, packet) := ignoring addEdnsPadding packet
    let _ ← padded
    return (⟨packet, ttl⟩, outcome.queryStats)

/-! ### What the client gets -/

section

variable {globals : ProxyGlobals} {packet : Packet} {m : Message}

/-- The response code says that the upstream has failed, or refuses to answer. -/
def Recoverable (packet : Packet) : Prop :=
  packet.getD 3 0 &&& 0x0f = 2 ∨ packet.getD 3 0 &&& 0x0f = 5

instance : DecidablePred Recoverable := fun _ => inferInstanceAs (Decidable (_ ∨ _))

theorem isRecoverableError_of_le (h : 4 ≤ packet.length) :
    isRecoverableError packet = .ok (decide (Recoverable packet)) := by
  rw [isRecoverableError, rcode, index_pos (by omega), ok_bind]
  simp [Recoverable, List.getD_eq_getElem?_getD,
    List.getElem?_eq_getElem (show 3 < packet.length by omega)]

/-- For how long a reply may be kept: as long as failures, or as long as its records, within
bounds. -/
def KeptFor (globals : ProxyGlobals) (packet : Packet) (ttl : UInt32) : Prop :=
  Recoverable packet ∧ ttl = globals.errTtl ∨ ¬ Recoverable packet ∧ packet.length ≤ 4096 ∧
    ∃ m, segment packet = .ok m ∧ m.records ≠ [] ∧
      ttl = max globals.minTtl ((ttlsOf m.records).foldl min globals.maxTtl)

theorem minTtl_eq_ok_iff {lo hi failureTtl ttl : UInt32} :
    minTtl packet lo hi failureTtl = .ok ttl ↔ packet.length ≤ 4096 ∧
      ∃ m, segment packet = .ok m ∧ m.records ≠ [] ∧
        ttl = max lo ((ttlsOf m.records).foldl min hi) := by
  constructor
  · intro h
    obtain ⟨m, rfl, hlen⟩ := exists_message_of_minTtl h
    rw [minTtl_bytes m hlen] at h
    split at h
    · cases h
    · next hne => exact ⟨hlen, m, segment_complete m, hne, (Outcome.ok.inj h).symm⟩
  · rintro ⟨hlen, m, hm, hne, rfl⟩
    obtain rfl := segment_eq_ok_iff.mp hm
    rw [minTtl_bytes m hlen, if_neg hne]

theorem responseTtl_of_le (h : 4 ≤ packet.length) :
    responseTtl globals packet = if Recoverable packet then .ok globals.errTtl
      else (minTtl packet globals.minTtl globals.maxTtl globals.errTtl).mapErr
        fun _ => .upstreamIssue := by
  rw [responseTtl, isRecoverableError_of_le h, mapErr, ok_bind]
  exact if_congr decide_eq_true_iff rfl rfl

theorem responseTtl_eq_ok_iff {ttl : UInt32} (h : 4 ≤ packet.length) :
    responseTtl globals packet = .ok ttl ↔ KeptFor globals packet ttl := by
  rw [responseTtl_of_le h, KeptFor]
  split
  · next hrec =>
    simp only [hrec, Outcome.ok.injEq, true_and, not_true, false_and, or_false, eq_comm]
  · next hrec =>
    simp only [hrec, mapErr_eq_ok, minTtl_eq_ok_iff, false_and, not_false_iff, true_and, false_or]

/-- Without a TTL there is an error. -/
theorem responseTtl_cases (globals : ProxyGlobals) (h : 4 ≤ packet.length) :
    (∃ ttl, responseTtl globals packet = .ok ttl) ∨
      responseTtl globals packet = .err .upstreamIssue := by
  rw [responseTtl_of_le h]
  split
  · exact .inl ⟨_, rfl⟩
  · have hfin := minTtl_finished packet globals.minTtl globals.maxTtl globals.errTtl
    cases ht : minTtl packet globals.minTtl globals.maxTtl globals.errTtl with
    | ok ttl => exact .inl ⟨ttl, rfl⟩
    | err => exact .inr rfl
    | panic | timeout => rw [ht] at hfin; exact hfin.elim

/-- Padding leaves the header as it is, but for the number of additional records. -/
theorem take_addEdnsPadding (packet : Packet) :
    (addEdnsPadding packet).2.take 10 = packet.take 10 := by
  rcases additionalRecords_cases packet with hnot | ⟨rs, hrs, hzero⟩ | ⟨rs, hrs, hone⟩
  · obtain ⟨msg, h⟩ := addEdnsPadding_of_not hnot
    rw [h]
  · obtain ⟨-, -, off, -, hat, -⟩ := id hrs
    obtain ⟨hle, hle'⟩ := hat.le_length
    have htake : ∀ count, (setU16 packet 10 count ++ (optRecord 4096).bytes).take 10 =
        packet.take 10 := by
      intro count
      rw [List.take_append_of_le_length (by rw [length_setU16]; omega), take_setU16 _ _ le_rfl]
    rw [addEdnsPadding_of_none hrs hzero]
    split
    · next hroom =>
      rw [padAt_optRecord hroom]
      split
      · rw [List.take_append_of_le_length
          (by rw [length_setU16, List.length_append, length_setU16]; omega),
          take_setU16 _ _ (by omega), htake]
      · exact htake _
    · rfl
  · obtain ⟨e, hle, he, h⟩ := addEdnsPadding_of_one hrs hone
    rw [h, padAt_of_fits he hrs.1]
    split
    · rw [List.take_append_of_le_length (by rw [length_setU16]; omega), take_setU16 _ _ (by omega)]
    · rfl

/-- Where padding fails, the message is as it was, or has an empty OPT record more. -/
theorem addEdnsPadding_err (hfail : (addEdnsPadding m.bytes).1 ≠ .ok ()) :
    (addEdnsPadding m.bytes).2 = m.bytes ∨
      ∃ hc, (addEdnsPadding m.bytes).2 = (m.push (optRecord 4096) hc).bytes := by
  rcases additionalRecords_cases m.bytes with hnot | ⟨rs, hrs, hzero⟩ | ⟨rs, hrs, hone⟩
  · obtain ⟨msg, h⟩ := addEdnsPadding_of_not hnot
    rw [h]
    exact .inl rfl
  · have hcount := hrs.count_lt
    rw [m.be16At_ten, UInt16.lt_iff_toNat_lt, toNat_ofNat_count m.counts.2.2] at hcount
    rw [addEdnsPadding_of_none hrs hzero] at hfail ⊢
    split at hfail
    · next hroom =>
      rw [if_pos hroom]
      rw [padAt_optRecord hroom] at hfail ⊢
      split at hfail
      · exact absurd rfl hfail
      · next hfull =>
        rw [if_neg hfull]
        exact .inr ⟨hcount, by rw [m.push_bytes, m.be16At_ten]⟩
    · next hroom =>
      rw [if_neg hroom]
      exact .inl rfl
  · obtain ⟨e, -, he, h⟩ := addEdnsPadding_of_one hrs hone
    rw [h, padAt_of_fits he hrs.1] at hfail ⊢
    split at hfail
    · exact absurd rfl hfail
    · next hfull =>
      rw [if_neg hfull]
      exact .inl rfl

/-- **A reply is answered as it is**: padding leaves its question, its answers and its authorities
alone. -/
theorem addEdnsPadding_sections (hm : segment packet = .ok m) (hclosed : OptClosed m) :
    ∃ m', segment (addEdnsPadding packet).2 = .ok m' ∧ m'.question = m.question ∧
      m'.answers = m.answers ∧ m'.authorities = m.authorities := by
  rw [segment_eq_ok_iff] at hm
  subst hm
  by_cases hok : (addEdnsPadding m.bytes).1 = .ok ()
  · rcases addEdnsPadding_eq_ok (Prod.ext hok rfl) with
      ⟨before, opt, after, hm, hopt, hno, hp, hfit⟩ | ⟨hno, hc, hp, hfit⟩
    · obtain ⟨k, hk⟩ := hclosed before opt after hm hopt
      obtain ⟨m', opt', hb, hq, ha, hau, -⟩ :=
        exists_padded hm hfit (by rw [hk, flatten_replicate_comm])
      exact ⟨m', segment_eq_ok_iff.mpr (hb.trans hp.symm), hq, ha, hau⟩
    · obtain ⟨m', opt', hb, hq, ha, hau, -⟩ :=
        exists_padded (show (m.push (optRecord 4096) hc).additionals = m.additionals ++
          optRecord 4096 :: [] from rfl) (by simpa [optRecord] using hfit) (by simp)
      exact ⟨m', segment_eq_ok_iff.mpr (hb.trans hp.symm), hq, ha, hau⟩
  · rcases addEdnsPadding_err hok with h | ⟨hc, h⟩
    · exact ⟨m, segment_eq_ok_iff.mpr h.symm, rfl, rfl, rfl⟩
    · exact ⟨_, segment_eq_ok_iff.mpr h.symm, rfl, rfl, rfl⟩

end

/-! ### All together -/

section

variable {globals : ProxyGlobals} {upstreams : Upstreams} {query sent packet : Packet}
  {clientIp : Option IpAddr}

/-- A reply has a header. -/
theorem Upstreams.Says.le_length (h : upstreams.Says query packet) : 12 ≤ packet.length := by
  obtain ⟨asked, -, reply, -, m, hm, hsame⟩ := h
  obtain ⟨hlen, -⟩ := Upstream.Msg.unpack_eq_ok.mp hm
  rcases hsame with rfl | ⟨-, ip, hset⟩
  · exact hlen
  · rw [hset.length]
    exact hlen

/-- A query that is too short is not looked at. -/
theorem proxy_of_short (h : query.length < 17) :
    proxy globals upstreams query clientIp = .err .incomplete := by
  rw [proxy, ensure_neg (by simpa using h)]
  rfl

/-- What comes of a query that can be prepared, when the upstreams have said something. -/
def answer (globals : ProxyGlobals) (outcome : Upstream.ExchangeOutcome) :
    Outcome DoHError (DnsResponse × Upstream.QueryStatistics) :=
  match outcome.packet with
  | .error e => .err e
  | .ok packet => do
    let ttl ← responseTtl globals packet
    return (⟨(addEdnsPadding packet).2, ttl⟩, outcome.queryStats)

theorem proxy_of_prepared (hlen : 17 ≤ query.length) {outcome : Upstream.ExchangeOutcome}
    (hsent : prepareQuery globals clientIp query = (.ok (), sent))
    (hrun : upstreams.exchange sent = .ok outcome) :
    proxy globals upstreams query clientIp = answer globals outcome := by
  rw [proxy, ensure_pos (show query.length ≥ minDnsPacketLen from hlen), ok_bind, hsent]
  dsimp only
  rw [ok_bind, hrun, mapErr, ok_bind, answer]
  cases outcome.packet with
  | error e => rfl
  | ok packet =>
    dsimp only
    cases responseTtl globals packet with
    | ok ttl =>
      have hfin := (addEdnsPadding_spec packet).1
      rw [ok_bind, ok_bind, ignoring]
      dsimp only
      cases hpad : (addEdnsPadding packet).1 with
      | ok | err => rfl
      | panic | timeout => rw [hpad] at hfin; exact hfin.elim
    | err | panic | timeout => rfl

/-- The query waits. -/
theorem proxy_of_waits (hlen : 17 ≤ query.length)
    (hsent : prepareQuery globals clientIp query = (.ok (), sent))
    (hwaits : upstreams.waits sent = true) :
    proxy globals upstreams query clientIp = .timeout := by
  have hrun : upstreams.exchange sent = .timeout := if_pos hwaits
  rw [proxy, ensure_pos (show query.length ≥ minDnsPacketLen from hlen), ok_bind, hsent]
  dsimp only
  rw [ok_bind, hrun]
  rfl

/-- The query does not wait. -/
theorem Upstreams.exchange_says (upstreams : Upstreams) (hwaits : ¬ upstreams.waits sent = true) :
    ∃ outcome, upstreams.exchange sent = .ok outcome ∧
      (∀ packet, outcome.packet = .ok packet → upstreams.Says sent packet) ∧
      ∀ e, outcome.packet = .error e → ∀ asked ∈ upstreams.asked, asked.silent sent = false := by
  rcases Upstream.exchangeAsked_says upstreams.mode sent upstreams.asked (upstreams.schedule sent)
    (upstreams.race sent) with ⟨hwaits', -⟩ | ⟨-, outcome, hrun, hsaid, hfailed⟩
  · exact absurd hwaits' hwaits
  · exact ⟨outcome, hrun, hsaid, fun e he => (hfailed e he).2⟩

theorem finished_of_proxy (hlen : 17 ≤ query.length)
    (h : (proxy globals upstreams query clientIp).Finished) :
    (prepareQuery globals clientIp query).1.Finished := by
  rw [proxy, ensure_pos (show query.length ≥ minDnsPacketLen from hlen), ok_bind] at h
  dsimp only at h
  cases hsent : (prepareQuery globals clientIp query).1 with
  | ok | err => trivial
  | panic | timeout =>
    rw [hsent] at h
    exact h.elim

theorem answer_finished {outcome : Upstream.ExchangeOutcome}
    (h : ∀ packet, outcome.packet = .ok packet → upstreams.Says sent packet) :
    (answer globals outcome).Finished := by
  rw [answer]
  cases hp : outcome.packet with
  | error e => trivial
  | ok packet =>
    have hle := (h packet hp).le_length
    dsimp only
    rcases responseTtl_cases globals (show 4 ≤ packet.length by omega) with ⟨ttl, ht⟩ | ht
    · rw [ht]
      trivial
    · rw [ht]
      trivial

/-- **When a query stops the proxy**: it is long enough, and the upstreams are to be told where the
client is and it is cut off inside of an additional record of the root, or an upstream is waited for
that never answers. -/
theorem proxy_finished_iff (globals : ProxyGlobals) (upstreams : Upstreams) (query : Packet)
    (clientIp : Option IpAddr) : (proxy globals upstreams query clientIp).Finished ↔
      ¬ (17 ≤ query.length ∧ (globals.told clientIp ≠ none ∧ CutOff query ∨
        upstreams.waits (prepareQuery globals clientIp query).2 = true)) := by
  by_cases hlen : 17 ≤ query.length
  · simp only [hlen, true_and, not_or]
    rw [← prepareQuery_eq_ok_iff]
    constructor
    · intro hfin
      have hok := prepareQuery_eq_ok_of_finished (finished_of_proxy hlen hfin)
      refine ⟨hok, fun hwaits => ?_⟩
      rw [proxy_of_waits hlen (Prod.ext hok rfl) hwaits] at hfin
      exact hfin
    · rintro ⟨hok, hwaits⟩
      obtain ⟨outcome, hrun, hsaid, -⟩ := upstreams.exchange_says hwaits
      rw [proxy_of_prepared hlen (Prod.ext hok rfl) hrun]
      exact answer_finished hsaid
  · rw [proxy_of_short (by omega)]
    exact iff_of_true trivial fun h => hlen h.1

/-- What the client gets for what the upstreams have been asked. -/
structure Answers (globals : ProxyGlobals) (upstreams : Upstreams) (sent : Packet)
    (outcome : Upstream.ExchangeOutcome) (response : DnsResponse) : Prop where
  /-- It is a reply of an upstream, padded. -/
  reply : ∃ packet, outcome.packet = .ok packet ∧ upstreams.Says sent packet ∧
    response.packet = (addEdnsPadding packet).2 ∧ KeptFor globals packet response.ttl ∧
    response.packet.take 10 = packet.take 10 ∧
    response.packet.length ≤ max 4096 packet.length ∧
    ∀ m, segment packet = .ok m → OptClosed m → ∃ m', segment response.packet = .ok m' ∧
      m'.question = m.question ∧ m'.answers = m.answers ∧ m'.authorities = m.authorities

/-- **What the client gets**, if the query does not wait for an upstream that never answers: an
error of the upstreams, if all have failed; or an upstream's reply, to be kept for as long as
failures or as its records; or an error, if the reply is no failure, and is too long or has no
record. -/
theorem proxy_answered (globals : ProxyGlobals) (upstreams : Upstreams)
    (clientIp : Option IpAddr) (hlen : 17 ≤ query.length)
    (hcut : ¬ (globals.told clientIp ≠ none ∧ CutOff query)) :
    ∃ sent, prepareQuery globals clientIp query = (.ok (), sent) ∧
      (upstreams.waits sent = true ∧ proxy globals upstreams query clientIp = .timeout ∨
        upstreams.waits sent = false ∧ ∃ outcome, upstreams.exchange sent = .ok outcome ∧
          (∀ e, outcome.packet = .error e →
            proxy globals upstreams query clientIp = .err e ∧
              ∀ asked ∈ upstreams.asked, asked.silent sent = false) ∧
          ∀ packet, outcome.packet = .ok packet →
            ((∃ ttl, KeptFor globals packet ttl) → ∃ response,
              proxy globals upstreams query clientIp = .ok (response, outcome.queryStats) ∧
              Answers globals upstreams sent outcome response) ∧
            ((¬ ∃ ttl, KeptFor globals packet ttl) →
              proxy globals upstreams query clientIp = .err .upstreamIssue)) := by
  have hok := prepareQuery_eq_ok_iff.mpr hcut
  refine ⟨_, Prod.ext hok rfl, ?_⟩
  cases hwaits : upstreams.waits (prepareQuery globals clientIp query).2 with
  | true => exact .inl ⟨rfl, proxy_of_waits hlen (Prod.ext hok rfl) hwaits⟩
  | false =>
    obtain ⟨outcome, hrun, hsaid, hfailed⟩ :=
      upstreams.exchange_says (Bool.eq_false_iff.mp hwaits)
    have hproxy := proxy_of_prepared hlen (Prod.ext hok rfl) hrun
    refine .inr ⟨rfl, outcome, hrun, fun e he => ⟨?_, hfailed e he⟩, fun packet hpacket => ?_⟩
    · rw [hproxy, answer, he]
    · have hle := (hsaid packet hpacket).le_length
      have hfour : 4 ≤ packet.length := by omega
      rw [hproxy, answer, hpacket]
      dsimp only
      constructor
      · rintro ⟨ttl, httl⟩
        rw [(responseTtl_eq_ok_iff hfour).mpr httl]
        refine ⟨_, rfl, packet, hpacket, hsaid packet hpacket, rfl, httl,
          take_addEdnsPadding packet, (addEdnsPadding_spec packet).2,
          fun m hm hclosed => addEdnsPadding_sections hm hclosed⟩
      · intro hnot
        rcases responseTtl_cases globals hfour with ⟨ttl, ht⟩ | ht
        · exact absurd ⟨ttl, (responseTtl_eq_ok_iff hfour).mp ht⟩ hnot
        · rw [ht]
          rfl

/-- One upstream, which refuses every query. -/
def refusing : Upstreams where
  mode := .parallel
  asked := [⟨"198.51.100.7:53", fun query => some (.ok (query.take 3 ++ 0x85 :: query.drop 4)),
    fun _ => 4⟩]
  schedule _ := ⟨fun _ => 0, fun _ hk => Nat.sub_pos_of_lt hk, List.finRange 1, .refl _⟩
  race _ := Upstream.emptyRace

/-- What it is asked for the root. -/
def askedForRoot : Packet :=
  [0, 0, 1, 0, 0, 1, 0, 0, 0, 0, 0, 1, 0, 0, 1, 0, 1, 0, 0, 41, 16, 0, 0, 0, 0, 0, 0, 0]

/-- What it says. -/
def refusal : Packet := askedForRoot.take 3 ++ 0x85 :: askedForRoot.drop 4

/-- The refusal may be kept for as long as failures. -/
theorem proxy_answered_refused : ∃ response,
    proxy tellingGlobals refusing (rootQuery [] (by decide)).bytes none =
        .ok (response, .withMain [.success "198.51.100.7:53" 4]) ∧
      Answers tellingGlobals refusing askedForRoot
        ⟨.ok refusal, .withMain [.success "198.51.100.7:53" 4]⟩ response := by
  have hlen : 17 ≤ (rootQuery [] (by decide)).bytes.length := by decide
  obtain ⟨sent, hsent, hcases⟩ :=
    proxy_answered tellingGlobals refusing none hlen (by simp [ProxyGlobals.told])
  have hs : prepareQuery tellingGlobals none (rootQuery [] (by decide)).bytes =
    (.ok (), askedForRoot) := by decide +kernel
  obtain rfl : askedForRoot = sent := congrArg Prod.snd (hs.symm.trans hsent)
  have ho : refusing.exchange askedForRoot = .ok
      ⟨.ok refusal, .withMain [.success "198.51.100.7:53" 4]⟩ := by decide +kernel
  have hwaits : refusing.waits askedForRoot = false := by decide +kernel
  rcases hcases with ⟨hw, -⟩ | ⟨-, outcome, hrun, -, hanswer⟩
  · rw [hwaits] at hw
    cases hw
  · obtain rfl := Outcome.ok.inj (ho.symm.trans hrun)
    exact (hanswer _ rfl).1 ⟨2, .inl ⟨by decide, rfl⟩⟩

end

end DohProxy.Server
