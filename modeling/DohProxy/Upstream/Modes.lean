import DohProxy.Upstream.FastestAddr
import DohProxy.Upstream.Untrusted

/-!
# The ways of asking

`exchange` of `upstream/mod.rs` asks the upstreams in the way that is configured.

## What is proved

`exchange_contract` — **all ways keep one contract**: there is an answer if there is an upstream
that has one, and otherwise every upstream is reported once.
-/

namespace DohProxy

open Lib Outcome

namespace Upstream

/-- The ways of asking. -/
inductive UpstreamMode where
  | loadBalance | parallel | fastestAddr
  deriving DecidableEq

/-- The reply to a query. -/
def exchange (mode : UpstreamMode) (query : List UInt8) (upstreams : List Upstream)
    (schedule : Schedule upstreams.length) (race : Race) : Outcome Empty ExchangeOutcome :=
  if upstreams = [] then return ⟨.error .upstreamIssue, ⟨[], []⟩⟩
  else
    match mode with
    | .parallel => return exchangeParallel upstreams schedule
    | .fastestAddr => do
      let qtype ← Msg.qtypeFromPacket query
      if qtype = some .A ∨ qtype = some .AAAA then exchangeFastestAddr race (exchangeAll upstreams schedule)
      else
        let (outcome, _) ← exchangeLoadBalance upstreams schedule
        return outcome
    | .loadBalance => do
      let (outcome, _) ← exchangeLoadBalance upstreams schedule
      return outcome

/-- All upstreams are asked for an address, to find the fastest. -/
def AsksAll (mode : UpstreamMode) (query : List UInt8) : Prop :=
  mode = .fastestAddr ∧
    (Msg.qtypeFromPacket query = .ok (some .A) ∨ Msg.qtypeFromPacket query = .ok (some .AAAA))

instance (mode : UpstreamMode) (query : List UInt8) : Decidable (AsksAll mode query) :=
  inferInstanceAs (Decidable (_ ∧ _))

/-- An upstream has a reply when what it returns is a message. -/
theorem result_eq_ok {upstream : Upstream} {packet : List UInt8} :
    upstream.result = .ok packet ↔ upstream.exchangeSingle = .ok packet ∧
      ∃ m, Msg.unpack packet = .ok m := by
  have hvalidate : ∀ reply, validateExchangePacket reply = .ok packet ↔
    reply = packet ∧ ∃ m, Msg.unpack packet = .ok m := by
    intro reply
    unfold validateExchangePacket Msg.validatePacket
    constructor
    · cases hm : Msg.unpack reply with
      | ok m =>
        rintro ⟨⟩
        exact ⟨rfl, m, hm⟩
      | _ => nofun
    · rintro ⟨rfl, m, hm⟩
      rw [hm]
      rfl
  unfold result
  cases upstream.exchangeSingle with
  | ok reply => exact (hvalidate reply).trans (and_congr_left' (by simp))
  | error e => exact ⟨nofun, fun h => nomatch h.1⟩

variable {upstreams : List Upstream}

/-- A query has succeeded with a reply. -/
structure Replied (mode : UpstreamMode) (query : List UInt8) (upstreams : List Upstream)
    (outcome : ExchangeOutcome)
    (packet : List UInt8) : Prop where
  /-- The packet is what an upstream has returned, unless addresses are rewritten. -/
  reply : ∃ upstream ∈ upstreams, ∃ reply m, upstream.exchangeSingle = .ok reply ∧
    Msg.unpack reply = .ok m ∧
    (packet = reply ∨ AsksAll mode query ∧
      ∃ ip, RdataSet (locateAnswers reply) (·.HasAddressLike ip) ip.octets reply packet)
  /-- The statistics are of all upstreams, or of the one that has replied. -/
  stats : outcome.queryStats.fallback = [] ∧
    outcome.queryStats.main.length = if AsksAll mode query then upstreams.length else 1

/-- A way of asking keeps the contract: there is a reply, or every upstream has failed. -/
def Contract (mode : UpstreamMode) (query : List UInt8) (upstreams : List Upstream)
    (outcome : ExchangeOutcome) : Prop :=
  (∃ packet, outcome.packet = .ok packet ∧ Replied mode query upstreams outcome packet) ∨
    Joined upstreams outcome

theorem contract_of_single {mode : UpstreamMode} {query : List UInt8} {outcome : ExchangeOutcome}
    (hall : ¬ AsksAll mode query)
    (h : (∃ upstream ∈ upstreams, ∃ packet, upstream.result = .ok packet ∧
      outcome = ⟨.ok packet, .withMain [upstream.stat]⟩) ∨
      Joined upstreams outcome) : Contract mode query upstreams outcome := by
  refine h.imp_left ?_
  rintro ⟨upstream, hmem, packet, hresult, rfl⟩
  obtain ⟨hsingle, m, hm⟩ := result_eq_ok.mp hresult
  exact ⟨packet, rfl, ⟨upstream, hmem, packet, m, hsingle, hm, .inl rfl⟩,
    rfl, by rw [if_neg hall]; rfl⟩

/-- **One after the other.** -/
theorem exchangeLoadBalance_spec (schedule : Schedule upstreams.length)
    (hn : 2 ≤ upstreams.length) :
    ∃ outcome contacted, exchangeLoadBalance upstreams schedule = .ok (outcome, contacted) ∧
      ((∃ upstream ∈ upstreams, ∃ packet, upstream.result = .ok packet ∧
        outcome = ⟨.ok packet, .withMain [upstream.stat]⟩) ∨
        Joined upstreams outcome) ∧ contacted.Nodup ∧
      (∀ before i rest, contacted = before ++ i :: rest →
        (∃ packet, (upstreams.get i).result = .ok packet) → rest = []) ∧
      ((∃ i ∈ contacted, ∃ packet, (upstreams.get i).result = .ok packet) ∨
        ∀ i, i ∈ contacted) := by
  have hpicks : ∀ j < (List.finRange upstreams.length).length,
      schedule.picks (0 + j) < (List.finRange upstreams.length).length - j := by
    intro j hj
    rw [List.length_finRange] at hj ⊢
    rw [Nat.zero_add]
    exact schedule.picks_lt j hj
  have hfuel : (List.finRange upstreams.length).length < upstreams.length + 1 := by
    rw [List.length_finRange]
    exact Nat.lt_succ_self _
  obtain ⟨order, contacted, after, hperm, rfl, hloop, hlast, hrest⟩ :=
    loadBalanceLoop_eq [] (List.replicate upstreams.length none) hfuel hpicks
  refine ⟨_, contacted, ?_, inOrder_contract hperm (by omega), ?_, hlast, ?_⟩
  · rw [exchangeLoadBalance, dif_neg (by omega), hloop]
  · exact (List.nodup_append.mp (hperm.nodup_iff.mpr (List.nodup_finRange _))).1
  · rcases hrest with rfl | hok
    · rw [List.append_nil] at hperm
      exact .inr fun i => hperm.mem_iff.mpr (List.mem_finRange i)
    · exact .inl hok

theorem exchangeFastestAddr_contract {mode : UpstreamMode} {query : List UInt8}
    (schedule : Schedule upstreams.length)
    (race : Race) (hn : 2 ≤ upstreams.length) (hall : AsksAll mode query) :
    ∃ outcome, exchangeFastestAddr race (exchangeAll upstreams schedule) = .ok outcome ∧
      Contract mode query upstreams outcome := by
  rw [exchangeAll_eq schedule (by omega)]
  by_cases hne : repliesOf schedule.arrivals = []
  · have hfailed : ∀ upstream ∈ upstreams, ∃ e, upstream.result = .error e := by
      intro upstream hmem
      cases hr : upstream.result with
      | error e => exact ⟨e, rfl⟩
      | ok packet =>
        have hreply := (mem_repliesOf schedule).mpr ⟨upstream, hmem, hr⟩
        rw [hne] at hreply
        exact absurd hreply List.not_mem_nil
    refine ⟨_, ?_, .inr (joined_of_failures schedule.arrivals_perm (by omega) hfailed)⟩
    rw [hne, exchangeFastestAddr]
    dsimp only
    rw [getD_fromUpstreamAttempts]
    rfl
  · have hok : ∀ reply ∈ repliesOf schedule.arrivals, ∃ m, Msg.unpack reply = .ok m := by
      intro reply hreply
      obtain ⟨upstream, -, hr⟩ := (mem_repliesOf schedule).mp hreply
      exact (result_eq_ok.mp hr).2
    obtain ⟨packet, hrun, hcases⟩ := exchangeFastestAddr_cases race
      ⟨repliesOf schedule.arrivals, upstreams.map stat,
      if (failuresOf schedule.arrivals).isEmpty then none
        else some (.fromUpstreamAttempts (failuresOf schedule.arrivals))⟩
      hne hok
    refine ⟨_, hrun, .inl ⟨packet, rfl, ?_, rfl, by rw [if_pos hall]; exact List.length_map _⟩⟩
    obtain ⟨reply, hreply, hpacket⟩ : ∃ reply ∈ repliesOf schedule.arrivals, packet = reply ∨
      AsksAll mode query ∧
        ∃ ip, RdataSet (locateAnswers reply) (·.HasAddressLike ip) ip.octets reply packet := by
      rcases hcases with hfirst | ⟨reply, ping, -, hfind, hset⟩
      · exact ⟨packet, List.mem_of_head? hfirst, .inl rfl⟩
      · exact ⟨reply, List.mem_of_find?_eq_some hfind, .inr ⟨hall, ping.ip, hset⟩⟩
    obtain ⟨upstream, hmem, hr⟩ := (mem_repliesOf schedule).mp hreply
    obtain ⟨hsingle, m, hm⟩ := result_eq_ok.mp hr
    exact ⟨upstream, hmem, reply, m, hsingle, hm, hpacket⟩

/-- **Each way of asking keeps the contract.** -/
theorem exchange_keeps (mode : UpstreamMode) (query : List UInt8)
    (schedule : Schedule upstreams.length) (race : Race)
    (hn : 2 ≤ upstreams.length) : ∃ outcome,
      exchange mode query upstreams schedule race = .ok outcome ∧
      Contract mode query upstreams outcome := by
  have hne : upstreams ≠ [] := List.ne_nil_of_length_pos (by omega)
  obtain ⟨outcome, contacted, hlb, hspec, -⟩ := exchangeLoadBalance_spec schedule hn
  unfold exchange
  rw [if_neg hne]
  cases mode with
  | parallel =>
    refine ⟨_, rfl, contract_of_single (fun h => nomatch h.1) ?_⟩
    rw [exchangeParallel, dif_neg (by omega), parallelLoop_eq schedule.length_arrivals.le]
    exact inOrder_contract schedule.arrivals_perm (by omega)
  | loadBalance =>
    refine ⟨outcome, ?_, contract_of_single (fun h => nomatch h.1) hspec⟩
    rw [hlb]
    rfl
  | fastestAddr =>
    have hfin := Msg.qtypeFromPacket_finished query
    cases hq : Msg.qtypeFromPacket query with
    | ok qtype =>
      dsimp only
      rw [ok_bind]
      by_cases hall : qtype = some .A ∨ qtype = some .AAAA
      · rw [if_pos hall]
        refine exchangeFastestAddr_contract schedule race hn ⟨rfl, hall.imp ?_ ?_⟩ <;>
        · rintro rfl
          exact hq
      · rw [if_neg hall]
        refine ⟨outcome, by rw [hlb]; rfl, contract_of_single (fun h => hall ?_) hspec⟩
        simpa [hq] using h.2
    | err e => exact e.elim
    | panic => rw [hq] at hfin; exact hfin.elim
    | timeout => rw [hq] at hfin; exact hfin.elim

theorem isSome_error_of_failed {upstream : Upstream} {e : DohProxy.DoHError}
    (h : upstream.result = .error e) :
    upstream.stat.error.isSome = true := by
  rw [stat, h]
  rfl

/-- **What a query comes to**, in each way of asking. -/
theorem exchange_contract (mode : UpstreamMode) (query : List UInt8)
    (schedule : Schedule upstreams.length) (race : Race)
    (hn : 2 ≤ upstreams.length) :
    ∃ outcome, exchange mode query upstreams schedule race = .ok outcome ∧
      ((∃ packet, outcome.packet = .ok packet) ↔
        ∃ upstream ∈ upstreams, ∃ reply m, upstream.exchangeSingle = .ok reply ∧
          Msg.unpack reply = .ok m) ∧
      (∀ packet, outcome.packet = .ok packet → Replied mode query upstreams outcome packet) ∧
      (∀ e, outcome.packet = .error e → Joined upstreams outcome ∧
        outcome.queryStats.main.length = upstreams.length ∧
        ∀ s ∈ outcome.queryStats.main, s.error.isSome = true) ∧
      ∃ balanced contacted, exchangeLoadBalance upstreams schedule = .ok (balanced, contacted) ∧
        contacted.Nodup ∧
        ∀ before i rest, contacted = before ++ i :: rest →
          (∃ packet, (upstreams.get i).result = .ok packet) → rest = [] := by
  obtain ⟨balanced, contacted, hlb, -, hnodup, hlast, -⟩ := exchangeLoadBalance_spec schedule hn
  obtain ⟨outcome, hrun, hcontract⟩ := exchange_keeps mode query schedule race hn
  refine ⟨outcome, hrun, ?_, ?_, ?_, balanced, contacted, hlb, hnodup, hlast⟩
  · rcases hcontract with ⟨packet, hpacket, hreplied⟩ | hjoined
    · obtain ⟨upstream, hmem, reply, m, hsingle, hm, -⟩ := hreplied.reply
      exact ⟨fun _ => ⟨upstream, hmem, reply, m, hsingle, hm⟩, fun _ => ⟨packet, hpacket⟩⟩
    · constructor
      · rintro ⟨packet, hpacket⟩
        obtain ⟨_, _, herror, -⟩ := hjoined.packet
        rw [hpacket] at herror
        cases herror
      · rintro ⟨upstream, hmem, reply, m, hsingle, hm⟩
        obtain ⟨e, he⟩ := hjoined.failed upstream hmem
        rw [result_eq_ok.mpr ⟨hsingle, m, hm⟩] at he
        cases he
  · intro packet hpacket
    rcases hcontract with ⟨packet', hpacket', hreplied⟩ | hjoined
    · rw [hpacket] at hpacket'
      cases hpacket'
      exact hreplied
    · obtain ⟨_, _, herror, -⟩ := hjoined.packet
      rw [hpacket] at herror
      cases herror
  · intro e he
    rcases hcontract with ⟨packet, hpacket, -⟩ | hjoined
    · rw [he] at hpacket
      cases hpacket
    · refine ⟨hjoined, by rw [hjoined.stats]; exact List.length_map _, fun s hs => ?_⟩
      rw [hjoined.stats] at hs
      obtain ⟨upstream, hmem, rfl⟩ := List.mem_map.mp hs
      obtain ⟨e', he'⟩ := hjoined.failed upstream hmem
      exact isSome_error_of_failed he'

/-- Two upstreams, of which the second has a reply. -/
def twoUpstreams : List Upstream :=
  [⟨"192.0.2.1:53", .error .upstreamTimeout, 5⟩, ⟨"192.0.2.2:53", .ok oddReply, 3⟩]

/-- The first that remains is picked, and attempts complete in order. -/
def firstFirst (n : ℕ) : Schedule n :=
  ⟨fun _ => 0, fun _ hk => Nat.sub_pos_of_lt hk, List.finRange n, .refl _⟩

theorem exchange_contract_twoUpstreams :
    ∃ outcome, exchange .loadBalance oddReply twoUpstreams (firstFirst 2) emptyRace = .ok outcome ∧
      ∃ packet, outcome.packet = .ok packet ∧
        Replied .loadBalance oddReply twoUpstreams outcome packet := by
  have hn : 2 ≤ twoUpstreams.length := by decide
  obtain ⟨outcome, hrun, hiff, hreplied, -⟩ := @exchange_contract twoUpstreams .loadBalance oddReply
    (firstFirst 2) emptyRace hn
  have hmsg : Msg.unpack oddReply = .ok oddMsg := by decide +kernel
  obtain ⟨packet, hpacket⟩ := hiff.mpr ⟨⟨"192.0.2.2:53", .ok oddReply, 3⟩, by simp [twoUpstreams],
    oddReply, oddMsg, rfl, hmsg⟩
  exact ⟨outcome, hrun, packet, hpacket, hreplied packet hpacket⟩

end Upstream

end DohProxy
