import DohProxy.Upstream.Modes

/-!
# Upstreams that never answer

Without a timeout an upstream that is asked may never answer, and the exchange can wait for it. Here
the ways of asking meet such upstreams.

## The model

An upstream that is asked (`AskedUpstream`) has an answer or has none, ever. One that is silent
counts as one that fails (`upstreamsOf`), unless the exchange waits for it: for any that is silent
where the replies of all are wanted, for any as well in the race where none has a reply, and for the
one whose turn it is where they are asked one after the other (`waits`).

## What is proved

`exchangeAsked_says` — an exchange that does not wait for a silent upstream comes to an end, with
the reply of an upstream, or with an error where **all have failed and none is silent**: what stands
in for silence is never seen.
-/

namespace DohProxy

open Lib Outcome

/-- An upstream, which may never answer. -/
structure AskedUpstream where
  /-- Its address. -/
  address : String
  /-- What `exchange_single` returns for it and a query. -/
  exchangeSingle : List UInt8 → Awaited DoHError (List UInt8)
  /-- How long that takes, in nanoseconds. -/
  duration : List UInt8 → ℕ

/-- It never answers a query. -/
def AskedUpstream.silent (asked : AskedUpstream) (query : List UInt8) : Bool :=
  (asked.exchangeSingle query).isNone

/-- The upstream as a query finds it. If it is silent, it counts as failed. -/
def AskedUpstream.upstream (query : List UInt8) (asked : AskedUpstream) : Upstream where
  address := asked.address
  exchangeSingle := (asked.exchangeSingle query).getD (.error .upstreamTimeout)
  duration := asked.duration query

namespace Upstream

variable {mode : UpstreamMode} {query : List UInt8} {upstreams : List Upstream}

/-- The upstreams as a query finds them. -/
abbrev upstreamsOf (query : List UInt8) (asked : List AskedUpstream) : List Upstream :=
  asked.map (AskedUpstream.upstream query)

/-- An upstream has a reply. -/
def succeeds (upstream : Upstream) : Bool := upstream.result.toBool

/-- An upstream that never answers is one of those that are contacted one after the other. -/
def waitsInTurn (query : List UInt8) (asked : List AskedUpstream)
    (schedule : Schedule (upstreamsOf query asked).length) : Bool :=
  match exchangeLoadBalance (upstreamsOf query asked) schedule with
  | .ok (_, contacted) =>
    contacted.any fun i => (asked.get (i.cast (List.length_map _))).silent query
  | _ => false

/-- An exchange waits for an upstream that never answers. -/
def waits (mode : UpstreamMode) (query : List UInt8) (asked : List AskedUpstream)
    (schedule : Schedule (upstreamsOf query asked).length) : Bool :=
  if AsksAll mode query then asked.any (·.silent query)
  else
    match mode with
    | .parallel =>
      asked.any (·.silent query) && !(upstreamsOf query asked).any succeeds
    | .fastestAddr | .loadBalance => waitsInTurn query asked schedule

/-- `upstream::exchange`, where upstreams may never answer. -/
def exchangeAsked (mode : UpstreamMode) (query : List UInt8) (asked : List AskedUpstream)
    (schedule : Schedule (upstreamsOf query asked).length) (race : Race) :
    Outcome Empty ExchangeOutcome :=
  if waits mode query asked schedule then .timeout
  else exchange mode query (upstreamsOf query asked) schedule race

/-- A packet is a reply, which is a message, or the same with one address for all of its family. -/
def MadeOf (mode : UpstreamMode) (query reply packet : List UInt8) : Prop :=
  ∃ m, Msg.unpack reply = .ok m ∧ (packet = reply ∨ AsksAll mode query ∧
    ∃ ip, RdataSet (locateAnswers reply) (·.HasAddressLike ip) ip.octets reply packet)

theorem MadeOf.length {reply packet : List UInt8} (h : MadeOf mode query reply packet) :
    packet.length = reply.length := by
  obtain ⟨m, -, rfl | ⟨-, ip, hset⟩⟩ := h
  · rfl
  · exact hset.length

/-- A packet is made of the reply of an upstream. -/
def Says (mode : UpstreamMode) (query : List UInt8) (upstreams : List Upstream)
    (packet : List UInt8) : Prop :=
  ∃ upstream ∈ upstreams, ∃ reply, upstream.exchangeSingle = .ok reply ∧
    MadeOf mode query reply packet

/-- The same of upstreams that may be silent. -/
def AskedSays (mode : UpstreamMode) (query : List UInt8) (asked : List AskedUpstream)
    (packet : List UInt8) : Prop :=
  ∃ a ∈ asked, ∃ reply, a.exchangeSingle query = some (.ok reply) ∧
    MadeOf mode query reply packet

/-- All upstreams have failed. -/
def AllFailed (upstreams : List Upstream) : Prop :=
  ∀ upstream ∈ upstreams, ∃ e, upstream.result = .error e

/-- A query has come to a reply of an upstream, or all of them have failed. -/
def SaysOrFailed (mode : UpstreamMode) (query : List UInt8) (upstreams : List Upstream)
    (outcome : ExchangeOutcome) : Prop :=
  (∃ packet, outcome.packet = .ok packet ∧ Says mode query upstreams packet) ∨
    (∃ e, outcome.packet = .error e) ∧ AllFailed upstreams

/-! ### One upstream -/

theorem says_of_result {upstream : Upstream} {packet : List UInt8} (hmem : upstream ∈ upstreams)
    (h : upstream.result = .ok packet) : Says mode query upstreams packet := by
  obtain ⟨hsingle, m, hm⟩ := result_eq_ok.mp h
  exact ⟨upstream, hmem, packet, hsingle, m, hm, .inl rfl⟩

theorem saysOrFailed_singleton {upstream : Upstream} {outcome : ExchangeOutcome}
    (h : outcome.packet = upstream.result) : SaysOrFailed mode query [upstream] outcome := by
  cases hr : upstream.result with
  | ok packet =>
    exact .inl ⟨packet, h.trans hr, says_of_result (List.mem_singleton_self _) hr⟩
  | error e =>
    refine .inr ⟨⟨e, h.trans hr⟩, fun upstream' hmem => ⟨e, ?_⟩⟩
    rwa [List.mem_singleton.mp hmem]

theorem exchangeLoadBalance_singleton (upstream : Upstream)
    (schedule : Schedule [upstream].length) : exchangeLoadBalance [upstream] schedule =
      .ok (⟨upstream.result, .withMain [upstream.stat]⟩, [⟨0, Nat.one_pos⟩]) := rfl

/-- All of one upstream: it is asked, and its reply is compared with itself. -/
theorem exchangeFastestAddr_singleton (upstream : Upstream)
    (schedule : Schedule [upstream].length) (race : Race) (hall : AsksAll mode query) :
    ∃ outcome, exchangeFastestAddr race (exchangeAll [upstream] schedule) = .ok outcome ∧
      SaysOrFailed mode query [upstream] outcome := by
  have hmem : upstream ∈ [upstream] := List.mem_singleton_self _
  cases hr : upstream.result with
  | error e =>
    have hask : exchangeAll [upstream] schedule = ⟨[], [upstream.stat], some e⟩ := by
      simp [exchangeAll, hr]
    rw [hask]
    exact ⟨_, rfl, saysOrFailed_singleton hr.symm⟩
  | ok reply =>
    have hask : exchangeAll [upstream] schedule = ⟨[reply], [upstream.stat], none⟩ := by
      simp [exchangeAll, hr]
    rw [hask]
    obtain ⟨hsingle, m, hm⟩ := result_eq_ok.mp hr
    have hok : ∀ reply' ∈ [reply], ∃ m, Msg.unpack reply' = .ok m := by
      rintro _ (_ | ⟨_, ⟨⟩⟩)
      exact ⟨m, hm⟩
    obtain ⟨packet, hrun, hcases⟩ := exchangeFastestAddr_cases race
      ⟨[reply], [upstream.stat], none⟩ (List.cons_ne_nil _ _) hok
    refine ⟨_, hrun, .inl ⟨packet, rfl, ?_⟩⟩
    rcases hcases with hfirst | ⟨reply', ping, -, hfind, hset⟩
    · cases hfirst
      exact says_of_result hmem hr
    · obtain rfl := List.mem_singleton.mp (List.mem_of_find?_eq_some hfind)
      exact ⟨_, hmem, _, hsingle, m, hm, .inr ⟨hall, ping.ip, hset⟩⟩

theorem exchange_singleton (mode : UpstreamMode) (query : List UInt8) (upstream : Upstream)
    (schedule : Schedule [upstream].length) (race : Race) : ∃ outcome,
      exchange mode query [upstream] schedule race = .ok outcome ∧
      SaysOrFailed mode query [upstream] outcome := by
  unfold exchange
  rw [if_neg (List.cons_ne_nil _ _)]
  cases mode with
  | parallel => exact ⟨_, rfl, saysOrFailed_singleton rfl⟩
  | loadBalance => exact ⟨_, rfl, saysOrFailed_singleton rfl⟩
  | fastestAddr =>
    have hfin := Msg.qtypeFromPacket_finished query
    cases hq : Msg.qtypeFromPacket query with
    | ok qtype =>
      dsimp only
      rw [ok_bind]
      split
      · next hall =>
        refine exchangeFastestAddr_singleton upstream schedule race ⟨rfl, hall.imp ?_ ?_⟩ <;>
        · rintro rfl
          exact hq
      · exact ⟨_, rfl, saysOrFailed_singleton rfl⟩
    | err e => exact e.elim
    | panic => rw [hq] at hfin; exact hfin.elim
    | timeout => rw [hq] at hfin; exact hfin.elim

/-! ### Any number of upstreams -/

/-- **A query comes to the reply of an upstream, or all have failed.** -/
theorem exchange_says (mode : UpstreamMode) (query : List UInt8)
    (schedule : Schedule upstreams.length) (race : Race) : ∃ outcome,
      exchange mode query upstreams schedule race = .ok outcome ∧
      SaysOrFailed mode query upstreams outcome := by
  rcases Nat.lt_or_ge upstreams.length 2 with hlt | hge
  · by_cases hnil : upstreams = []
    · subst hnil
      exact ⟨⟨.error .upstreamIssue, ⟨[], []⟩⟩, rfl, .inr ⟨⟨_, rfl⟩, nofun⟩⟩
    · have hpos := List.length_pos_iff.mpr hnil
      obtain ⟨upstream, rfl⟩ := List.length_eq_one_iff.mp (show upstreams.length = 1 by omega)
      exact exchange_singleton mode query upstream schedule race
  · obtain ⟨outcome, hrun, hcontract⟩ := exchange_keeps mode query schedule race hge
    refine ⟨outcome, hrun, hcontract.imp ?_ ?_⟩
    · rintro ⟨packet, hpacket, hreplied⟩
      obtain ⟨upstream, hmem, reply, m, hsingle, hmade⟩ := hreplied.reply
      exact ⟨packet, hpacket, upstream, hmem, reply, hsingle, m, hmade⟩
    · intro hjoined
      obtain ⟨_, _, herror, -⟩ := hjoined.packet
      exact ⟨⟨_, herror⟩, hjoined.failed⟩

/-- Where all fail, all are contacted. -/
theorem contacted_of_allFailed (hne : upstreams ≠ []) (hfailed : AllFailed upstreams)
    (schedule : Schedule upstreams.length) : ∃ outcome contacted,
      exchangeLoadBalance upstreams schedule = .ok (outcome, contacted) ∧ ∀ i, i ∈ contacted := by
  have hpos := List.length_pos_iff.mpr hne
  rcases Nat.lt_or_ge upstreams.length 2 with hlt | hge
  · obtain ⟨upstream, rfl⟩ := List.length_eq_one_iff.mp (show upstreams.length = 1 by omega)
    refine ⟨_, _, exchangeLoadBalance_singleton upstream schedule, fun i => ?_⟩
    exact List.mem_singleton.mpr (Fin.ext (Nat.lt_one_iff.mp i.isLt))
  · obtain ⟨outcome, contacted, hrun, -, -, -, hall⟩ := exchangeLoadBalance_spec schedule hge
    refine ⟨outcome, contacted, hrun, hall.resolve_left ?_⟩
    rintro ⟨j, -, packet, hok⟩
    obtain ⟨e, he⟩ := hfailed _ (List.get_mem upstreams j)
    rw [hok] at he
    cases he

/-! ### Upstreams that are silent -/

section

variable {asked : List AskedUpstream} {schedule : Schedule (upstreamsOf query asked).length}
  {race : Race} {packet : List UInt8}

/-- Nothing is waited for where none is silent. -/
theorem waits_eq_false (h : ∀ a ∈ asked, a.silent query = false) :
    waits mode query asked schedule = false := by
  have hany : asked.any (·.silent query) = false := by
    refine List.any_eq_false.mpr fun a hmem => ?_
    rw [h a hmem]
    exact Bool.false_ne_true
  have hturn : waitsInTurn query asked schedule = false := by
    unfold waitsInTurn
    split
    · refine List.any_eq_false.mpr fun i _ => ?_
      rw [h _ (List.get_mem asked _)]
      exact Bool.false_ne_true
    · rfl
  unfold waits
  rw [hany, hturn]
  split
  · rfl
  · split <;> rfl

/-- Where all fail and an upstream is silent, it is waited for. -/
theorem waits_of_allFailed (hfailed : AllFailed (upstreamsOf query asked)) {a : AskedUpstream}
    (hmem : a ∈ asked) (hsilent : a.silent query = true) :
    waits mode query asked schedule = true := by
  have hany : asked.any (·.silent query) = true := List.any_eq_true.mpr ⟨a, hmem, hsilent⟩
  have hnone : (upstreamsOf query asked).any succeeds = false := by
    refine List.any_eq_false.mpr fun upstream h => ?_
    obtain ⟨e, he⟩ := hfailed upstream h
    rw [succeeds, he]
    exact Bool.false_ne_true
  have hturn : waitsInTurn query asked schedule = true := by
    have hne : upstreamsOf query asked ≠ [] :=
      List.ne_nil_of_mem (List.mem_map_of_mem hmem)
    obtain ⟨outcome, contacted, hrun, hall⟩ := contacted_of_allFailed hne hfailed schedule
    obtain ⟨i, hi, rfl⟩ := List.getElem_of_mem hmem
    rw [waitsInTurn, hrun]
    exact List.any_eq_true.mpr ⟨⟨i, by rwa [List.length_map]⟩, hall _, hsilent⟩
  unfold waits
  rw [hany, hnone, hturn]
  split
  · rfl
  · split <;> rfl

theorem askedSays_of_says (h : Says mode query (upstreamsOf query asked) packet) :
    AskedSays mode query asked packet := by
  obtain ⟨_, hmem, reply, hsingle, hmade⟩ := h
  obtain ⟨a, ha, rfl⟩ := List.mem_map.mp hmem
  refine ⟨a, ha, reply, ?_, hmade⟩
  change (a.exchangeSingle query).getD _ = _ at hsingle
  cases hreturned : a.exchangeSingle query with
  | none =>
    rw [hreturned] at hsingle
    cases hsingle
  | some result =>
    rw [hreturned] at hsingle
    exact congrArg some hsingle

/-- **An exchange waits, or comes to an end**: with a reply that an upstream has sent, or with an
error if every upstream has answered, and none with a message. -/
theorem exchangeAsked_says (mode : UpstreamMode) (query : List UInt8) (asked : List AskedUpstream)
    (schedule : Schedule (upstreamsOf query asked).length) (race : Race) :
    waits mode query asked schedule = true ∧
        exchangeAsked mode query asked schedule race = .timeout ∨
      waits mode query asked schedule = false ∧ ∃ outcome,
        exchangeAsked mode query asked schedule race = .ok outcome ∧
        (∀ packet, outcome.packet = .ok packet → AskedSays mode query asked packet) ∧
        ∀ e, outcome.packet = .error e → AllFailed (upstreamsOf query asked) ∧
          ∀ a ∈ asked, a.silent query = false := by
  unfold exchangeAsked
  cases hwaits : waits mode query asked schedule with
  | true => exact .inl ⟨rfl, rfl⟩
  | false =>
    obtain ⟨outcome, hrun, hsaid⟩ := exchange_says mode query schedule race
    refine .inr ⟨rfl, outcome, hrun, fun packet hpacket => ?_, fun e he => ?_⟩
    · rcases hsaid with ⟨packet', hpacket', hsaid⟩ | ⟨⟨e, he⟩, -⟩
      · rw [hpacket] at hpacket'
        cases hpacket'
        exact askedSays_of_says hsaid
      · rw [hpacket] at he
        cases he
    · rcases hsaid with ⟨packet, hpacket, -⟩ | ⟨-, hfailed⟩
      · rw [he] at hpacket
        cases hpacket
      · refine ⟨hfailed, fun a hmem => ?_⟩
        by_contra hsilent
        rw [waits_of_allFailed hfailed hmem (Bool.eq_true_of_not_eq_false hsilent)] at hwaits
        cases hwaits

end

end Upstream

end DohProxy
