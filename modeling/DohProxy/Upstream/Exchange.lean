import DohProxy.Errors
import DohProxy.Lib.Attempts
import DohProxy.Upstream.Msg

/-!
# Asking the upstreams

A query goes to one upstream after the other, to all at once for the first answer, or to all for
every answer, as in `load_balance.rs`, `parallel.rs` and `exchange_all` of `fastest_addr.rs`.

## The model

An upstream is what comes of asking it. What is left to chance is a `Schedule`: which upstream is
picked, and in what order answers come in.

## What is proved

`exchangeLoadBalance_eq`, `exchangeParallel_eq` — both ways come to the first success of an order
in which every upstream stands once. `exchangeAll_eq` — asking all collects all.
-/

namespace DohProxy

open Lib Outcome

/-- An upstream, as far as one query is concerned. -/
structure Upstream where
  /-- Its address. -/
  address : String
  /-- What `exchange_single` returns for it. -/
  exchangeSingle : Except DoHError (List UInt8)
  /-- How long that takes, in nanoseconds. -/
  duration : ℕ

namespace Upstream

/-- What is noted of an attempt. -/
structure UpstreamStatistics where
  /-- The text of the error, if there was one. -/
  error : Option String
  /-- The address of the upstream. -/
  address : String
  /-- How long it took, in nanoseconds. -/
  queryDuration : ℕ
  /-- Whether the answer was known. -/
  isCached : Bool
  deriving DecidableEq

/-- A success. -/
def UpstreamStatistics.success (address : String) (queryDuration : ℕ) : UpstreamStatistics :=
  ⟨none, address, queryDuration, false⟩

/-- A failure. -/
def UpstreamStatistics.failure (address : String) (queryDuration : ℕ) (error : String) :
    UpstreamStatistics :=
  ⟨some error, address, queryDuration, false⟩

/-- What is noted of a query. -/
structure QueryStatistics where
  /-- Of its upstreams. -/
  main : List UpstreamStatistics
  /-- Of other upstreams. -/
  fallback : List UpstreamStatistics
  deriving DecidableEq

/-- `QueryStatistics::with_main`. -/
def QueryStatistics.withMain (main : List UpstreamStatistics) : QueryStatistics := ⟨main, []⟩

/-- What a query comes to. -/
structure ExchangeOutcome where
  /-- The reply. -/
  packet : Except DoHError (List UInt8)
  /-- The statistics. -/
  queryStats : QueryStatistics
  deriving DecidableEq

/-- Whether a packet is a message. -/
def Msg.validatePacket (packet : List UInt8) : Bool :=
  match Msg.unpack packet with
  | .ok _ => true
  | _ => false

/-- A reply has to be a message. -/
def validateExchangePacket (packet : List UInt8) : Except DoHError (List UInt8) :=
  if Msg.validatePacket packet then .ok packet else .error .upstreamIssue

/-- `exchange_single(..).and_then(validate_exchange_packet)`. -/
def result (upstream : Upstream) : Except DoHError (List UInt8) :=
  upstream.exchangeSingle >>= validateExchangePacket

/-- What is noted of an attempt. -/
def stat (upstream : Upstream) : UpstreamStatistics :=
  match upstream.result with
  | .ok _ => .success upstream.address upstream.duration
  | .error e => .failure upstream.address upstream.duration e.toString

/-- What is kept of a failure. -/
def failed (upstream : Upstream) (e : DoHError) : UpstreamAttemptError :=
  .fromDohError upstream.address upstream.duration e

/-- The loop of `sample_weighted_index` that goes up to the cursor. -/
def sampleLoop {n : ℕ} (weights : Fin n → Float) : (remaining : List (Fin n)) → (pos : ℕ) →
    (cursor : Float) → ℕ
  | [], _, _ => 0
  | idx :: remaining, pos, cursor =>
    let w := weights idx
    if ¬ w.isFinite ∨ w ≤ 0 then sampleLoop weights remaining (pos + 1) cursor
    else if cursor ≤ w then pos
    else sampleLoop weights remaining (pos + 1) (cursor - w)

/-- A place among those that remain, with a chance by weight. -/
def sampleWeightedIndex {n : ℕ} (weights : Fin n → Float) (random : Float)
    (remaining : List (Fin n)) : ℕ :=
  let total := remaining.foldl (fun total idx =>
    let w := weights idx
    if w.isFinite ∧ w > 0 then total + w else total) 0
  if total ≤ 0 then 0 else sampleLoop weights remaining 0 (random * total)

theorem sampleLoop_lt {n : ℕ} (weights : Fin n → Float) (remaining : List (Fin n)) :
    ∀ (pos : ℕ) (cursor : Float),
    0 < pos + remaining.length → sampleLoop weights remaining pos cursor <
      pos + remaining.length := by
  induction remaining with
  | nil => exact fun _ _ h => h
  | cons idx remaining ih =>
    intro pos cursor _
    have hrest : ∀ cursor, sampleLoop weights remaining (pos + 1) cursor <
      pos + (remaining.length + 1) := by
      intro cursor
      have := ih (pos + 1) cursor (by omega)
      omega
    rw [sampleLoop, List.length_cons]
    split
    · exact hrest cursor
    · split
      · omega
      · exact hrest _

/-- **The place is one**, whatever the weights are. -/
theorem sampleWeightedIndex_lt {n : ℕ} (weights : Fin n → Float) (random : Float)
    {remaining : List (Fin n)}
    (h : remaining ≠ []) : sampleWeightedIndex weights random remaining < remaining.length := by
  have hpos := List.length_pos_iff.mpr h
  have hlt : ∀ cursor, sampleLoop weights remaining 0 cursor < remaining.length := by
    intro cursor
    have := sampleLoop_lt weights remaining 0 cursor (by omega)
    omega
  rw [sampleWeightedIndex]
  split
  · exact hpos
  · exact hlt _

/-- What is left to chance when there are `n` upstreams. -/
structure Schedule (n : ℕ) where
  /-- The places that `sample_weighted_index` picks. -/
  picks : ℕ → ℕ
  /-- They are places of upstreams that remain (`sampleWeightedIndex_lt`). -/
  picks_lt : ∀ k < n, picks k < n - k
  /-- The order in which the spawned attempts complete. -/
  arrivals : List (Fin n)
  /-- Each attempt completes. -/
  arrivals_perm : arrivals.Perm (List.finRange n)

theorem Schedule.length_arrivals {n : ℕ} (schedule : Schedule n) :
    schedule.arrivals.length = n := by
  rw [schedule.arrivals_perm.length_eq, List.length_finRange]

section

variable (upstreams : List Upstream)

/-- The loop of `exchange_load_balance`, with the upstreams it contacts. -/
def loadBalanceLoop (picks : ℕ → ℕ) : (fuel k : ℕ) → (remaining : List (Fin upstreams.length)) →
    (failures : List UpstreamAttemptError) → (attempts : List (Option UpstreamStatistics)) →
    Outcome Empty (ExchangeOutcome × List (Fin upstreams.length))
  | 0, _, _, _, _ => .timeout
  | fuel + 1, k, remaining, failures, attempts =>
    if remaining = [] then
      let main := attempts.filterMap id
      return (⟨.error (.fromUpstreamAttempts failures), .withMain main⟩, [])
    else do
      let (idx, remaining) ← swapRemove remaining (picks k)
      let upstream := upstreams[idx]
      match upstream.result with
      | .ok packet =>
        let stat := .success upstream.address upstream.duration
        return (⟨.ok packet, .withMain [stat]⟩, [idx])
      | .error e =>
        let stat := .failure upstream.address upstream.duration e.toString
        let (outcome, contacted) ← loadBalanceLoop picks fuel (k + 1) remaining (failures ++
          [upstream.failed e])
          (attempts.set idx (some stat))
        return (outcome, idx :: contacted)

/-- One upstream after the other, and the upstreams that are contacted. -/
def exchangeLoadBalance (schedule : Schedule upstreams.length) :
    Outcome Empty (ExchangeOutcome × List (Fin upstreams.length)) :=
  if h : upstreams.length = 1 then
    let upstream := upstreams[0]
    return (⟨upstream.result, .withMain [upstream.stat]⟩, [⟨0, by omega⟩])
  else
    loadBalanceLoop upstreams schedule.picks (upstreams.length + 1) 0
      (List.finRange upstreams.length) []
      (List.replicate upstreams.length none)

/-- The loop of `exchange_parallel`. -/
def parallelLoop : (n : ℕ) → (arrivals : List (Fin upstreams.length)) →
    (failures : List UpstreamAttemptError) →
    (attempts : List (Option UpstreamStatistics)) → ExchangeOutcome
  | n + 1, idx :: arrivals, failures, attempts =>
    let upstream := upstreams[idx]
    match upstream.result with
    | .ok packet =>
      let stat := .success upstream.address upstream.duration
      ⟨.ok packet, .withMain [stat]⟩
    | .error e =>
      let stat := .failure upstream.address upstream.duration e.toString
      parallelLoop n arrivals (failures ++ [upstream.failed e]) (attempts.set idx (some stat))
  | _, _, failures, attempts =>
    let main := attempts.filterMap id
    ⟨.error (.fromUpstreamAttempts failures), .withMain main⟩

/-- All upstreams at once, for the first answer. -/
def exchangeParallel (schedule : Schedule upstreams.length) : ExchangeOutcome :=
  if h : upstreams.length = 1 then
    let upstream := upstreams[0]
    ⟨upstream.result, .withMain [upstream.stat]⟩
  else parallelLoop upstreams upstreams.length schedule.arrivals []
    (List.replicate upstreams.length none)

/-- What asking all upstreams comes to. -/
structure ExchangeAll where
  /-- The replies. -/
  replies : List (List UInt8)
  /-- The statistics. -/
  stats : List UpstreamStatistics
  /-- The error, if an upstream has failed. -/
  err : Option DoHError

/-- The loop of `exchange_all`. -/
def exchangeAllLoop : (n : ℕ) → (arrivals : List (Fin upstreams.length)) →
    (replies : List (List UInt8)) →
    (failures : List UpstreamAttemptError) →
      (stats : List (Option UpstreamStatistics)) → ExchangeAll
  | n + 1, idx :: arrivals, replies, failures, stats =>
    let upstream := upstreams[idx]
    match upstream.result with
    | .ok packet =>
      let stat := .success upstream.address upstream.duration
      exchangeAllLoop n arrivals (replies ++ [packet]) failures (stats.set idx (some stat))
    | .error e =>
      let stat := .failure upstream.address upstream.duration e.toString
      exchangeAllLoop n arrivals replies (failures ++
        [upstream.failed e]) (stats.set idx (some stat))
  | _, _, replies, failures, stats =>
    ⟨replies, stats.filterMap id, if failures.isEmpty then none
      else some (.fromUpstreamAttempts failures)⟩

/-- All upstreams at once, for every answer. -/
def exchangeAll (schedule : Schedule upstreams.length) : ExchangeAll :=
  if h : upstreams.length = 1 then
    let upstream := upstreams[0]
    match upstream.result with
    | .ok packet => ⟨[packet], [upstream.stat], none⟩
    | .error e => ⟨[], [upstream.stat], some e⟩
  else exchangeAllLoop upstreams upstreams.length schedule.arrivals [] []
    (List.replicate upstreams.length none)

end

/-! ### The first success -/

section

variable {upstreams : List Upstream}

/-- What an upstream returns. -/
def resultOf (upstreams : List Upstream) (i : Fin upstreams.length) :
    Except DoHError (List UInt8) := upstreams[i].result

/-- What the attempts come to that are made in an order, when others have failed before. -/
def inOrder (failures : List UpstreamAttemptError) (attempts : List (Option UpstreamStatistics))
    (order : List (Fin upstreams.length)) : ExchangeOutcome :=
  match firstSuccess (resultOf upstreams) order with
  | .ok (i, packet) => ⟨.ok packet, .withMain [upstreams[i].stat]⟩
  | .error es =>
    ⟨.error (.fromUpstreamAttempts (failures ++ es.map fun (i, e) => upstreams[i].failed e)),
      .withMain ((fill (fun i => upstreams[i].stat) order attempts).filterMap id)⟩

theorem inOrder_nil (failures : List UpstreamAttemptError)
    (attempts : List (Option UpstreamStatistics)) :
    inOrder failures attempts ([] : List (Fin upstreams.length)) =
      ⟨.error (.fromUpstreamAttempts failures), .withMain (attempts.filterMap id)⟩ := by
  rw [inOrder, firstSuccess]
  dsimp only
  rw [List.map_nil, List.append_nil]
  rfl

theorem inOrder_cons_ok {failures : List UpstreamAttemptError}
    {attempts : List (Option UpstreamStatistics)}
    {i : Fin upstreams.length} {order : List (Fin upstreams.length)} {packet : List UInt8}
    (h : upstreams[i].result = .ok packet) :
    inOrder failures attempts (i :: order) =
      ⟨.ok packet, .withMain [.success upstreams[i].address upstreams[i].duration]⟩ := by
  rw [inOrder, firstSuccess_cons_ok (f := resultOf upstreams) h]
  dsimp only
  rw [stat, h]

theorem inOrder_cons_error {failures : List UpstreamAttemptError}
    {attempts : List (Option UpstreamStatistics)}
    {i : Fin upstreams.length} {order : List (Fin upstreams.length)} {e : DoHError}
    (h : upstreams[i].result = .error e) :
    inOrder failures attempts (i :: order) = inOrder (failures ++ [upstreams[i].failed e])
      (attempts.set i (some (.failure upstreams[i].address upstreams[i].duration
        e.toString))) order := by
  have hstat : upstreams[i].stat = .failure upstreams[i].address upstreams[i].duration
    e.toString := by
    rw [stat, h]
  rw [inOrder, inOrder, firstSuccess, show resultOf upstreams i = .error e from h]
  dsimp only
  cases firstSuccess (resultOf upstreams) order with
  | ok r => rfl
  | error es =>
    dsimp only
    rw [List.map_cons, List.append_assoc, List.singleton_append, fill,
      List.foldl_cons, ← fill, hstat]

/-- **The race** comes to the first success in the order of arrival. -/
theorem parallelLoop_eq : ∀ {arrivals : List (Fin upstreams.length)} {n : ℕ}
    {failures : List UpstreamAttemptError}
    {attempts : List (Option UpstreamStatistics)}, arrivals.length ≤ n →
      parallelLoop upstreams n arrivals failures attempts = inOrder failures attempts arrivals := by
  intro arrivals
  induction arrivals with
  | nil =>
    intro n failures attempts _
    rw [parallelLoop, inOrder_nil]
    nofun
  | cons idx arrivals ih =>
    intro n failures attempts hn
    obtain ⟨n, rfl⟩ := Nat.exists_eq_succ_of_ne_zero (Nat.ne_zero_of_lt hn)
    rw [parallelLoop]
    cases h : upstreams[idx].result with
    | ok packet => rw [inOrder_cons_ok h]
    | error e => rw [inOrder_cons_error h, ← ih (Nat.le_of_succ_le_succ hn)]

/-- **The loop over the picks** comes to the first success in the order in which they are picked. -/
theorem loadBalanceLoop_eq {picks : ℕ → ℕ} :
    ∀ {fuel k : ℕ} {remaining : List (Fin upstreams.length)}
    (failures : List UpstreamAttemptError) (attempts : List (Option UpstreamStatistics)),
      remaining.length < fuel → (∀ j < remaining.length, picks (k + j) < remaining.length - j) →
      ∃ order contacted after, order.Perm remaining ∧ order = contacted ++ after ∧
        loadBalanceLoop upstreams picks fuel k remaining failures attempts =
          .ok (inOrder failures attempts order, contacted) ∧
        (∀ before i rest, contacted = before ++ i :: rest →
          (∃ packet, upstreams[i].result = .ok packet) → rest = []) ∧
        (after = [] ∨ ∃ i ∈ contacted, ∃ packet, upstreams[i].result = .ok packet) := by
  intro fuel
  induction fuel with
  | zero => exact fun _ _ h => absurd h (Nat.not_lt_zero _)
  | succ fuel ih =>
    intro k remaining failures attempts hfuel hpicks
    rw [loadBalanceLoop]
    by_cases hr : remaining = []
    · subst hr
      refine ⟨[], [], [], .refl _, rfl, ?_, by simp, .inl rfl⟩
      rw [if_pos rfl, inOrder_nil]
      rfl
    · have hpos := List.length_pos_iff.mpr hr
      obtain ⟨idx, rest, hswap, hperm⟩ := swapRemove_perm (ε := Empty) (hpicks 0 hpos)
      have hlen : remaining.length = rest.length + 1 := hperm.length_eq
      rw [Nat.add_zero] at hswap
      rw [if_neg hr, hswap, ok_bind]
      dsimp only
      cases h : upstreams[idx].result with
      | ok packet =>
        refine ⟨idx :: rest, [idx], rest, hperm.symm, rfl, ?_, ?_,
          .inr ⟨idx, List.mem_singleton_self _, packet, h⟩⟩
        · rw [inOrder_cons_ok h]
          rfl
        · rintro (_ | ⟨_, before⟩) i after hsplit _
          · cases hsplit
            rfl
          · cases before <;> cases hsplit
      | error e =>
        have hfuel' : rest.length < fuel := by omega
        have hpicks' : ∀ j < rest.length, picks (k + 1 + j) < rest.length - j := by
          intro j hj
          have hpick := hpicks (j + 1) (by omega)
          rw [hlen, Nat.add_sub_add_right] at hpick
          rwa [Nat.add_assoc, Nat.add_comm 1]
        obtain ⟨order, contacted, after, hperm', rfl, hloop, hlast, hrest⟩ :=
          ih (failures ++ [upstreams[idx].failed e])
          (attempts.set idx (some (.failure upstreams[idx].address upstreams[idx].duration
            e.toString))) hfuel' hpicks'
        refine ⟨idx :: (contacted ++ after), idx :: contacted, after,
          (hperm'.cons idx).trans hperm.symm, rfl, ?_, ?_, hrest.imp_right ?_⟩
        · dsimp only
          rw [hloop, ok_bind, inOrder_cons_error h]
          rfl
        · rintro (_ | ⟨_, before⟩) i rest' hsplit ⟨packet, hok⟩
          · cases hsplit
            rw [h] at hok
            cases hok
          · cases hsplit
            exact hlast before i rest' rfl ⟨packet, hok⟩
        · rintro ⟨i, hmem, hok⟩
          exact ⟨i, List.mem_cons_of_mem _ hmem, hok⟩

/-! ### All failures, all replies -/

/-- Every upstream has failed, and each is reported once. -/
structure Joined (upstreams : List Upstream) (outcome : ExchangeOutcome) : Prop where
  /-- They have failed. -/
  failed : ∀ upstream ∈ upstreams, ∃ e, upstream.result = .error e
  /-- The error has one entry for each. -/
  packet : ∃ (attempts : List UpstreamAttemptError) (order : List (Fin upstreams.length)),
    outcome.packet = .error (.upstreamJoined attempts) ∧
      order.Perm (List.finRange upstreams.length) ∧
      List.Forall₂ (fun attempt i => ∃ e, upstreams[i].result = .error e ∧
        attempt = upstreams[i].failed e) attempts order
  /-- The statistics have one entry for each. -/
  stats : outcome.queryStats = .withMain (upstreams.map stat)

/-- The failures in an order. -/
def failuresOf (order : List (Fin upstreams.length)) : List UpstreamAttemptError :=
  order.filterMap fun i =>
    match upstreams[i].result with
    | .ok _ => none
    | .error e => some (upstreams[i].failed e)

/-- The replies in an order. -/
def repliesOf (order : List (Fin upstreams.length)) : List (List UInt8) :=
  order.filterMap fun i => upstreams[i].result.toOption

section

variable {i : Fin upstreams.length} (order : List (Fin upstreams.length))
    {packet : List UInt8} {e : DoHError}

theorem collect_cons_ok (h : upstreams[i].result = .ok packet) :
    repliesOf (i :: order) = packet :: repliesOf order ∧
      failuresOf (i :: order) = failuresOf order := by
  simp only [repliesOf, failuresOf, List.filterMap_cons, h, Except.toOption, and_self]

theorem collect_cons_error (h : upstreams[i].result = .error e) :
    repliesOf (i :: order) = repliesOf order ∧ failuresOf (i :: order) = upstreams[i].failed e ::
      failuresOf order := by
  simp only [repliesOf, failuresOf, List.filterMap_cons, h, Except.toOption, and_self]

end

theorem forall₂_failuresOf : ∀ {order : List (Fin upstreams.length)},
    (∀ i ∈ order, ∃ e, upstreams[i].result = .error e) →
    List.Forall₂ (fun attempt i => ∃ e, upstreams[i].result = .error e ∧
      attempt = upstreams[i].failed e)
      (failuresOf order) order := by
  intro order
  induction order with
  | nil => exact fun _ => .nil
  | cons i order ih =>
    intro h
    obtain ⟨e, he⟩ := h i List.mem_cons_self
    rw [(collect_cons_error order he).2]
    exact .cons ⟨e, he, rfl⟩ (ih fun j hj => h j (List.mem_cons_of_mem i hj))

/-- When all upstreams have failed, the failures in any order are a joined error. -/
theorem joined_of_failures {order : List (Fin upstreams.length)}
    (hperm : order.Perm (List.finRange upstreams.length))
    (hpos : 0 < upstreams.length) (hfailed : ∀ upstream ∈ upstreams, ∃ e,
      upstream.result = .error e) :
    Joined upstreams ⟨.error (.fromUpstreamAttempts (failuresOf order)),
      .withMain (upstreams.map stat)⟩ := by
  have hall := forall₂_failuresOf fun i (_ : i ∈ order) => hfailed _ (List.getElem_mem i.isLt)
  have hne : (failuresOf order).isEmpty = false := by
    rw [List.isEmpty_eq_false_iff, ← List.length_pos_iff, hall.length_eq, hperm.length_eq,
      List.length_finRange]
    exact hpos
  refine ⟨hfailed, ⟨failuresOf order, order, ?_, hperm, hall⟩, rfl⟩
  rw [DohProxy.DoHError.fromUpstreamAttempts, hne]
  rfl

/-- No failures are an error as well. -/
theorem getD_fromUpstreamAttempts (failures : List UpstreamAttemptError) :
    (if failures.isEmpty then none else some (.fromUpstreamAttempts failures)).getD .upstreamIssue =
      DohProxy.DoHError.fromUpstreamAttempts failures := by
  cases failures <;> rfl

theorem filterMap_fill_stat {order : List (Fin upstreams.length)}
    (hperm : order.Perm (List.finRange upstreams.length)) :
    (fill (fun i => upstreams[i].stat) order (List.replicate upstreams.length none)).filterMap id =
      upstreams.map stat := by
  rw [fill_perm _ hperm]
  exact (List.ofFn_getElem_eq_map upstreams stat)

/-- **The first success**, or all failures. -/
theorem inOrder_contract {order : List (Fin upstreams.length)}
    (hperm : order.Perm (List.finRange upstreams.length))
    (hpos : 0 < upstreams.length) :
    (∃ upstream ∈ upstreams, ∃ packet, upstream.result = .ok packet ∧
      inOrder [] (List.replicate upstreams.length none) order = ⟨.ok packet,
        .withMain [upstream.stat]⟩) ∨
    Joined upstreams (inOrder [] (List.replicate upstreams.length none) order) := by
  rw [inOrder]
  cases h : firstSuccess (resultOf upstreams) order with
  | ok r =>
    obtain ⟨i, packet⟩ := r
    obtain ⟨_, _, -, hi, -⟩ := firstSuccess_eq_ok h
    exact .inl ⟨upstreams[i], List.getElem_mem i.isLt, packet, hi, rfl⟩
  | error es =>
    obtain ⟨rfl, hes⟩ := firstSuccess_eq_error h
    have hfailed : ∀ upstream ∈ upstreams, ∃ e, upstream.result = .error e := by
      intro upstream hmem
      obtain ⟨i, hi, rfl⟩ := List.getElem_of_mem hmem
      obtain ⟨⟨j, e⟩, hj, rfl⟩ := List.mem_map.mp
        (hperm.mem_iff.mpr (List.mem_finRange (⟨i, hi⟩ : Fin upstreams.length)))
      exact ⟨e, hes _ e hj⟩
    right
    have hmap : es.map (fun (i, e) => upstreams[i].failed e) = failuresOf (es.map Prod.fst) := by
      rw [failuresOf, List.filterMap_map, ← List.filterMap_eq_map]
      refine List.filterMap_congr fun (i, e) hmem => ?_
      rw [Function.comp_apply, Function.comp_apply,
        show upstreams[i].result = .error e from hes i e hmem]
    dsimp only
    rw [List.nil_append, hmap, filterMap_fill_stat hperm]
    exact joined_of_failures hperm hpos hfailed

/-- **Asking all** collects the replies and the failures. -/
theorem exchangeAllLoop_eq : ∀ {arrivals : List (Fin upstreams.length)} {n : ℕ}
    {replies : List (List UInt8)}
    {failures : List UpstreamAttemptError} {stats : List (Option UpstreamStatistics)},
      arrivals.length ≤ n →
      exchangeAllLoop upstreams n arrivals replies failures stats =
        ⟨replies ++ repliesOf arrivals, (fill (fun i =>
          upstreams[i].stat) arrivals stats).filterMap id,
          if (failures ++ failuresOf arrivals).isEmpty then none
          else some (.fromUpstreamAttempts (failures ++ failuresOf arrivals))⟩ := by
  intro arrivals
  induction arrivals with
  | nil =>
    intro n replies failures stats _
    rw [exchangeAllLoop, repliesOf, failuresOf, List.filterMap_nil, List.filterMap_nil,
      List.append_nil, List.append_nil]
    · rfl
    · nofun
  | cons idx arrivals ih =>
    intro n replies failures stats hn
    obtain ⟨n, rfl⟩ := Nat.exists_eq_succ_of_ne_zero (Nat.ne_zero_of_lt hn)
    rw [exchangeAllLoop, fill, List.foldl_cons, ← fill]
    cases h : upstreams[idx].result with
    | ok packet =>
      have hstat : upstreams[idx].stat =
        .success upstreams[idx].address upstreams[idx].duration := by rw [stat, h]
      obtain ⟨hreplies, hfailures⟩ := collect_cons_ok arrivals h
      dsimp only
      rw [ih (Nat.le_of_succ_le_succ hn), hstat, hreplies, hfailures, List.append_assoc,
        List.singleton_append]
    | error e =>
      have hstat : upstreams[idx].stat =
        .failure upstreams[idx].address upstreams[idx].duration e.toString := by
        rw [stat, h]
      obtain ⟨hreplies, hfailures⟩ := collect_cons_error arrivals h
      dsimp only
      rw [ih (Nat.le_of_succ_le_succ hn), hstat, hreplies, hfailures, List.append_assoc,
        List.singleton_append]

theorem exchangeAll_eq (schedule : Schedule upstreams.length) (hn : upstreams.length ≠ 1) :
    exchangeAll upstreams schedule = ⟨repliesOf schedule.arrivals, upstreams.map stat,
      if (failuresOf schedule.arrivals).isEmpty then none
      else some (.fromUpstreamAttempts (failuresOf schedule.arrivals))⟩ := by
  rw [exchangeAll, dif_neg hn, exchangeAllLoop_eq schedule.length_arrivals.le,
    filterMap_fill_stat schedule.arrivals_perm]
  rfl

theorem mem_repliesOf (schedule : Schedule upstreams.length) {packet : List UInt8} :
    packet ∈ repliesOf schedule.arrivals ↔
      ∃ upstream ∈ upstreams, upstream.result = .ok packet := by
  simp only [repliesOf, List.mem_filterMap]
  constructor
  · rintro ⟨i, -, h⟩
    refine ⟨upstreams[i], List.getElem_mem i.isLt, ?_⟩
    cases hr : upstreams[i].result with
    | ok p =>
      rw [hr] at h
      cases h
      rfl
    | error e =>
      rw [hr] at h
      cases h
  · rintro ⟨upstream, hmem, h⟩
    obtain ⟨i, hi, rfl⟩ := List.getElem_of_mem hmem
    refine ⟨⟨i, hi⟩, schedule.arrivals_perm.mem_iff.mpr (List.mem_finRange _), ?_⟩
    rw [show upstreams[(⟨i, hi⟩ : Fin upstreams.length)].result = .ok packet from h]
    rfl

end

end Upstream

end DohProxy
