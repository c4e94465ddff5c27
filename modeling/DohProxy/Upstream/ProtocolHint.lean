import DohProxy.Lib.Runs
import Mathlib.Algebra.Ring.Nat

/-!
# The protocol of a DoH upstream

The requests to an upstream share what they have found out about it: the protocol to use, and how
often HTTP/3 has failed. After some failures HTTP/3 is left alone for a while. This is `proxy_doh`
of `lib.rs` for an upstream that is not HTTP/3 only, with `select_doh_protocol`, `h3_backoff_active`,
`clear_h3_failures`, `reset_h3_failure_counter` and `record_h3_failure`.

## The model

A step is one access to an atomic or one reading of the clock, or what the network does to a request
that awaits something. The clock goes on between any two steps. For every value stored as the
protocol hint the reason is kept next to it; the code has no such thing.

## What is proved

`h2_not_stored_for_backoff` — **HTTP/2 is not stored for the backoff in any run in which a request
that goes by the backoff still finds it active at its second look**, and it is stored otherwise. The
two looks read the clock separately: `stored_for_backoff`.
-/

namespace DohProxy.Upstream.ProtocolHint

open Lib System

/-- `H3_FAILURE_THRESHOLD`. -/
abbrev h3FailureThreshold : ℕ := 3

/-- `H3_FAILURE_WINDOW_SECS`. -/
abbrev h3FailureWindowSecs : ℕ := 60

/-- `H3_BACKOFF_SECS`. -/
abbrev h3BackoffSecs : ℕ := 30

/-- `DOH_PROTO_UNKNOWN`, `DOH_PROTO_H2` and `DOH_PROTO_H3`. -/
inductive Protocol where
  | unknown
  | h2
  | h3
  deriving DecidableEq

/-- Why a protocol is stored. -/
inductive Reason where
  /-- HTTP/3 is left alone. -/
  | backoff
  /-- The upstream has no address. -/
  | unresolved
  /-- What a probe gave. -/
  | probed
  /-- HTTP/3 failed and may be tried again. -/
  | failed
  /-- HTTP/3 failed and may not be tried again. -/
  | refused
  /-- The time was up. -/
  | timedOut
  deriving DecidableEq

/-- What the requests share. -/
structure DohUpstream where
  /-- `protocol_hint`. -/
  protocolHint : Protocol
  /-- `h3_failures`. -/
  h3Failures : ℕ
  /-- `h3_last_failure_ms`. -/
  h3LastFailureMs : ℕ
  /-- `h3_backoff_until_ms`. -/
  h3BackoffUntilMs : ℕ
  /-- What was stored as the hint and why, the newest first. -/
  stored : List (Protocol × Reason)
  deriving DecidableEq

/-- A store to an atomic. -/
inductive Write where
  | h3Failures (count : ℕ)
  | h3LastFailureMs (ms : ℕ)
  | h3BackoffUntilMs (ms : ℕ)
  | protocolHint (protocol : Protocol) (reason : Reason)
  deriving DecidableEq

/-- Where `h3_backoff_active` is called. -/
inductive Caller where
  /-- Where the hint is HTTP/3. -/
  | hint
  /-- In `select_doh_protocol`. -/
  | select
  /-- Before HTTP/2 is stored as the hint. -/
  | persist (reason : Reason)
  deriving DecidableEq

/-- What a request waits for. -/
inductive Await where
  /-- `resolve_doh_addr`. -/
  | resolving
  /-- The two probes. -/
  | probing
  /-- `doh_post_h3_with_retries`. -/
  | postingH3
  /-- `doh_post_h2_with_retries`. -/
  | postingH2
  deriving DecidableEq

/-- Where a request is. -/
inductive Phase where
  /-- Before it loads the hint. -/
  | load
  /-- In `h3_backoff_active`, before it reads the clock. -/
  | active (caller : Caller)
  /-- In `h3_backoff_active`, before it loads the end of the backoff. -/
  | activeAt (caller : Caller) (now : ℕ)
  /-- In `record_h3_failure`, before it reads the clock. -/
  | record
  /-- In `record_h3_failure`, before it loads the time of the last failure. -/
  | recordAt (now : ℕ)
  /-- In `record_h3_failure`, before it counts the failure. -/
  | recordSince (now last : ℕ)
  /-- Before some stores, with what it waits for after them. -/
  | writing (writes : List Write) (next : Option Await)
  /-- Waiting. -/
  | awaiting (what : Await)
  /-- Over. -/
  | finished
  deriving DecidableEq

/-- What happens to a request. -/
inductive Event where
  /-- The next access to an atomic, or the next reading of the clock. -/
  | access
  /-- The address is there, or there is none. -/
  | resolved (ok : Bool)
  /-- The probe of HTTP/3 is over first. -/
  | probedH3 (ok : Bool)
  /-- The probe of HTTP/2 is over first. -/
  | probedH2 (ok : Bool)
  /-- HTTP/3 gave a packet. -/
  | postedH3
  /-- HTTP/3 failed. -/
  | failedH3 (retryable : Bool)
  /-- HTTP/2 gave a packet, or failed. -/
  | postedH2
  /-- The timeout of the request is over. -/
  | timedOut
  /-- Nobody waits for the request any more. -/
  | dropped
  deriving DecidableEq

/-- What a store does. -/
def Write.apply (upstream : DohUpstream) : Write → DohUpstream
  | .h3Failures count => { upstream with h3Failures := count }
  | .h3LastFailureMs ms => { upstream with h3LastFailureMs := ms }
  | .h3BackoffUntilMs ms => { upstream with h3BackoffUntilMs := ms }
  | .protocolHint protocol reason =>
    { upstream with protocolHint := protocol, stored := (protocol, reason) :: upstream.stored }

/-- The stores of `clear_h3_failures`. -/
def clearH3Failures : List Write := [.h3Failures 0, .h3LastFailureMs 0, .h3BackoffUntilMs 0]

/-- The stores of `reset_h3_failure_counter`. -/
def resetH3FailureCounter : List Write := [.h3Failures 0, .h3LastFailureMs 0]

/-- The stores of `record_h3_failure` after the one of the count. -/
def recordH3Failure (now count : ℕ) : List Write :=
  .h3LastFailureMs now ::
    if count ≥ h3FailureThreshold then
      [.h3Failures 0, .h3BackoffUntilMs (min (now + h3BackoffSecs * 1000) (2 ^ 64 - 1))]
    else []

/-- What a request waits for once it has chosen a protocol. -/
def Protocol.post : Protocol → Await
  | .h3 => .postingH3
  | _ => .postingH2

/-- What a request does with what `select_doh_protocol` gives. -/
def selected (protocol : Protocol) (reason : Reason) : Phase :=
  match protocol with
  | .h2 => .active (.persist reason)
  | protocol => .writing [.protocolHint protocol reason] (some protocol.post)

/-- What a request does with what `h3_backoff_active` gives. -/
def Caller.resume (active : Bool) : Caller → Phase
  | .hint => .awaiting (if active then .postingH2 else .postingH3)
  | .select => if active then selected .h2 .backoff else .awaiting .resolving
  | .persist reason =>
    if active then .awaiting .postingH2
    else .writing [.protocolHint .h2 reason] (some .postingH2)

/-- The next access of a request: what it leaves behind and where the request is then. -/
def Phase.access (now : ℕ) (upstream : DohUpstream) : Phase → Option (DohUpstream × Phase)
  | .load =>
    match upstream.protocolHint with
    | .h3 => some (upstream, .active .hint)
    | .unknown => some (upstream, .active .select)
    | .h2 => some (upstream, .awaiting .postingH2)
  | .active caller => some (upstream, .activeAt caller now)
  | .activeAt caller now => some (upstream, caller.resume (upstream.h3BackoffUntilMs > now))
  | .record => some (upstream, .recordAt now)
  | .recordAt now => some (upstream, .recordSince now upstream.h3LastFailureMs)
  | .recordSince now last =>
    let count :=
      if last = 0 ∨ now - last > h3FailureWindowSecs * 1000 then 1 else upstream.h3Failures + 1
    -- the failure is one that may be tried again, for which the hint is reset in any case
    some ({ upstream with h3Failures := count },
      .writing (recordH3Failure now count ++ [.protocolHint .unknown .failed]) (some .postingH2))
  | .writing (write :: writes) next => some (write.apply upstream, .writing writes next)
  | .writing [] (some what) => some (upstream, .awaiting what)
  | .writing [] none => some (upstream, .finished)
  | .awaiting _ => none
  | .finished => none

/-- Where a request is when what it waits for has happened. -/
def Await.resume : Await → Event → Option Phase
  | .resolving, .resolved ok => some (if ok then .awaiting .probing else selected .h2 .unresolved)
  | .probing, .probedH3 ok => some (selected (if ok then .h3 else .h2) .probed)
  | .probing, .probedH2 ok => some (selected (if ok then .h2 else .h3) .probed)
  | .postingH3, .postedH3 => some (.writing clearH3Failures none)
  | .postingH3, .failedH3 true => some .record
  | .postingH3, .failedH3 false =>
    some (.writing (resetH3FailureCounter ++ [.protocolHint .h2 .refused]) (some .postingH2))
  | .postingH2, .postedH2 => some .finished
  | _, .timedOut => some (.writing [.protocolHint .unknown .timedOut] none)
  | _, .dropped => some .finished
  | _, _ => none

/-- The upstream and its requests. -/
structure Proxy where
  /-- What the clock shows, in milliseconds. -/
  now : ℕ
  /-- What the requests share. -/
  upstream : DohUpstream
  /-- The requests so far. -/
  requests : List Phase
  deriving DecidableEq

/-- What happens. -/
inductive Action where
  /-- The clock goes on. -/
  | tick (ms : ℕ)
  /-- A request comes. -/
  | arrive
  /-- Something happens to a request. -/
  | request (index : ℕ) (event : Event)
  deriving DecidableEq

/-- What happens to a request; without a timeout its time is never up. -/
def Phase.next (timeout now : ℕ) (upstream : DohUpstream) (phase : Phase) :
    Event → Option (DohUpstream × Phase)
  | .access => phase.access now upstream
  | event =>
    match phase with
    | .awaiting what =>
      if event = .timedOut ∧ timeout = 0 then none
      else (what.resume event).map fun phase => (upstream, phase)
    | _ => none

/-- A request goes on. -/
def Proxy.advance (timeout : ℕ) (s : Proxy) (index : ℕ) (event : Event) : Option Proxy := do
  let phase ← s.requests[index]?
  let (upstream, phase) ← phase.next timeout s.now s.upstream event
  return { s with upstream, requests := s.requests.set index phase }

/-- The requests to an upstream, with the timeout of a request and the time at which it all starts. -/
def proxying (timeout start : ℕ) : System Proxy Action where
  init := { now := start, upstream := ⟨.unknown, 0, 0, 0, []⟩, requests := [] }
  step s
    | .tick ms => some { s with now := s.now + ms }
    | .arrive => some { s with requests := s.requests ++ [.load] }
    | .request index event => s.advance timeout index event

/-- The store of HTTP/2 for the backoff. -/
abbrev Write.forBackoff : Write := .protocolHint .h2 .backoff

/-- The stores a request is about to do. -/
def Phase.writes : Phase → List Write
  | .writing writes _ => writes
  | _ => []

/-- Where a request that goes by the backoff looks for the second time, the backoff is still
active. -/
def BackoffHolds (s : Proxy) : Action → Bool
  | .request index .access =>
    match s.requests[index]? with
    | some (.activeAt (.persist .backoff) now) => s.upstream.h3BackoffUntilMs > now
    | _ => true
  | _ => true

/-! ## A step -/

variable {timeout start now : ℕ} {upstream upstream' : DohUpstream}
    {phase phase' : Phase} {s s' : Proxy}

theorem forBackoff_notMem_recordH3Failure (now count : ℕ) :
    .forBackoff ∉ recordH3Failure now count := by
  unfold recordH3Failure
  split <;> simp

/-- A request that has chosen a protocol stores nothing for the backoff yet. -/
theorem forBackoff_notMem_selected {protocol : Protocol} {reason : Reason}
    (h : (protocol, reason) ≠ (.h2, .backoff)) :
    .forBackoff ∉ (selected protocol reason).writes := by
  cases protocol <;> simp [selected, Phase.writes]

/-- Only a second look that finds the backoff over lets HTTP/2 be stored for it. -/
theorem forBackoff_mem_resume {caller : Caller} {active : Bool}
    (h : .forBackoff ∈ (caller.resume active).writes) :
    caller = .persist .backoff ∧ active = false := by
  cases caller with
  | hint => simp [Caller.resume, Phase.writes] at h
  | select => cases active <;> simp [Caller.resume, selected, Phase.writes] at h
  | persist reason =>
    cases active with
    | true => simp [Caller.resume, Phase.writes] at h
    | false =>
      simp only [Caller.resume, Phase.writes, Bool.false_eq_true, if_false,
        List.mem_singleton, Write.forBackoff,
        Write.protocolHint.injEq, true_and] at h
      exact ⟨by rw [h], rfl⟩

/-- What a step of a request does to the hint, and what it may be about to store then. -/
structure Change (upstream : DohUpstream) (phase : Phase) (upstream' : DohUpstream)
    (phase' : Phase) : Prop where
  /-- The hint is as it was, or what the request was about to store. -/
  hint : upstream'.stored = upstream.stored ∧ upstream'.protocolHint = upstream.protocolHint ∨
    ∃ protocol reason, .protocolHint protocol reason ∈ phase.writes ∧
      upstream'.stored = (protocol, reason) :: upstream.stored ∧ upstream'.protocolHint = protocol
  /-- HTTP/2 will be stored for the backoff if that was so before, or by a second look. -/
  writes : .forBackoff ∈ phase'.writes → .forBackoff ∈ phase.writes ∨
    ∃ now, phase = .activeAt (.persist .backoff) now ∧ ¬ upstream.h3BackoffUntilMs > now

/-- A step that leaves the hint alone and is about no store for the backoff. -/
theorem Change.quiet (hstored : upstream'.stored = upstream.stored)
    (hhint : upstream'.protocolHint = upstream.protocolHint) (hwrites : .forBackoff ∉ phase'.writes) :
    Change upstream phase upstream' phase' :=
  ⟨.inl ⟨hstored, hhint⟩, fun hmem => absurd hmem hwrites⟩

theorem Phase.access_change (h : phase.access now upstream = some (upstream', phase')) :
    Change upstream phase upstream' phase' := by
  unfold Phase.access at h
  split at h
  · split at h <;> cases h <;> exact .quiet rfl rfl (by simp [Phase.writes])
  · cases h
    exact .quiet rfl rfl (by simp [Phase.writes])
  · next caller now =>
    -- the second look is the only one that may have a store for the backoff after it
    cases h
    refine ⟨.inl ⟨rfl, rfl⟩, fun hmem => .inr ⟨now, ?_⟩⟩
    obtain ⟨rfl, hactive⟩ := forBackoff_mem_resume hmem
    exact ⟨rfl, of_decide_eq_false hactive⟩
  · cases h
    exact .quiet rfl rfl (by simp [Phase.writes])
  · cases h
    exact .quiet rfl rfl (by simp [Phase.writes])
  · cases h
    exact .quiet rfl rfl (by simp [Phase.writes, forBackoff_notMem_recordH3Failure])
  · next write writes next =>
    cases h
    refine ⟨?_, fun hmem => .inl (List.mem_cons_of_mem write hmem)⟩
    cases write with
    | protocolHint protocol reason => exact .inr ⟨protocol, reason, List.mem_cons_self, rfl, rfl⟩
    | _ => exact .inl ⟨rfl, rfl⟩
  · cases h
    exact .quiet rfl rfl (by simp [Phase.writes])
  · cases h
    exact .quiet rfl rfl (by simp [Phase.writes])
  · cases h
  · cases h

theorem Await.resume_writes {what : Await} {event : Event} (h : what.resume event = some phase) :
    .forBackoff ∉ phase.writes := by
  unfold Await.resume at h
  split at h <;> cases h
  · split
    · simp [Phase.writes]
    · exact forBackoff_notMem_selected (by simp)
  · exact forBackoff_notMem_selected (by simp)
  · exact forBackoff_notMem_selected (by simp)
  · simp [Phase.writes, clearH3Failures]
  · simp [Phase.writes]
  · simp [Phase.writes, resetH3FailureCounter]
  · simp [Phase.writes]
  · simp [Phase.writes]
  · simp [Phase.writes]

theorem Phase.next_change {event : Event}
    (h : phase.next timeout now upstream event = some (upstream', phase')) :
    Change upstream phase upstream' phase' ∧ (event ≠ .access → .forBackoff ∉ phase'.writes) := by
  unfold Phase.next at h
  split at h
  · exact ⟨Phase.access_change h, fun hne => absurd rfl hne⟩
  · split at h
    · next what =>
      split at h
      · cases h
      · obtain ⟨phase'', hresume, heq⟩ := Option.map_eq_some_iff.mp h
        cases heq
        have hwrites := Await.resume_writes hresume
        exact ⟨.quiet rfl rfl hwrites, fun _ => hwrites⟩
    · cases h

/-! ## The runs -/

/-- The invariant of the runs in which the backoff holds. -/
structure Lawful (s : Proxy) : Prop where
  /-- HTTP/2 was not stored for the backoff. -/
  stored : (.h2, .backoff) ∉ s.upstream.stored
  /-- The hint is what was stored last. -/
  hint : s.upstream.protocolHint = ((s.upstream.stored.head?.map Prod.fst).getD .unknown)
  /-- And no request is about to store it. -/
  writes : ∀ phase ∈ s.requests, .forBackoff ∉ phase.writes

theorem Lawful.init : Lawful (proxying timeout start).init :=
  ⟨List.not_mem_nil, rfl, fun _ h => absurd h List.not_mem_nil⟩

theorem Lawful.advance {index : ℕ} {event : Event} (h : Lawful s)
    (hholds : BackoffHolds s (.request index event) = true)
    (hs : s.advance timeout index event = some s') : Lawful s' := by
  obtain ⟨hstored, hhint, hwrites⟩ := h
  simp only [Proxy.advance, Option.bind_eq_bind, Option.bind_eq_some_iff] at hs
  obtain ⟨phase, hphase, ⟨upstream', phase'⟩, hnext, hs⟩ := hs
  obtain rfl := Option.some.inj hs
  obtain ⟨hchange, hevent⟩ := Phase.next_change hnext
  have hclean := hwrites phase (List.mem_of_getElem? hphase)
  refine ⟨?_, ?_, ?_⟩
  · rcases hchange.hint with ⟨hsame, -⟩ | ⟨protocol, reason, hmem, hsame, -⟩
    · rw [hsame]
      exact hstored
    · rw [hsame]
      intro hmem'
      rcases List.mem_cons.mp hmem' with heq | hmem'
      · cases heq
        exact hclean hmem
      · exact hstored hmem'
  · rcases hchange.hint with ⟨hsame, hhint'⟩ | ⟨protocol, reason, -, hsame, hhint'⟩
    · rw [hsame, hhint', hhint]
    · rw [hsame, hhint']
      rfl
  · intro other hother hmem
    rcases List.mem_or_eq_of_mem_set hother with hother | rfl
    · exact hwrites other hother hmem
    · rcases hchange.writes hmem with hmem' | ⟨now, rfl, hover⟩
      · exact hclean hmem'
      · by_cases hne : event = .access
        · subst hne
          simp only [BackoffHolds, hphase] at hholds
          exact hover (of_decide_eq_true hholds)
        · exact hevent hne hmem

theorem Lawful.run {as : List Action}
    (h : Run (proxying timeout start) (fun s a => BackoffHolds s a = true) as s) :
    Lawful s := by
  apply h.stateInvariant Lawful.init
  intro s a s' hI hholds hs
  cases a with
  | tick ms =>
    obtain rfl := Option.some.inj hs
    exact ⟨hI.stored, hI.hint, hI.writes⟩
  | arrive =>
    obtain rfl := Option.some.inj hs
    refine ⟨hI.stored, hI.hint, fun phase hphase => ?_⟩
    rcases List.mem_append.mp hphase with hphase | hphase
    · exact hI.writes phase hphase
    · rw [List.mem_singleton.mp hphase]
      simp [Phase.writes]
  | request index event => exact hI.advance hholds hs

/-- The accesses of one request by itself. -/
theorem Proxy.advance_access {index : ℕ} (hphase : s.requests[index]? = some phase)
    (haccess : phase.access s.now s.upstream = some (upstream', phase')) :
    s.advance timeout index .access = some
      { s with upstream := upstream', requests := s.requests.set index phase' } := by
  simp [Proxy.advance, hphase, Phase.next, haccess]

/-- A request that comes when the backoff is over and the hint is unknown goes on to probe. -/
theorem probes_after_backoff (hhint : s.upstream.protocolHint = .unknown)
    (hover : s.upstream.h3BackoffUntilMs ≤ s.now) :
    ((proxying timeout start).exec Always s
      (.arrive :: List.replicate 3 (.request s.requests.length .access))).map
        (·.requests[s.requests.length]?) =
      some (some (.awaiting .resolving)) := by
  have hnot : ¬ s.upstream.h3BackoffUntilMs > s.now := by omega
  simp [exec, proxying, Proxy.advance, Phase.next, Phase.access, hhint, Caller.resume, hnot]

/-- **HTTP/2 is not stored for the backoff** in a run in which every request that goes by the backoff
still finds it active at its second look: what makes the hint HTTP/2 is always something else, and a
request that comes after the backoff, with nothing known, goes on to probe. -/
theorem h2_not_stored_for_backoff {as : List Action}
    (h : Run (proxying timeout start) (fun s a => BackoffHolds s a = true) as s) :
    (.h2, .backoff) ∉ s.upstream.stored ∧
      (s.upstream.protocolHint = .h2 → ∃ reason, reason ≠ .backoff ∧
        s.upstream.stored.head? = some (.h2, reason)) ∧
      (s.upstream.protocolHint = .unknown → s.upstream.h3BackoffUntilMs ≤ s.now →
        ((proxying timeout start).exec Always s
          (.arrive :: List.replicate 3 (.request s.requests.length .access))).map
            (·.requests[s.requests.length]?) =
          some (some (.awaiting .resolving))) := by
  obtain ⟨hstored, hhint, -⟩ := Lawful.run h
  refine ⟨hstored, fun hh2 => ?_, probes_after_backoff⟩
  rw [hhint] at hh2
  cases hhead : s.upstream.stored with
  | nil => simp [hhead] at hh2
  | cons last rest =>
    obtain ⟨protocol, reason⟩ := last
    simp only [hhead, List.head?_cons, Option.map_some, Option.getD_some] at hh2
    refine ⟨reason, ?_, by rw [hh2]; rfl⟩
    intro hreason
    rw [hhead, hh2, hreason] at hstored
    exact hstored List.mem_cons_self

/-- A second look that finds the backoff over has HTTP/2 stored for it. -/
theorem stored_for_backoff {index : ℕ} (h : BackoffHolds s (.request index .access) = false) :
    ∃ s', (proxying timeout start).exec Always s [.request index .access,
      .request index .access] = some s' ∧
      s'.upstream.stored = (.h2, .backoff) :: s.upstream.stored ∧
        s'.upstream.protocolHint = .h2 := by
  simp only [BackoffHolds] at h
  split at h
  · next now hphase =>
    have hover : ¬ s.upstream.h3BackoffUntilMs > now := of_decide_eq_false h
    obtain ⟨hi, -⟩ := List.getElem?_eq_some_iff.mp hphase
    have hlook : s.advance timeout index .access =
        some { s with
          requests := s.requests.set index (.writing [.forBackoff] (some .postingH2)) } :=
      Proxy.advance_access hphase (by simp [Phase.access, Caller.resume, hover])
    let upstream' := Write.forBackoff.apply s.upstream
    let requests' := (s.requests.set index (.writing [.forBackoff] (some .postingH2))).set index
      (.writing [] (some .postingH2))
    refine ⟨{ s with upstream := upstream', requests := requests' }, ?_, rfl, rfl⟩
    simp only [exec, proxying, if_true, hlook, Option.bind_some]
    rw [Proxy.advance_access (List.getElem?_set_self hi) rfl]
    rfl
  · cases h

/-- Three requests fail over HTTP/3, and a fourth goes by the backoff for HTTP/2, a millisecond before
the backoff ends. -/
def backedOff : List Action :=
  let run (index n : ℕ) : List Action := List.replicate n (.request index .access)
  .arrive :: run 0 3 ++ [.request 0 (.resolved true), .request 0 (.probedH3 true)] ++ run 0 2 ++
    [.arrive, .arrive] ++ run 1 3 ++ run 2 3 ++
    [.request 0 (.failedH3 true), .request 1 (.failedH3 true), .request 2 (.failedH3 true)] ++
    run 0 6 ++ run 1 6 ++ run 2 8 ++ [.tick 29999, .arrive] ++ run 3 3

/-- Nothing is stored where the second look comes at the same time. -/
theorem h2_not_stored_for_backoff_active :
    ∃ s, Run (proxying 5000 1000) (fun s a => BackoffHolds s a = true)
        (backedOff ++ List.replicate 2 (.request 3 .access)) s ∧
      s.requests[3]? = some (.awaiting .postingH2) ∧ (.h2, .backoff) ∉ s.upstream.stored := by
  have h : Run (proxying 5000 1000) (fun s a => BackoffHolds s a = true)
      (backedOff ++ List.replicate 2 (.request 3 .access))
      ⟨30999, ⟨.unknown, 0, 1000, 31000, List.replicate 3 (.unknown, .failed) ++ [(.h3, .probed)]⟩,
        List.replicate 4 (.awaiting .postingH2)⟩ := run_of_exec (by decide +kernel)
  exact ⟨_, h, rfl, (h2_not_stored_for_backoff h).1⟩

/-- A millisecond later HTTP/2 is stored for the backoff that is over, and the request that comes a
minute later goes to HTTP/2 with no probe. -/
theorem h2_stored_for_backoff_over :
    ∃ s, Run (proxying 5000 1000) Always
        (backedOff ++ .tick 1 :: List.replicate 4 (.request 3 .access) ++
          [.tick 60000, .arrive, .request 4 .access]) s ∧
      (.h2, .backoff) ∈ s.upstream.stored ∧ s.upstream.protocolHint = .h2 ∧
      s.upstream.h3BackoffUntilMs ≤ s.now ∧ s.requests[4]? = some (.awaiting .postingH2) := by
  have h : Run (proxying 5000 1000) Always
      (backedOff ++ .tick 1 :: List.replicate 4 (.request 3 .access) ++
        [.tick 60000, .arrive, .request 4 .access])
      ⟨91000, ⟨.h2, 0, 1000, 31000, (.h2, .backoff) ::
        List.replicate 3 (.unknown, .failed) ++ [(.h3, .probed)]⟩,
        List.replicate 5 (.awaiting .postingH2)⟩ := run_of_exec (by decide +kernel)
  exact ⟨_, h, List.mem_cons_self, rfl, by decide, rfl⟩

end DohProxy.Upstream.ProtocolHint
