import DohProxy.Upstream.ProtocolHint
import Mathlib.Data.List.Chain

/-!
# The failures of HTTP/3

What `record_h3_failure`, `reset_h3_failure_counter` and `clear_h3_failures` of `lib.rs` come to when
nothing else happens in the middle of a call: three counters, of which two have zero for "none". What
their single accesses may do to those of another request is in `ProtocolHint`.

## What is proved

`h3_failures_counted` — **the third failure in a row returns `true`, and HTTP/3 is left alone for
30 seconds after the last one that did.**
-/

namespace DohProxy.Upstream.ProtocolHint

open Lib System

namespace DohUpstream

/-- `h3_backoff_active`, at a time. -/
def h3BackoffActive (upstream : DohUpstream) (now : ℕ) : Bool := upstream.h3BackoffUntilMs > now

/-- `clear_h3_failures`. -/
def clearH3Failures (upstream : DohUpstream) : DohUpstream :=
  { upstream with h3Failures := 0, h3LastFailureMs := 0, h3BackoffUntilMs := 0 }

/-- `reset_h3_failure_counter`. -/
def resetH3FailureCounter (upstream : DohUpstream) : DohUpstream :=
  { upstream with h3Failures := 0, h3LastFailureMs := 0 }

/-- `record_h3_failure`, at a time: what it returns and leaves behind. -/
def recordH3Failure (upstream : DohUpstream) (now : ℕ) : Bool × DohUpstream :=
  let last := upstream.h3LastFailureMs
  let count :=
    if last = 0 ∨ now - last > h3FailureWindowSecs * 1000 then 1 else upstream.h3Failures + 1
  let upstream := { upstream with h3Failures := count, h3LastFailureMs := now }
  if count ≥ h3FailureThreshold then
    (true, { upstream with
      h3Failures := 0, h3BackoffUntilMs := min (now + h3BackoffSecs * 1000) (2 ^ 64 - 1) })
  else (false, upstream)

end DohUpstream

/-- What changes the counters. -/
inductive H3Call where
  /-- `record_h3_failure`. -/
  | record
  /-- `reset_h3_failure_counter`. -/
  | reset
  /-- `clear_h3_failures`. -/
  | clear
  deriving DecidableEq

/-- A call, the time that the clock shows and what the call returns, if anything. -/
structure H3Event where
  /-- The call. -/
  call : H3Call
  /-- The time. -/
  now : UInt64
  /-- What it returns. -/
  returned : Bool
  deriving DecidableEq

/-- What a call returns and leaves behind. -/
def DohUpstream.call (upstream : DohUpstream) (now : UInt64) : H3Call → Bool × DohUpstream
  | .record => upstream.recordH3Failure now.toNat
  | .reset => (false, upstream.resetH3FailureCounter)
  | .clear => (false, upstream.clearH3Failures)

/-- Calls, one after the other. -/
def h3Calls : System DohUpstream H3Event where
  init := ⟨.unknown, 0, 0, 0, []⟩
  step upstream event :=
    let (returned, upstream) := upstream.call event.now event.call
    if returned = event.returned then some upstream else none

/-- The count of failures begins anew between two calls: after a reset, a clear or a failure that
has returned `true`, or with a failure that comes more than 60 seconds after the one before. -/
def Anew (a b : H3Event) : Prop :=
  a.call ≠ .record ∨ a.returned = true ∨
    b.call = .record ∧ a.now.toNat + h3FailureWindowSecs * 1000 < b.now.toNat

/-- The calls since the count of failures last began anew. -/
structure Since (events since : List H3Event) : Prop where
  /-- There is one. -/
  ne_nil : since ≠ []
  /-- The count begins anew with the first of them, or it is the first of all. -/
  anew : ∃ earlier, events = earlier ++ since ∧
    ∀ a ∈ earlier.getLast?, ∀ b ∈ since.head?, Anew a b
  /-- It does not between them. -/
  chain : since.IsChain fun a b => ¬ Anew a b

/-- The last failure that has returned `true`, at a time, with no clear after it. -/
def BackedOff (events : List H3Event) (now : UInt64) : Prop :=
  ∃ before after, events = before ++ ⟨.record, now, true⟩ :: after ∧
    ∀ event ∈ after, event.returned = false ∧ event.call ≠ .clear

/-! ### The calls and their accesses -/

variable {events since since' : List H3Event} {event : H3Event} {upstream upstream' : DohUpstream}

/-- How many failures count at a time, with one more. -/
def DohUpstream.failuresAt (upstream : DohUpstream) (now : ℕ) : ℕ :=
  if upstream.h3LastFailureMs = 0 ∨
    now - upstream.h3LastFailureMs > h3FailureWindowSecs * 1000 then 1 else upstream.h3Failures + 1

theorem DohUpstream.recordH3Failure_eq (upstream : DohUpstream) (now : ℕ) :
    upstream.recordH3Failure now = if upstream.failuresAt now ≥ h3FailureThreshold then
      (true, { upstream with
        h3Failures := 0
        h3LastFailureMs := now
        h3BackoffUntilMs := min (now + h3BackoffSecs * 1000) (2 ^ 64 - 1) })
      else
        (false, { upstream with
          h3Failures := upstream.failuresAt now
          h3LastFailureMs := now }) :=
  rfl

theorem clearH3Failures_accesses (upstream : DohUpstream) :
    clearH3Failures.foldl Write.apply upstream = upstream.clearH3Failures :=
  rfl

theorem resetH3FailureCounter_accesses (upstream : DohUpstream) :
    resetH3FailureCounter.foldl Write.apply upstream = upstream.resetH3FailureCounter :=
  rfl

/-- The accesses of a failure, with nothing between them. -/
theorem recordH3Failure_accesses (upstream : DohUpstream) (now : ℕ) :
    Phase.record.access now upstream = some (upstream, .recordAt now) ∧
    (Phase.recordAt now).access now upstream =
      some (upstream, .recordSince now upstream.h3LastFailureMs) ∧
    ∃ counted count, (Phase.recordSince now upstream.h3LastFailureMs).access now upstream =
      some (counted, .writing (recordH3Failure now count ++ [.protocolHint .unknown .failed])
        (some .postingH2)) ∧
      upstream.recordH3Failure now =
        (decide (count ≥ h3FailureThreshold),
          (recordH3Failure now count).foldl Write.apply counted) := by
  refine ⟨rfl, rfl, _, _, rfl, ?_⟩
  change upstream.recordH3Failure now = (decide (upstream.failuresAt now ≥ h3FailureThreshold),
    (recordH3Failure now (upstream.failuresAt now)).foldl Write.apply _)
  rw [DohUpstream.recordH3Failure_eq, recordH3Failure]
  by_cases h : upstream.failuresAt now ≥ h3FailureThreshold
  · rw [if_pos h, if_pos h, decide_eq_true h]
    rfl
  · rw [if_neg h, if_neg h, decide_eq_false h]
    rfl

/-! ### The calls since the count last began anew -/

/-- They are the same, however they are found. -/
theorem Since.unique (h : Since events since) (h' : Since events since') : since = since' := by
  -- the longer ones would begin anew in the middle
  have key : ∀ {since since' more : List H3Event}, Since events since → Since events since' →
      since = more ++ since' → more = [] := by
    rintro since since' more h h' rfl
    obtain ⟨earlier, hevents, -⟩ := h.anew
    obtain ⟨earlier', hevents', hanew'⟩ := h'.anew
    obtain rfl : earlier' = earlier ++ more := by
      rw [hevents, ← List.append_assoc] at hevents'
      exact (List.append_cancel_right hevents').symm
    by_contra hne
    obtain ⟨b, hb⟩ := Option.isSome_iff_exists.mp (List.isSome_head?.mpr h'.ne_nil)
    have hlast := List.getLast?_eq_some_getLast hne
    refine (List.isChain_append.mp h.chain).2.2 _ hlast b hb (hanew' _ ?_ b hb)
    rw [List.getLast?_append_of_ne_nil _ hne]
    exact hlast
  obtain ⟨earlier, hevents, -⟩ := h.anew
  obtain ⟨earlier', hevents', -⟩ := h'.anew
  rcases List.append_eq_append_iff.mp (hevents.symm.trans hevents') with
    ⟨more, -, heq⟩ | ⟨more, -, heq⟩
  · rw [heq, key h h' heq, List.nil_append]
  · rw [heq, key h' h heq, List.nil_append]

/-- What the counters hold after some calls, of which these failures count. -/
structure Counted (events : List H3Event) (upstream : DohUpstream) (since : List H3Event) :
    Prop where
  /-- The count begins anew with the first of them, or with the next one to come. -/
  anew : ∃ earlier, events = earlier ++ since ∧ ∀ a ∈ earlier.getLast?,
    (since = [] → a.call ≠ .record ∨ a.returned = true) ∧ ∀ b ∈ since.head?, Anew a b
  /-- It does not between them. -/
  chain : since.IsChain fun a b => ¬ Anew a b
  /-- They have returned `false`. -/
  failures : ∀ event ∈ since, event.call = .record ∧ event.returned = false
  /-- How many there are. -/
  count : upstream.h3Failures = since.length
  /-- They are too few to leave HTTP/3 alone. -/
  lt : since.length < h3FailureThreshold
  /-- When the last one was. -/
  last : ∀ event ∈ since.getLast?,
    upstream.h3LastFailureMs = event.now.toNat ∧ 0 < event.now.toNat

variable {now : UInt64} {returned : Bool}

/-- **A failure counts**, with the ones since the count last began anew. -/
theorem Counted.record (h : Counted events upstream since) (now : UInt64) (returned : Bool) :
    ∃ before, Since (events ++ [⟨.record, now, returned⟩]) (before ++ [⟨.record, now, returned⟩]) ∧
      (∀ event ∈ before, event.call = .record ∧ event.returned = false) ∧
      before.length < h3FailureThreshold ∧
      upstream.failuresAt now.toNat = before.length + 1 := by
  obtain ⟨earlier, rfl, hearlier⟩ := h.anew
  unfold DohUpstream.failuresAt
  rcases List.eq_nil_or_concat since with rfl | ⟨front, a, rfl⟩
  · -- nothing counts yet
    refine ⟨[], ⟨by simp, ⟨earlier, by simp, fun a ha b _ => ?_⟩, List.isChain_singleton _⟩,
      by simp, by decide, ?_⟩
    · exact ((hearlier a ha).1 rfl).elim .inl fun hreturned => .inr (.inl hreturned)
    · rw [h.count]
      exact ite_id _
  · rw [List.concat_eq_append] at *
    obtain ⟨hlast, hpos⟩ := h.last a (by simp)
    obtain ⟨hcall, hreturned⟩ := h.failures a (by simp)
    by_cases hgap : a.now.toNat + h3FailureWindowSecs * 1000 < now.toNat
    · -- the last one is too long ago
      refine ⟨[], ⟨by simp, ⟨earlier ++ (front ++ [a]), by simp, fun a' ha' b hb => ?_⟩,
        List.isChain_singleton _⟩, by simp, by decide, if_pos (by omega)⟩
      obtain rfl : a = a' := by simpa [← List.append_assoc] using ha'
      obtain rfl : _ = b := by simpa using hb
      exact .inr (.inr ⟨rfl, hgap⟩)
    · refine ⟨front ++ [a], ⟨by simp, ⟨earlier, by simp, fun a' ha' b hb => ?_⟩, ?_⟩, h.failures,
        h.lt, ?_⟩
      · refine (hearlier a' ha').2 b ?_
        rwa [List.head?_append_of_ne_nil _ (by simp)] at hb
      · refine h.chain.append (List.isChain_singleton _) fun a' ha' b hb => ?_
        obtain rfl : a = a' := by simpa using ha'
        obtain rfl : _ = b := by simpa using hb
        simp [Anew, hcall, hreturned, hgap]
      · rw [if_neg (by omega), h.count]

/-- Nothing counts after a call after which the count begins anew. -/
theorem Counted.of_anew (hevent : event.call ≠ .record ∨ event.returned = true)
    (hcount : upstream.h3Failures = 0) : Counted (events ++ [event]) upstream [] where
  anew := ⟨events ++ [event], (List.append_nil _).symm, by simpa using hevent⟩
  chain := .nil
  failures := by simp
  count := hcount
  lt := by decide
  last := by simp

/-- A failure returns `true` exactly if it is the third one that counts. -/
theorem Counted.returned_iff (h : Counted events upstream since) (now : UInt64) :
    (upstream.recordH3Failure now.toNat).1 = true ↔ ∃ since,
      Since (events ++ [⟨.record, now, (upstream.recordH3Failure now.toNat).1⟩]) since ∧
        since.countP (·.call = .record) = h3FailureThreshold := by
  obtain ⟨before, hsince, hbefore, hlt, hcount⟩ :=
    h.record now (upstream.recordH3Failure now.toNat).1
  have hall : ∀ event ∈ before ++ [⟨.record, now, (upstream.recordH3Failure now.toNat).1⟩],
      decide (event.call = .record) = true := by
    intro event hevent
    rcases List.mem_append.mp hevent with hevent | hevent
    · exact decide_eq_true (hbefore event hevent).1
    · rw [List.mem_singleton.mp hevent]
      rfl
  have hthird : (upstream.recordH3Failure now.toNat).1 = true ↔
      before.length + 1 = h3FailureThreshold := by
    rw [DohUpstream.recordH3Failure_eq, hcount]
    split
    · next hge => exact iff_of_true rfl (le_antisymm hlt hge)
    · next hge => exact iff_of_false (by simp) fun heq => hge heq.ge
  rw [hthird]
  constructor
  · intro heq
    exact ⟨_, hsince, by rw [List.countP_eq_length.mpr hall, List.length_append]; exact heq⟩
  · rintro ⟨since', hsince', heq⟩
    rw [hsince'.unique hsince, List.countP_eq_length.mpr hall, List.length_append] at heq
    exact heq

/-- **A call** keeps the counters right. -/
theorem Counted.call (h : Counted events upstream since) (hpos : 0 < event.now)
    (hs : h3Calls.step upstream event = some upstream') :
    ∃ since', Counted (events ++ [event]) upstream' since' := by
  obtain ⟨call, now, returned⟩ := event
  simp only [h3Calls, Option.ite_none_right_eq_some, Option.some.injEq] at hs
  obtain ⟨rfl, rfl⟩ := hs
  cases call with
  | reset => exact ⟨[], .of_anew (.inl (by simp)) rfl⟩
  | clear => exact ⟨[], .of_anew (.inl (by simp)) rfl⟩
  | record =>
    obtain ⟨before, hsince, hbefore, hlt, hcount⟩ :=
      h.record now (upstream.recordH3Failure now.toNat).1
    have heq := upstream.recordH3Failure_eq now.toNat
    rw [hcount] at heq
    by_cases hge : before.length + 1 ≥ h3FailureThreshold
    · rw [if_pos hge] at heq
      simp only [DohUpstream.call, heq]
      exact ⟨[], .of_anew (.inr rfl) rfl⟩
    · rw [if_neg hge] at heq
      rw [heq] at hsince
      simp only [DohUpstream.call, heq]
      obtain ⟨earlier, hevents, hearlier⟩ := hsince.anew
      refine ⟨before ++ [⟨.record, now, false⟩], ⟨earlier, hevents, fun a ha => ⟨by simp, hearlier a ha⟩⟩,
        hsince.chain, ?_, by simp, by simpa using hge, ?_⟩
      · intro event hevent
        rcases List.mem_append.mp hevent with hevent | hevent
        · exact hbefore event hevent
        · rw [List.mem_singleton.mp hevent]
          exact ⟨rfl, rfl⟩
      · intro event hevent
        obtain rfl : _ = event := by simpa using hevent
        exact ⟨rfl, UInt64.lt_iff_toNat_lt.mp hpos⟩

/-! ### The backoff -/

theorem backedOff_concat {s : UInt64} : BackedOff (events ++ [event]) s ↔
    event = ⟨.record, s, true⟩ ∨
      BackedOff events s ∧ event.returned = false ∧ event.call ≠ .clear := by
  constructor
  · rintro ⟨before, after, heq, hafter⟩
    rcases List.eq_nil_or_concat after with rfl | ⟨front, last, rfl⟩
    · exact .inl (List.singleton_inj.mp (List.append_inj' heq rfl).2)
    · rw [List.concat_eq_append] at *
      rw [← List.cons_append, ← List.append_assoc] at heq
      obtain ⟨rfl, hlast⟩ := List.append_inj' heq rfl
      obtain rfl := List.singleton_inj.mp hlast
      exact .inr ⟨⟨before, front, rfl, fun x hx => hafter x (List.mem_append_left _ hx)⟩,
        hafter event (by simp)⟩
  · rintro (rfl | ⟨⟨before, after, rfl, hafter⟩, hevent⟩)
    · exact ⟨events, [], rfl, by simp⟩
    · refine ⟨before, after ++ [event], by simp, fun x hx => ?_⟩
      rcases List.mem_append.mp hx with hx | hx
      · exact hafter x hx
      · rw [List.mem_singleton.mp hx]
        exact hevent

/-- What the end of the backoff is after some calls. -/
structure BackoffKept (events : List H3Event) (upstream : DohUpstream) : Prop where
  /-- 30 seconds after the last failure that has returned `true`. -/
  eq_of_backedOff : ∀ s, BackedOff events s →
    upstream.h3BackoffUntilMs = min (s.toNat + h3BackoffSecs * 1000) (2 ^ 64 - 1)
  /-- None, if there is no such failure. -/
  eq_zero : (∀ s, ¬ BackedOff events s) → upstream.h3BackoffUntilMs = 0

/-- A call that is no clear and returns `false` does not count for it. -/
theorem BackoffKept.of_eq (h : BackoffKept events upstream) (hreturned : event.returned = false)
    (hcall : event.call ≠ .clear) (heq : upstream'.h3BackoffUntilMs = upstream.h3BackoffUntilMs) :
    BackoffKept (events ++ [event]) upstream' := by
  have hiff : ∀ s, BackedOff (events ++ [event]) s ↔ BackedOff events s := by
    intro s
    rw [backedOff_concat]
    constructor
    · rintro (rfl | hback)
      · cases hreturned
      · exact hback.1
    · exact fun hback => .inr ⟨hback, hreturned, hcall⟩
  exact ⟨fun s hback => heq.trans (h.eq_of_backedOff s ((hiff s).mp hback)),
    fun hno => heq.trans (h.eq_zero fun s hback => hno s ((hiff s).mpr hback))⟩

/-- **A call** keeps the end of the backoff right. -/
theorem BackoffKept.call (h : BackoffKept events upstream)
    (hs : h3Calls.step upstream event = some upstream') :
    BackoffKept (events ++ [event]) upstream' := by
  obtain ⟨call, now, returned⟩ := event
  simp only [h3Calls, Option.ite_none_right_eq_some, Option.some.injEq] at hs
  obtain ⟨rfl, rfl⟩ := hs
  cases call with
  | reset => exact h.of_eq rfl (by simp) rfl
  | clear =>
    refine ⟨fun s hback => ?_, fun _ => rfl⟩
    rcases backedOff_concat.mp hback with heq | ⟨-, -, hclear⟩
    · cases heq
    · exact absurd rfl hclear
  | record =>
    have heq := upstream.recordH3Failure_eq now.toNat
    split at heq
    · simp only [DohUpstream.call, heq]
      refine ⟨fun s hback => ?_, fun hno => ?_⟩
      · rcases backedOff_concat.mp hback with heq | ⟨-, hfalse, -⟩
        · rw [(H3Event.mk.inj heq).2.1]
        · cases hfalse
      · exact absurd (backedOff_concat.mpr (.inl rfl)) (hno now)
    · simp only [DohUpstream.call, heq]
      exact h.of_eq rfl (by simp) rfl

theorem BackoffKept.active_iff (h : BackoffKept events upstream) (now : UInt64) :
    upstream.h3BackoffActive now.toNat = true ↔ ∃ s, BackedOff events s ∧
      now.toNat < min (s.toNat + h3BackoffSecs * 1000) (2 ^ 64 - 1) := by
  rw [DohUpstream.h3BackoffActive, decide_eq_true_iff, gt_iff_lt]
  constructor
  · intro hlt
    by_cases hsome : ∃ s, BackedOff events s
    · obtain ⟨s, hback⟩ := hsome
      exact ⟨s, hback, h.eq_of_backedOff s hback ▸ hlt⟩
    · rw [h.eq_zero (not_exists.mp hsome)] at hlt
      exact absurd hlt (Nat.not_lt_zero _)
  · rintro ⟨s, hback, hlt⟩
    rw [h.eq_of_backedOff s hback]
    exact hlt

/-! ### The runs -/

/-- A failure has returned `true` exactly if it is the third one since the count last began anew. -/
def ThirdReturned (events : List H3Event) : Prop :=
  ∀ before now returned after, events = before ++ ⟨.record, now, returned⟩ :: after →
    (returned = true ↔ ∃ since, Since (before ++ [⟨.record, now, returned⟩]) since ∧
      since.countP (·.call = .record) = 3)

theorem ThirdReturned.call (h : ThirdReturned events) (hcounted : Counted events upstream since)
    (hs : h3Calls.step upstream event = some upstream') : ThirdReturned (events ++ [event]) := by
  intro before now returned after heq
  rcases List.eq_nil_or_concat after with rfl | ⟨front, last, rfl⟩
  · obtain ⟨rfl, hevent⟩ := List.append_inj' heq rfl
    obtain rfl := List.singleton_inj.mp hevent
    simp only [h3Calls, Option.ite_none_right_eq_some] at hs
    obtain ⟨rfl, -⟩ := hs
    exact hcounted.returned_iff now
  · rw [List.concat_eq_append, ← List.cons_append, ← List.append_assoc] at heq
    obtain ⟨rfl, -⟩ := List.append_inj' heq rfl
    exact h before now returned front rfl

/-- **The third failure in a row returns `true`, and only that**: it is the third one since the start,
a reset, a clear, a failure that has returned `true`, or a gap of more than 60 seconds. **HTTP/3 is
left alone** for 30 seconds after the last failure that has returned `true`, unless there is a clear
after it; at the last time that there is, it never is. -/
theorem h3_failures_counted
    (h : Run h3Calls (fun _ event => 0 < event.now) events upstream) :
    ThirdReturned events ∧
    ∀ now : UInt64, upstream.h3BackoffActive now.toNat = true ↔
      ∃ s, BackedOff events s ∧ now.toNat < min (s.toNat + 30000) (2 ^ 64 - 1) := by
  have hinv : ThirdReturned events ∧ (∃ since, Counted events upstream since) ∧
      BackoffKept events upstream := by
    refine h.invariant (I := fun events upstream => ThirdReturned events ∧
      (∃ since, Counted events upstream since) ∧ BackoffKept events upstream) ?_ ?_
    · exact ⟨by simp [ThirdReturned],
        ⟨[], ⟨[], rfl, by simp⟩, .nil, by simp, rfl, by decide, by simp⟩,
        by simp [BackedOff], fun _ => rfl⟩
    · rintro events event upstream upstream' ⟨hthird, ⟨since, hcounted⟩, hkept⟩ hpos hs
      exact ⟨hthird.call hcounted hs, hcounted.call hpos hs, hkept.call hs⟩
  exact ⟨hinv.1, hinv.2.2.active_iff⟩

/-- Three failures at a time. -/
def threeFailures (now : UInt64) : List H3Event :=
  [⟨.record, now, false⟩, ⟨.record, now, false⟩, ⟨.record, now, true⟩]

theorem h3_failures_counted_three :
    ∃ upstream, Run h3Calls (fun _ event => 0 < event.now) (threeFailures 1000) upstream ∧
      ThirdReturned (threeFailures 1000) ∧
      ∀ now : UInt64, upstream.h3BackoffActive now.toNat = true ↔
        ∃ s, BackedOff (threeFailures 1000) s ∧
          now.toNat < min (s.toNat + 30000) (2 ^ 64 - 1) := by
  obtain ⟨upstream, hrun⟩ : ∃ upstream, h3Calls.exec (fun _ event => 0 < event.now) h3Calls.init
    (threeFailures 1000) = some upstream := ⟨_, rfl⟩
  have h := run_of_exec hrun
  exact ⟨upstream, h, h3_failures_counted h⟩

/-- Nine milliseconds before the last time that there is. -/
abbrev nearlyOver : UInt64 := 18446744073709551606

/-- **At the last time that there is, HTTP/3 is not left alone**, even less than 30 seconds after the
third failure. -/
theorem backoff_over_at_last_time :
    ∃ upstream, Run h3Calls (fun _ event => 0 < event.now) (threeFailures nearlyOver) upstream ∧
      BackedOff (threeFailures nearlyOver) nearlyOver ∧
      (18446744073709551615 : UInt64).toNat < nearlyOver.toNat + 30000 ∧
      upstream.h3BackoffActive (18446744073709551615 : UInt64).toNat = false := by
  have hrun : h3Calls.exec (fun _ event => 0 < event.now) h3Calls.init (threeFailures nearlyOver) =
      some ⟨.unknown, 0, 18446744073709551606, 18446744073709551615, []⟩ := by decide +kernel
  have hback : BackedOff (threeFailures nearlyOver) nearlyOver :=
    ⟨[⟨.record, nearlyOver, false⟩, ⟨.record, nearlyOver, false⟩], [], rfl, by simp⟩
  exact ⟨_, run_of_exec hrun, hback, by decide +kernel, by decide +kernel⟩

end DohProxy.Upstream.ProtocolHint
