import DohProxy.Lib.Retry
import DohProxy.Upstream.ProtocolHint
import DohProxy.Upstream.Retryable

/-!
# Requests to a DoH upstream that are repeated

A request to a DoH upstream is posted over HTTP/3 or HTTP/2, and over HTTP/2 if HTTP/3 fails. Over
either a failure that is retryable is followed by a reset of the client, and by another post as long
as there was a client when the request came and the request has not been repeated too often. This is
`proxy_doh` of `lib.rs` with `doh_post_h3_with_retries` and `doh_post_h2_with_retries`; what the
requests share is in `ProtocolHint`.

## The model

What becomes of each post is given, by where it fails, and so are the protocol that is chosen and
whether there are clients. A post that nothing becomes of lasts until the time is up, as a choice
does that is never made. A reset is the call of `maybe_reset_doh_h2_client` or of
`maybe_reset_doh_h3_client`, which may do nothing.

## What is proved

`proxyDoh_posts` — what is posted and reset in which order, and that **the result is that of the
last post**: no post follows one that is answered or under way, and one that must not be repeated is
followed by a post over HTTP/2 at most.
-/

namespace DohProxy.Upstream.Retries

open Lib Retryable ProtocolHint

/-- `DOH_REQUEST_RETRY_LIMIT`. -/
abbrev dohRequestRetryLimit : ℕ := 2

/-- A DNS packet. -/
abbrev Packet := List UInt8

/-! ### One post -/

/-- What becomes of a post over HTTP/2. -/
inductive H2Post where
  /-- `doh_h2_client` fails. -/
  | noClient (err : DoHFailure)
  /-- The URI is none, or the headers are not. -/
  | noRequest
  /-- The request fails. -/
  | unanswered (err : HyperLegacyError)
  /-- The status is not 200. -/
  | refused
  /-- The body fails. -/
  | noBody (err : HyperError)
  /-- The body is there. -/
  | answered (body : Packet)

/-- `doh_post_h2_once`. -/
def dohPostH2Once : H2Post → Except Failure Packet
  | .noClient err => .error (.fromDohError err)
  | .noRequest => .error ⟨.invalidData, false⟩
  | .unanswered err => .error (.fromHyperLegacyError err)
  | .refused => .error ⟨.upstreamIssue, false⟩
  | .noBody err => .error (.fromHyperError err)
  | .answered body => .ok body

/-- What becomes of a post over HTTP/3. -/
inductive H3Post where
  /-- `resolve_doh_addr` fails. -/
  | unresolved (err : DoHFailure)
  /-- There is no socket for the address. -/
  | noSocket (err : IoError) (sources : List Cause)
  /-- `connect_with_config` fails. -/
  | unconnected (err : StdError)
  /-- The request is not sent, or its body is not. -/
  | unsent (err : StdError)
  /-- The status is not 200. -/
  | refused
  /-- The connection has an error. -/
  | connectionError (err : H3Error)
  /-- The connection is shut down. -/
  | connectionShutdown (reason : Option H3ConnectionError)
  /-- The stream is reset or closed or ends too early, or nobody will ever answer. -/
  | lost
  /-- The body is there. -/
  | answered (body : Packet)

/-- `doh_post_h3_once`. -/
def dohPostH3Once : H3Post → Except Failure Packet
  | .unresolved err => .error (.fromDohError err)
  | .noSocket err sources => .error (.fromIo err sources)
  | .unconnected err => .error (.fromBoxedSync err)
  | .unsent err => .error (.fromSendError err)
  | .refused => .error ⟨.upstreamIssue, false⟩
  | .connectionError err => .error ⟨.upstreamIssue, isRetryableH3Error err⟩
  | .connectionShutdown reason =>
    .error ⟨.upstreamIssue, (reason.map isRetryableH3ConnectionError).getD true⟩
  | .lost => .error ⟨.upstreamIssue, true⟩
  | .answered body => .ok body

/-! ### A request -/

/-- A client of an upstream. -/
inductive Client where
  | h2
  | h3
  deriving DecidableEq

/-- What a request does. -/
inductive Event where
  /-- It begins a post. -/
  | post (client : Client)
  /-- It may reset the client. -/
  | reset (client : Client)
  deriving DecidableEq

/-- What becomes of a post: nothing, or its result. -/
abbrev Outcome := Option (Except Failure Packet)

/-- What a request has done and what comes of it. -/
structure Posts where
  /-- What it has done. -/
  events : List Event
  /-- The result, if there is one before the time is up. -/
  result : Outcome

/-- `doh_post_h2_with_retries` and `doh_post_h3_with_retries`, with the results of the posts and the
retries that are left. -/
def dohPostWithRetries (client : Client) (hadCachedClient : Bool) (postOnce : ℕ → Outcome) :
    ℕ → ℕ → Posts
  | left, retries =>
    match postOnce retries with
    | none => ⟨[.post client], none⟩
    | some (.ok packet) => ⟨[.post client], some (.ok packet)⟩
    | some (.error failure) =>
      match hadCachedClient && failure.retryable, left with
      | true, left + 1 =>
        let posts := dohPostWithRetries client hadCachedClient postOnce left (retries + 1)
        ⟨.post client :: .reset client :: posts.events, posts.result⟩
      | _, _ =>
        ⟨.post client :: if failure.retryable then [.reset client] else [], some (.error failure)⟩

/-- `doh_post_h2_with_retries`. -/
def dohPostH2WithRetries (hadCachedClient : Bool) (posts : ℕ → Option H2Post) : Posts :=
  dohPostWithRetries .h2 hadCachedClient (fun k => (posts k).map dohPostH2Once)
    dohRequestRetryLimit 0

/-- `doh_post_h3_with_retries`. -/
def dohPostH3WithRetries (hadCachedClient : Bool) (posts : ℕ → Option H3Post) : Posts :=
  dohPostWithRetries .h3 hadCachedClient (fun k => (posts k).map dohPostH3Once)
    dohRequestRetryLimit 0

/-- A request and what it meets. -/
structure Request where
  /-- `h3_only`. -/
  h3Only : Bool
  /-- The protocol that is chosen, if one is before the time is up. -/
  protocol : Option Protocol
  /-- There is a client for HTTP/3 when it is tried. -/
  h3Cached : Bool
  /-- There is a client for HTTP/2 when it is tried. -/
  h2Cached : Bool
  /-- What becomes of the posts over HTTP/3. -/
  h3Posts : ℕ → Option H3Post
  /-- What becomes of the posts over HTTP/2. -/
  h2Posts : ℕ → Option H2Post
  /-- There is a timeout. -/
  timeout : Bool

namespace Request

/-- The posts over HTTP/3. -/
def overH3 (r : Request) : Posts := dohPostH3WithRetries r.h3Cached r.h3Posts

/-- The posts over HTTP/2. -/
def overH2 (r : Request) : Posts := dohPostH2WithRetries r.h2Cached r.h2Posts

/-- The request without its timeout. -/
def untimed (r : Request) : Posts :=
  if r.h3Only then r.overH3
  else match r.protocol with
    | none => ⟨[], none⟩
    | some .h3 =>
      match r.overH3.result with
      | some (.error _) => ⟨r.overH3.events ++ r.overH2.events, r.overH2.result⟩
      | _ => r.overH3
    | some _ => r.overH2

/-- `proxy_doh`: what the request has done and what it gives, which is nothing as long as it lasts
and has no timeout. -/
def proxyDoh (r : Request) : List Event × Option (Except DoHError Packet) :=
  match r.untimed.result with
  | some result => (r.untimed.events, some (result.mapError Failure.err))
  | none =>
    if r.timeout then
      (r.untimed.events ++ [.reset .h2, .reset .h3], some (.error .upstreamTimeout))
    else (r.untimed.events, none)

end Request

/-! ### The posts over one client -/

variable {client : Client} {hadCachedClient : Bool} {postOnce : ℕ → Outcome} {left k n : ℕ}
  {posts : Posts}

/-- The post failed and may be repeated. -/
def Outcome.again : Outcome → Bool
  | some (.error failure) => failure.retryable
  | _ => false

/-- What a request does for a post. -/
def Outcome.events (client : Client) (outcome : Outcome) : List Event :=
  .post client :: if outcome.again then [.reset client] else []

/-- A post that is not repeated is the last one. -/
theorem dohPostWithRetries_last
    (h : (hadCachedClient && (postOnce k).again) = false ∨ left = 0) :
    dohPostWithRetries client hadCachedClient postOnce left k =
      ⟨(postOnce k).events client, postOnce k⟩ := by
  unfold dohPostWithRetries Outcome.events
  cases hk : postOnce k with
  | none => rfl
  | some result =>
    cases result with
    | ok packet => rfl
    | error failure =>
      simp only [hk, Outcome.again] at h ⊢
      cases hagain : hadCachedClient && failure.retryable with
      | false => rfl
      | true =>
        rw [hagain] at h
        cases h.resolve_left Bool.noConfusion
        rfl

/-- A post that is repeated is followed by a reset. -/
theorem dohPostWithRetries_again (h : (hadCachedClient && (postOnce k).again) = true) :
    dohPostWithRetries client hadCachedClient postOnce (left + 1) k =
      let posts := dohPostWithRetries client hadCachedClient postOnce left (k + 1)
      ⟨(postOnce k).events client ++ posts.events, posts.result⟩ := by
  conv_lhs => unfold dohPostWithRetries
  unfold Outcome.events
  cases hk : postOnce k with
  | none => simp [hk, Outcome.again] at h
  | some result =>
    cases result with
    | ok packet => simp [hk, Outcome.again] at h
    | error failure =>
      rw [hk, Outcome.again, Bool.and_eq_true] at h
      obtain ⟨rfl, hretryable⟩ := h
      simp [Outcome.again, hretryable]

/-- The posts of a request are attempts that are repeated. -/
theorem dohPostWithRetries_eq (client : Client) (hadCachedClient : Bool) (postOnce : ℕ → Outcome)
    (left k : ℕ) :
    let outcomes :=
      attempts (fun outcome => hadCachedClient && Outcome.again outcome) postOnce left k
    let posts := dohPostWithRetries client hadCachedClient postOnce left k
    posts.events = outcomes.flatMap (Outcome.events client) ∧
      outcomes.getLast? = some posts.result := by
  induction left generalizing k with
  | zero =>
    rw [dohPostWithRetries_last (.inr rfl)]
    exact ⟨by simp [attempts], rfl⟩
  | succ left ih =>
    cases h : hadCachedClient && (postOnce k).again with
    | false =>
      rw [dohPostWithRetries_last (.inl h), attempts_of_not h]
      exact ⟨by simp, rfl⟩
    | true =>
      obtain ⟨hevents, hresult⟩ := ih (k + 1)
      rw [dohPostWithRetries_again h, attempts_of_again h]
      refine ⟨?_, ?_⟩
      · simp only [List.flatMap_cons, hevents]
      · rw [List.getLast?_cons, hresult]
        rfl

/-- What the posts over a client come to, `n` of them being repeated. -/
structure Posted (client : Client) (hadCachedClient : Bool) (postOnce : ℕ → Outcome) (n : ℕ)
    (posts : Posts) : Prop where
  /-- Each post that is repeated is followed by a reset, and so is the last one if it might be
  repeated but for the limit. -/
  events : posts.events =
    (List.replicate n [.post client, .reset client]).flatten ++ (postOnce n).events client
  /-- The result is that of the last post. -/
  result : posts.result = postOnce n
  /-- There are not too many. -/
  le : n ≤ dohRequestRetryLimit
  /-- A post is repeated only if it failed and may be, and there was a client. -/
  again : ∀ i < n, hadCachedClient = true ∧ (postOnce i).again = true
  /-- The last one is none of these, unless it is one too many. -/
  last : hadCachedClient = true → (postOnce n).again = true → n = dohRequestRetryLimit

/-- What a request does for a post that may be repeated. -/
theorem Outcome.events_of_again {outcome : Outcome} (h : outcome.again = true) :
    outcome.events client = [.post client, .reset client] := by
  rw [Outcome.events, if_pos h]

/-- The posts over a client. -/
theorem exists_posted (client : Client) (hadCachedClient : Bool) (postOnce : ℕ → Outcome) :
    ∃ n, Posted client hadCachedClient postOnce n
      (dohPostWithRetries client hadCachedClient postOnce dohRequestRetryLimit 0) := by
  obtain ⟨hevents, hresult⟩ :=
    dohPostWithRetries_eq client hadCachedClient postOnce dohRequestRetryLimit 0
  obtain ⟨n, heq, hle, hagain, hlast⟩ := attempts_spec
    (fun outcome => hadCachedClient && Outcome.again outcome) postOnce dohRequestRetryLimit 0
  simp only [Nat.zero_add, Bool.and_eq_true] at heq hagain hlast
  rw [heq] at hevents hresult
  rw [List.getLast?_concat, Option.some.injEq] at hresult
  refine ⟨n, ?_, hresult.symm, hle, hagain, fun hcached h => hlast ⟨hcached, h⟩⟩
  have hbefore : ((List.range' 0 n).map postOnce).map (Outcome.events client) =
      List.replicate n [.post client, .reset client] := by
    rw [List.map_map, List.eq_replicate_iff]
    refine ⟨by simp, fun events h => ?_⟩
    obtain ⟨i, hi, rfl⟩ := List.mem_map.mp h
    exact Outcome.events_of_again (hagain i (by simpa using hi)).2
  rw [hevents, List.flatMap_append, List.flatMap_def, hbefore, List.flatMap_singleton]

/-- How often a request posts over the client. -/
theorem Posted.count (h : Posted client hadCachedClient postOnce n posts) :
    posts.events.count (.post client) = n + 1 := by
  have hlast : ((postOnce n).events client).count (.post client) = 1 := by
    unfold Outcome.events
    split <;> simp
  rw [h.events, List.count_append, hlast, List.count_flatten]
  simp

/-- A request repeats its posts only where there was a client. -/
theorem Posted.count_le (h : Posted client hadCachedClient postOnce n posts) :
    posts.events.count (.post client) ≤
      if hadCachedClient then dohRequestRetryLimit + 1 else 1 := by
  rw [h.count]
  cases hadCachedClient with
  | true => exact Nat.succ_le_succ h.le
  | false =>
    cases n with
    | zero => exact Nat.le_refl 1
    | succ n => cases (h.again 0 n.succ_pos).1

/-- It does not post over the other one. -/
theorem Posted.count_of_ne (h : Posted client hadCachedClient postOnce n posts) (other : Client)
    (hne : client ≠ other) :
    posts.events.count (.post other) = 0 := by
  have hlast : ((postOnce n).events client).count (.post other) = 0 := by
    unfold Outcome.events
    split <;> simp [hne]
  rw [h.events, List.count_append, hlast, List.count_flatten]
  simp [hne]

/-! ### The whole request -/

namespace Request

variable {r : Request} {used : List Posts}

/-- The result of a post over HTTP/3. -/
def h3Once (r : Request) (k : ℕ) : Outcome := (r.h3Posts k).map dohPostH3Once

/-- The result of a post over HTTP/2. -/
def h2Once (r : Request) (k : ℕ) : Outcome := (r.h2Posts k).map dohPostH2Once

/-- The clients a request goes through. -/
inductive Through (r : Request) : List Posts → Prop where
  /-- No protocol is chosen. -/
  | none (hnot : r.h3Only = false) (h : r.protocol = none) : Through r []
  /-- HTTP/3 is all there is. -/
  | h3Only {n : ℕ} {posts : Posts} (honly : r.h3Only = true)
      (h : Posted .h3 r.h3Cached r.h3Once n posts) : Through r [posts]
  /-- HTTP/3 does not fail. -/
  | h3 {n : ℕ} {posts : Posts} (hnot : r.h3Only = false) (hprotocol : r.protocol = some .h3)
      (h : Posted .h3 r.h3Cached r.h3Once n posts)
      (hok : ∀ failure, posts.result ≠ some (.error failure)) : Through r [posts]
  /-- HTTP/3 fails. -/
  | fallback {n₃ n₂ : ℕ} {posts₃ posts₂ : Posts} {failure : Failure} (hnot : r.h3Only = false)
      (hprotocol : r.protocol = some .h3) (h₃ : Posted .h3 r.h3Cached r.h3Once n₃ posts₃)
      (hfailed : posts₃.result = some (.error failure))
      (h₂ : Posted .h2 r.h2Cached r.h2Once n₂ posts₂) : Through r [posts₃, posts₂]
  /-- Another protocol is chosen. -/
  | h2 {n : ℕ} {posts : Posts} {protocol : Protocol} (hnot : r.h3Only = false)
      (hprotocol : r.protocol = some protocol) (hne : protocol ≠ .h3)
      (h : Posted .h2 r.h2Cached r.h2Once n posts) : Through r [posts]

/-- There is a client when a request tries it. -/
def cached (r : Request) : Client → Bool
  | .h2 => r.h2Cached
  | .h3 => r.h3Cached

/-- The posts over the clients a request goes through are few. -/
theorem Through.count_le (h : Through r used) (client : Client) :
    (used.flatMap Posts.events).count (.post client) ≤
      if r.cached client then dohRequestRetryLimit + 1 else 1 := by
  -- a client the request does not go through
  have hzero : ∀ {posts other cached once n}, Posted other cached once n posts → other ≠ client →
      posts.events.count (.post client) ≤
        if r.cached client then dohRequestRetryLimit + 1 else 1 := fun hposted hne => by
    rw [hposted.count_of_ne client hne]
    exact Nat.zero_le _
  cases h with
  | none => exact Nat.zero_le _
  | h3Only _ h | h3 _ _ h =>
    rw [List.flatMap_singleton]
    cases client with
    | h2 => exact hzero h nofun
    | h3 => exact h.count_le
  | h2 _ _ _ h =>
    rw [List.flatMap_singleton]
    cases client with
    | h2 => exact h.count_le
    | h3 => exact hzero h nofun
  | fallback _ _ h₃ _ h₂ =>
    rw [List.flatMap_cons, List.flatMap_singleton, List.count_append]
    cases client with
    | h2 =>
      rw [h₃.count_of_ne .h2 nofun, Nat.zero_add]
      exact h₂.count_le
    | h3 =>
      rw [h₂.count_of_ne .h3 nofun]
      exact h₃.count_le

theorem untimed_through (r : Request) : ∃ used, Through r used ∧
    r.untimed.events = used.flatMap Posts.events ∧
    r.untimed.result = used.getLast?.bind Posts.result := by
  obtain ⟨n₃, h₃⟩ := exists_posted .h3 r.h3Cached r.h3Once
  obtain ⟨n₂, h₂⟩ := exists_posted .h2 r.h2Cached r.h2Once
  change Posted .h3 r.h3Cached r.h3Once n₃ r.overH3 at h₃
  change Posted .h2 r.h2Cached r.h2Once n₂ r.overH2 at h₂
  unfold untimed
  cases honly : r.h3Only with
  | true => exact ⟨_, .h3Only honly h₃, by simp, rfl⟩
  | false =>
    cases hprotocol : r.protocol with
    | none => exact ⟨_, .none honly hprotocol, rfl, rfl⟩
    | some protocol =>
      cases protocol with
      | unknown => exact ⟨_, .h2 honly hprotocol nofun h₂, by simp, rfl⟩
      | h2 => exact ⟨_, .h2 honly hprotocol nofun h₂, by simp, rfl⟩
      | h3 =>
        cases hresult : r.overH3.result with
        | none => exact ⟨_, .h3 honly hprotocol h₃ (by simp [hresult]), by simp, by simp⟩
        | some result =>
          cases result with
          | ok packet => exact ⟨_, .h3 honly hprotocol h₃ (by simp [hresult]), by simp, by simp⟩
          | error failure =>
            exact ⟨_, .fallback honly hprotocol h₃ hresult h₂, by simp, by simp⟩

/-- A packet over HTTP/3 is the body of a response. -/
theorem h3Posts_of_once {k : ℕ} {packet : Packet} (h : r.h3Once k = some (.ok packet)) :
    r.h3Posts k = some (.answered packet) := by
  obtain ⟨post, hpost, h⟩ := Option.map_eq_some_iff.mp h
  rw [hpost]
  cases post <;> simp [dohPostH3Once] at h ⊢
  exact h

/-- A packet over HTTP/2 is the body of a response. -/
theorem h2Posts_of_once {k : ℕ} {packet : Packet} (h : r.h2Once k = some (.ok packet)) :
    r.h2Posts k = some (.answered packet) := by
  obtain ⟨post, hpost, h⟩ := Option.map_eq_some_iff.mp h
  rw [hpost]
  cases post <;> simp [dohPostH2Once] at h ⊢
  exact h

/-- The last post of a request is answered with the packet. -/
def Answered (r : Request) (packet : Packet) (events : List Event) : Prop :=
  (∃ k, r.h3Posts k = some (.answered packet) ∧ events.count (.post .h3) = k + 1 ∧
    events.count (.post .h2) = 0) ∨
  ∃ k, r.h2Posts k = some (.answered packet) ∧ events.count (.post .h2) = k + 1

/-- A packet comes from the last post of the last client. -/
theorem Through.answered (h : Through r used) {packet : Packet}
    (hresult : used.getLast?.bind Posts.result = some (.ok packet)) :
    r.Answered packet (used.flatMap Posts.events) := by
  cases h with
  | none => cases hresult
  | h3Only _ h | h3 _ _ h =>
    rw [List.flatMap_singleton]
    exact .inl ⟨_, h3Posts_of_once (h.result.symm.trans hresult), h.count, h.count_of_ne .h2 nofun⟩
  | h2 _ _ _ h =>
    rw [List.flatMap_singleton]
    exact .inr ⟨_, h2Posts_of_once (h.result.symm.trans hresult), h.count⟩
  | fallback _ _ h₃ _ h₂ =>
    refine .inr ⟨_, h2Posts_of_once (h₂.result.symm.trans hresult), ?_⟩
    rw [List.flatMap_cons, List.flatMap_singleton, List.count_append, h₃.count_of_ne .h2 nofun,
      Nat.zero_add, h₂.count]

/-- A packet is what the last post is answered with. -/
theorem answered_of_proxyDoh {r : Request} {packet : Packet}
    (h : r.proxyDoh.2 = some (.ok packet)) : r.Answered packet r.proxyDoh.1 := by
  obtain ⟨used, hthrough, hevents, hresult⟩ := untimed_through r
  unfold proxyDoh at h ⊢
  cases hlast : r.untimed.result with
  | none =>
    rw [hlast] at h
    cases htimeout : r.timeout with
    | true =>
      rw [htimeout] at h
      cases h
    | false =>
      rw [htimeout] at h
      cases h
  | some result =>
    rw [hlast] at h
    cases result with
    | error failure => cases h
    | ok body =>
      cases h
      dsimp only
      rw [hevents]
      exact hthrough.answered (hresult.symm.trans hlast)

/-- **What a request posts**: it goes through its clients, repeating the posts over each, and its
result is that of the last post, unless its time is up. There are few posts, and a packet is what
the last one is answered with. -/
theorem proxyDoh_posts (r : Request) :
    (∃ used, Through r used ∧ r.proxyDoh =
      match used.getLast?.bind Posts.result, r.timeout with
      | some result, _ => (used.flatMap Posts.events, some (result.mapError Failure.err))
      | none, true =>
        (used.flatMap Posts.events ++ [.reset .h2, .reset .h3], some (.error .upstreamTimeout))
      | none, false => (used.flatMap Posts.events, none)) ∧
    (∀ client, r.proxyDoh.1.count (.post client) ≤
      if r.cached client then dohRequestRetryLimit + 1 else 1) ∧
    ∀ packet, r.proxyDoh.2 = some (.ok packet) → r.Answered packet r.proxyDoh.1 := by
  obtain ⟨used, hthrough, hevents, hresult⟩ := untimed_through r
  have hrun : r.proxyDoh =
      match used.getLast?.bind Posts.result, r.timeout with
      | some result, _ => (used.flatMap Posts.events, some (result.mapError Failure.err))
      | none, true =>
        (used.flatMap Posts.events ++ [.reset .h2, .reset .h3], some (.error .upstreamTimeout))
      | none, false => (used.flatMap Posts.events, none) := by
    rw [proxyDoh, hevents, hresult]
    cases used.getLast?.bind Posts.result <;> cases r.timeout <;> rfl
  refine ⟨⟨used, hthrough, hrun⟩, fun client => ?_, fun packet h => answered_of_proxyDoh h⟩
  have hcount := hthrough.count_le client
  rw [hrun]
  split
  · exact hcount
  · simpa [List.count_append] using hcount
  · exact hcount

end Request

end DohProxy.Upstream.Retries
