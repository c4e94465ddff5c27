import DohProxy.Lib.Runs
import Mathlib.Logic.Function.Basic

/-!
# The HTTP/3 client of an upstream server

Many requests share one QUIC connection. A request puts the sending end of a oneshot channel in a
table, under its number, and hands its headers to the QUIC driver. The driver tells an event loop
which stream it has opened for the request, what headers come back on the stream, and that the
stream is reset or closed. The event loop starts a task for each response, which reads the frames
of the body, and gives the result to the request by way of the table.

## The model

The table is behind a lock, and each section that holds the lock is one step. The event loop has one
step for taking an event, or for letting a body task read a frame (`select!` takes either), and
further ones for the section on the table and for sending to the request. The driver emits events
and queues frames as it likes. `H3_REQUEST_ID` is 64 bits wide and does not come round.

A request may fail or be given up at any time, up to when it has its result. Its guard then starts
a task that clears the table.
-/

namespace DohProxy.Upstream.H3

open Lib System Function

/-! ### The table -/

section

variable {β : Type} {f : ℕ → Option β} {a x : ℕ} {b v : β}

theorem update_none_eq_some : update f a none x = some v ↔ x ≠ a ∧ f x = some v := by
  by_cases h : x = a
  · subst h
    simp
  · simp [h]

theorem update_none_eq_none (h : f x = none) : update f a none x = none := by
  by_cases hxa : x = a
  · subst hxa
    exact update_self ..
  · rw [update_of_ne hxa]
    exact h

theorem update_some_eq_none : update f a (some b) x = none ↔ x ≠ a ∧ f x = none := by
  by_cases h : x = a
  · subst h
    simp
  · simp [h]

theorem update_some_eq_some : update f a (some b) x = some v ↔
    x = a ∧ b = v ∨ x ≠ a ∧ f x = some v := by
  by_cases h : x = a
  · subst h
    simp
  · simp [h]

end

/-- The sending end of the oneshot channel of a request, which has the number of the request. -/
abbrev Sender := ℕ

/-- A failure. The error always is `UpstreamIssue`. -/
structure H3Failure where
  /-- Whether another try may help. -/
  retryable : Bool
  deriving DecidableEq

/-- What a request gets: the body of the response, or a failure. -/
abbrev Result := Except H3Failure (List UInt8)

/-- The table. -/
structure DohH3Pending where
  /-- The requests that have no result yet. -/
  byRequest : ℕ → Option Sender
  /-- The streams that are open for them. -/
  byStream : ℕ → Option ℕ

namespace DohH3Pending

/-- An empty table. -/
def empty : DohH3Pending := ⟨fun _ => none, fun _ => none⟩

/-- The section of `request`. -/
def register (p : DohH3Pending) (requestId : ℕ) (sender : Sender) : DohH3Pending :=
  { p with byRequest := update p.byRequest requestId (some sender) }

/-- The section for `NewOutboundRequest`. -/
def announce (p : DohH3Pending) (streamId requestId : ℕ) : DohH3Pending :=
  if (p.byRequest requestId).isSome then { p with byStream := update p.byStream streamId (some requestId) } else p

/-- The section of `clear_pending_h3_request`. -/
def clear (p : DohH3Pending) (requestId : ℕ) : DohH3Pending where
  byRequest := update p.byRequest requestId none
  byStream streamId := (p.byStream streamId).filter (· ≠ requestId)

/-- The section of `complete_pending_h3_stream`: the sender, if there is one, and the table. -/
def complete (p : DohH3Pending) (streamId : ℕ) : Option Sender × DohH3Pending :=
  match p.byStream streamId with
  | none => (none, p)
  | some requestId =>
    (p.byRequest requestId, ⟨update p.byRequest requestId none, update p.byStream streamId none⟩)

variable {p : DohH3Pending} {st st' r x : ℕ} {v : Sender}

theorem register_byRequest : (p.register r v).byRequest x = some st ↔
    x = r ∧ v = st ∨ x ≠ r ∧ p.byRequest x = some st := update_some_eq_some

theorem clear_byRequest : (p.clear r).byRequest x = some v ↔ x ≠ r ∧ p.byRequest x = some v :=
  update_none_eq_some

theorem clear_byStream : (p.clear r).byStream st = some x ↔ p.byStream st = some x ∧ x ≠ r := by
  simp [clear, Option.filter_eq_some_iff]

@[simp] theorem announce_byRequest : (p.announce st r).byRequest = p.byRequest := by
  unfold announce
  split <;> rfl

theorem announce_byStream (h : (p.announce st r).byStream st' = some x) :
    p.byStream st' = some x ∨ st' = st ∧ x = r ∧ (p.byRequest r).isSome := by
  unfold announce at h
  split at h
  · next hr =>
    rcases update_some_eq_some.mp h with ⟨rfl, rfl⟩ | ⟨-, h⟩
    · exact .inr ⟨rfl, rfl, hr⟩
    · exact .inl h
  · exact .inl h

theorem announce_byStream_none (hne : st' ≠ st) (h : p.byStream st' = none) :
    (p.announce st r).byStream st' = none := by
  cases hx : (p.announce st r).byStream st' with
  | none => rfl
  | some x =>
    rcases announce_byStream hx with hx | ⟨hx, -⟩
    · cases h.symm.trans hx
    · exact absurd hx hne

/-- A stream that is open for no request is completed by doing nothing. -/
theorem complete_of_none (h : p.byStream st = none) : p.complete st = (none, p) := by
    rw [complete, h]

/-- Completing a stream takes its request out of the table. -/
theorem complete_of_some (h : p.byStream st = some r) :
    p.complete st = (p.byRequest r, ⟨update p.byRequest r none, update p.byStream st none⟩) := by
      rw [complete, h]

end DohH3Pending

/-! ### Events and frames -/

/-- A header. -/
structure Header where
  /-- Its name. -/
  name : List UInt8
  /-- Its value. -/
  value : List UInt8
  deriving DecidableEq

/-- `parse::<u16>`: digits, with a plus sign or not. -/
def parseU16 (value : List UInt8) : Option ℕ :=
  let digits := if value.head? = some 0x2b then value.tail else value
  if digits ≠ [] ∧ digits.all (fun b => 0x30 ≤ b && b ≤ 0x39) then
    let n := digits.foldl (fun acc b => acc * 10 + (b.toNat - 0x30)) 0
    if n < 65536 then some n else none
  else none

/-- The name `:status`. -/
def statusName : List UInt8 := [0x3a, 0x73, 0x74, 0x61, 0x74, 0x75, 0x73]

/-- The status of a response. -/
def status (headers : List Header) : ℕ :=
  ((headers.find? fun header => header.name = statusName).bind fun header =>
    parseU16 header.value).getD 500

/-- What the driver tells the event loop. -/
inductive ClientH3Event where
  /-- A stream is open for a request. -/
  | newOutboundRequest (streamId requestId : ℕ)
  /-- Headers have come on a stream. The receiver of the stream's frames comes with them. -/
  | incomingHeaders (streamId : ℕ) (headers : List Header)
  /-- The connection has an error. -/
  | connectionError (retryable : Bool)
  /-- The connection is shut down. -/
  | connectionShutdown (retryable : Bool)
  /-- A stream is reset. -/
  | resetStream (streamId : ℕ)
  /-- A stream is closed. -/
  | streamClosed (streamId : ℕ)
  /-- Any other event. -/
  | other
  deriving DecidableEq

/-- A frame that has come on a stream. -/
inductive InboundFrame where
  /-- A piece of the body. The last one has `fin`. -/
  | body (data : List UInt8) (fin : Bool)
  /-- A datagram. -/
  | datagram
  deriving DecidableEq

/-! ### The system -/

/-- How far a request is. -/
inductive Phase where
  /-- It has its number. -/
  | starting
  /-- It is in the table, and waits for its result. -/
  | waiting
  /-- It is over. -/
  | over
  deriving DecidableEq

/-- How far the event loop is. -/
inductive Loop where
  /-- It waits for an event or for a body. -/
  | select
  /-- It is about to note that a stream is open for a request. -/
  | announce (streamId requestId : ℕ)
  /-- It is about to complete the request of a stream. -/
  | complete (streamId : ℕ) (result : Result)
  /-- It is about to send a result. -/
  | send (sender : Sender) (result : Result)
  /-- It is about to fail all requests. -/
  | failAll (retryable : Bool)
  /-- It is over. -/
  | ended
  deriving DecidableEq

/-- A connection and its requests. -/
structure State where
  /-- The table. -/
  pending : DohH3Pending
  /-- The next number. -/
  nextRequestId : ℕ
  /-- The requests. -/
  requests : ℕ → Option Phase
  /-- The requests whose guards have started a task that clears the table. -/
  clearing : List ℕ
  /-- The streams that the driver has opened, with their requests. -/
  announced : List (ℕ × ℕ)
  /-- The streams whose receiver of frames the driver has given away. -/
  received : ℕ → Bool
  /-- The frames that are queued on a stream. -/
  frames : ℕ → List InboundFrame
  /-- The streams that the driver queues no more frames on. -/
  finished : ℕ → Bool
  /-- The events that the event loop has not taken. -/
  events : List ClientH3Event
  /-- Whether the driver is gone. -/
  hungUp : Bool
  /-- The event loop. -/
  loop : Loop
  /-- The body tasks by their stream, with what they have read of the body. -/
  bodyTasks : ℕ → Option (List UInt8)
  /-- The senders that are taken from the table when all requests fail. -/
  failing : ℕ → Option (Sender × Result)
  /-- The results that were sent, in order. -/
  sent : List (Sender × Result)

/-- What can happen. -/
inductive Action where
  /-- A request gets its number. -/
  | start
  /-- A request of another connection gets its number. -/
  | elsewhere
  /-- A request enters the table. -/
  | register (requestId : ℕ)
  /-- A request fails or is given up. -/
  | cancel (requestId : ℕ)
  /-- A request takes its result. -/
  | receive (requestId : ℕ)
  /-- The task that a guard has started clears the table. -/
  | clear (requestId : ℕ)
  /-- The driver emits an event. -/
  | emit (event : ClientH3Event)
  /-- The driver queues a frame on a stream. -/
  | frame (streamId : ℕ) (frame : InboundFrame)
  /-- The driver queues no more frames on a stream. -/
  | finish (streamId : ℕ)
  /-- The driver goes away. -/
  | hangUp
  /-- The event loop takes the next event. -/
  | event
  /-- The event loop lets the body task of a stream read. -/
  | body (streamId : ℕ)
  /-- The event loop goes on with what it has taken. -/
  | loop
  /-- A sender that is taken from the table sends that its request has failed. -/
  | fail (requestId : ℕ)
  deriving DecidableEq

/-- A failure to try again after. -/
abbrev retryableFailure : Result := .error ⟨true⟩

/-- The event loop takes an event. -/
def State.take (s : State) : ClientH3Event → State
  | .newOutboundRequest streamId requestId => { s with loop := .announce streamId requestId }
  | .incomingHeaders streamId headers =>
    if status headers ≠ 200 then { s with loop := .complete streamId (.error ⟨false⟩) }
    else { s with bodyTasks := update s.bodyTasks streamId (some []) }
  | .connectionError retryable => { s with loop := .failAll retryable }
  | .connectionShutdown retryable => { s with loop := .failAll retryable }
  | .resetStream streamId => { s with loop := .complete streamId retryableFailure }
  | .streamClosed streamId => { s with loop := .complete streamId retryableFailure }
  | .other => s

theorem State.take_incomingHeaders (s : State) (streamId : ℕ) (headers : List Header) :
    s.take (.incomingHeaders streamId headers) =
      if status headers ≠ 200 then { s with loop := .complete streamId (.error ⟨false⟩) }
      else { s with bodyTasks := update s.bodyTasks streamId (some []) } := rfl

/-- The body task of a stream, which has read `responseBody`, reads on. -/
def State.read (s : State) (streamId : ℕ) (responseBody : List UInt8) : Option State :=
  match s.frames streamId with
  | .body data fin :: rest =>
    let s := { s with frames := update s.frames streamId rest }
    if fin then
      some { s with bodyTasks := update s.bodyTasks streamId none, loop := .complete streamId (.ok (responseBody ++ data)) }
    else some { s with bodyTasks := update s.bodyTasks streamId (some (responseBody ++ data)) }
  | .datagram :: rest => some { s with frames := update s.frames streamId rest }
  | [] =>
    if s.finished streamId then
      some { s with bodyTasks := update s.bodyTasks streamId none, loop := .complete streamId retryableFailure }
    else none

/-- The event loop goes on with what it has taken. -/
def State.goOn (s : State) : Option State :=
  match s.loop with
  | .select => none
  | .announce streamId requestId => some
    { s with pending := s.pending.announce streamId requestId, loop := .select }
  | .complete streamId result =>
    let (maybeSender, pending) := s.pending.complete streamId
    match maybeSender with
    | some sender => some { s with pending := pending, loop := .send sender result }
    | none => some { s with pending := pending, loop := .select }
  | .send sender result => some { s with sent := s.sent ++ [(sender, result)], loop := .select }
  | .failAll retryable =>
    some { s with
      pending := .empty, loop := .ended
      failing := fun requestId => (s.pending.byRequest requestId).map fun sender =>
        (sender, .error ⟨retryable⟩) }
  | .ended => none

/-- The driver emits an event. The receiver of a stream's frames is given away once. -/
def State.emit (s : State) (event : ClientH3Event) : Option State :=
  let s' := { s with events := s.events ++ [event] }
  if s.hungUp then none
  else
    match event with
    | .newOutboundRequest streamId requestId =>
      some { s' with announced := (streamId, requestId) :: s.announced }
    | .incomingHeaders streamId _ =>
      if s.received streamId then none else some
        { s' with received := update s.received streamId true }
    | _ => some s'

/-- The steps of the requests, the driver and the event loop. -/
def h3Step (s : State) : Action → Option State
  | .start =>
    some { s with
      requests := update s.requests s.nextRequestId (some .starting), nextRequestId :=
        s.nextRequestId + 1 }
  | .elsewhere => some { s with nextRequestId := s.nextRequestId + 1 }
  | .register requestId =>
    if s.requests requestId = some .starting then
      some { s with
        pending := s.pending.register requestId requestId
        requests := update s.requests requestId (some .waiting) }
    else none
  | .cancel requestId =>
    match s.requests requestId with
    | some .starting => some { s with requests := update s.requests requestId (some .over) }
    | some .waiting =>
      some { s with requests := update s.requests requestId (some .over), clearing := requestId :: s.clearing }
    | _ => none
  | .receive requestId =>
    if s.requests requestId = some .waiting ∧ requestId ∈ s.sent.map Prod.fst then
      some { s with requests := update s.requests requestId (some .over) }
    else none
  | .clear requestId =>
    if requestId ∈ s.clearing then
      some { s with pending := s.pending.clear requestId, clearing := s.clearing.erase requestId }
    else none
  | .emit event => s.emit event
  | .frame streamId frame =>
    if s.finished streamId then none
    else some { s with frames := update s.frames streamId (s.frames streamId ++ [frame]) }
  | .finish streamId => some { s with finished := update s.finished streamId true }
  | .hangUp => some { s with hungUp := true }
  | .event =>
    if s.loop = .select then
      match s.events with
      | event :: events => some ({ s with events := events }.take event)
      | [] => if s.hungUp then some { s with loop := .failAll true } else none
    else none
  | .body streamId =>
    if s.loop = .select then (s.bodyTasks streamId).bind (s.read streamId) else none
  | .loop => s.goOn
  | .fail requestId =>
    match s.failing requestId with
    | some (sender, result) =>
      some { s with sent := s.sent ++ [(sender, result)], failing := update s.failing requestId none
        }
    | none => none

/-- A connection before its first request. -/
def h3Init : State where
  pending := .empty
  nextRequestId := 0
  requests _ := none
  clearing := []
  announced := []
  received _ := false
  frames _ := []
  finished _ := false
  events := []
  hungUp := false
  loop := .select
  bodyTasks _ := none
  failing _ := none
  sent := []

/-- A connection. -/
def h3 : System State Action := ⟨h3Init, h3Step⟩

/-- The driver opens one stream for a request, and never one that it has opened. -/
def AnnouncesOnce (s : State) : Action → Prop
  | .emit (.newOutboundRequest streamId requestId) => ∀ p ∈ s.announced, p.1 ≠ streamId ∧
    p.2 ≠ requestId
  | _ => True

instance (s : State) : DecidablePred (AnnouncesOnce s)
  | .emit event =>
    match event with
    | .newOutboundRequest _ _ => inferInstanceAs (Decidable (∀ p ∈ s.announced, _))
    | .incomingHeaders _ _ | .connectionError _ | .connectionShutdown _ | .resetStream _ | .streamClosed _ | .other =>
      .isTrue trivial
  | .start | .elsewhere | .register _ | .cancel _ | .receive _ | .clear _ | .frame _ _ | .finish
    _ | .hangUp | .event
  | .body _ | .loop | .fail _ => .isTrue trivial

/-! ### Bodies -/

/-- The frames that were queued on a stream. -/
def framesOf (as : List Action) (streamId : ℕ) : List InboundFrame :=
  as.filterMap fun
    | .frame st f => if st = streamId then some f else none
    | _ => none

/-- The pieces of a body up to the last one, put together. -/
def bodyOf : List InboundFrame → Option (List UInt8)
  | [] => none
  | .body data true :: _ => some data
  | .body data false :: fs => (bodyOf fs).map (data ++ ·)
  | .datagram :: fs => bodyOf fs

/-- More frames do not change a body that is complete. -/
theorem bodyOf_append {b : List UInt8} : ∀ {fs : List InboundFrame} (gs : List InboundFrame),
    bodyOf fs = some b → bodyOf (fs ++ gs) = some b := by
  intro fs
  induction fs generalizing b with
  | nil => exact fun _ h => nomatch h
  | cons f fs ih =>
    intro gs h
    match f with
    | .body data true => exact h
    | .body data false =>
      obtain ⟨rest, hrest, rfl⟩ := Option.map_eq_some_iff.mp h
      exact congrArg (Option.map (data ++ ·)) (ih gs hrest)
    | .datagram => exact ih gs h

variable {as : List Action} {a : Action} {st : ℕ} {f : InboundFrame}

theorem framesOf_append (as bs : List Action) (st : ℕ) :
    framesOf (as ++ bs) st = framesOf as st ++ framesOf bs st :=
  List.filterMap_append

theorem framesOf_frame : framesOf (as ++ [.frame st f]) = update (framesOf as) st
    (framesOf as st ++ [f]) := by
  funext st'
  by_cases h : st' = st
  · subst h
    simp [framesOf]
  · simp [framesOf, h, Ne.symm h]

theorem framesOf_other (ha : ∀ st f, a ≠ .frame st f) : framesOf (as ++ [a]) = framesOf as := by
  funext st
  have hnone : framesOf [a] st = [] := by
    cases a with
    | frame st' f => exact absurd rfl (ha st' f)
    | _ => rfl
  rw [framesOf_append, hnone, List.append_nil]

/-! ### What the event loop is left with -/

/-- Whether an action is none of the event loop's, and gives it nothing to take or to read. -/
def Action.Quiet : Action → Prop
  | .emit _ | .frame .. | .event | .body _ | .loop | .fail _ => False
  | _ => True

/-- A step that leaves the event loop's work as it is. -/
structure Aside (s : State) (a : Action) (s' : State) : Prop where
  announced : s'.announced = s.announced
  received : s'.received = s.received
  frames : s'.frames = s.frames
  events : s'.events = s.events
  loop : s'.loop = s.loop
  bodyTasks : s'.bodyTasks = s.bodyTasks
  failing : s'.failing = s.failing
  sent : s'.sent = s.sent
  finished : ∀ st, s.finished st = true → s'.finished st = true
  hungUp : s'.hungUp = true → s.hungUp = true ∨ a = .hangUp
  byStream : ∀ st, s.pending.byStream st = none → s'.pending.byStream st = none

/-- Quiet actions leave it as it is. -/
theorem aside_of_quiet {s s' : State} (ha : a.Quiet) (hs : h3Step s a = some s') :
    Aside s a s' := by
  have hsame : ∀ {pending next requests clearing}, (∀ st, s.pending.byStream st = none →
    pending.byStream st = none) →
      Aside s a { s with
        pending := pending, nextRequestId := next, requests := requests, clearing := clearing } :=
    fun h => ⟨rfl, rfl, rfl, rfl, rfl, rfl, rfl, rfl, fun _ => id, .inl, h⟩
  cases a with
  | start =>
    cases hs
    exact hsame fun _ => id
  | elsewhere =>
    cases hs
    exact hsame fun _ => id
  | register r =>
    obtain ⟨-, ⟨⟩⟩ := Option.ite_none_right_eq_some.mp hs
    exact hsame fun _ => id
  | cancel r =>
    dsimp only [h3Step] at hs
    split at hs <;> cases hs <;> exact hsame fun _ => id
  | receive r =>
    obtain ⟨-, ⟨⟩⟩ := Option.ite_none_right_eq_some.mp hs
    exact hsame fun _ => id
  | clear r =>
    obtain ⟨-, ⟨⟩⟩ := Option.ite_none_right_eq_some.mp hs
    exact hsame fun st hst => by simp [DohH3Pending.clear, hst]
  | finish st =>
    cases hs
    refine ⟨rfl, rfl, rfl, rfl, rfl, rfl, rfl, rfl, fun st' hst => ?_, .inl, fun _ => id⟩
    by_cases h : st' = st
    · subst h
      exact update_self ..
    · exact (update_of_ne h ..).trans hst
  | hangUp =>
    cases hs
    exact ⟨rfl, rfl, rfl, rfl, rfl, rfl, rfl, rfl, fun _ => id, fun _ => .inr rfl, fun _ => id⟩
  | emit | frame | event | body | loop | fail => exact ha.elim

/-! ### What a step can do -/

/-- Taking an event gives the event loop something to go on with, or to read. -/
theorem take_eq (s : State) (event : ClientH3Event) :
    ∃ loop bodyTasks, s.take event = { s with loop := loop, bodyTasks := bodyTasks } := by
  cases event with
  | incomingHeaders st headers =>
    rw [State.take_incomingHeaders]
    split <;> exact ⟨_, _, rfl⟩
  | _ => exact ⟨_, _, rfl⟩

/-- What an action does to a state, case by case. -/
inductive Effect (s : State) : Action → State → Prop where
  /-- The event loop's work stays as it is. -/
  | aside {a : Action} {s' : State} : a.Quiet → h3Step s a = some s' → Effect s a s'
  /-- The driver opens a stream for a request. -/
  | openStream {st r : ℕ} : Effect s (.emit (.newOutboundRequest st r))
      { s with events := s.events ++ [.newOutboundRequest st r], announced := (st, r) :: s.announced
        }
  /-- The driver gives the receiver of a stream's frames away. -/
  | headers {st : ℕ} {headers : List Header} : s.received st = false →
    Effect s (.emit (.incomingHeaders st headers))
      { s with events := s.events ++ [.incomingHeaders st headers], received := update s.received st true }
  /-- The driver emits any other event. -/
  | emit {event : ClientH3Event} : (∀ st r, event ≠ .newOutboundRequest st r) →
      (∀ st headers, event ≠ .incomingHeaders st headers) →
      Effect s (.emit event) { s with events := s.events ++ [event] }
  /-- The driver queues a frame. -/
  | frame {st : ℕ} {f : InboundFrame} : s.finished st = false → Effect s (.frame st f)
      { s with frames := update s.frames st (s.frames st ++ [f]) }
  /-- The event loop takes an event. -/
  | take {event : ClientH3Event} {events : List ClientH3Event} : s.loop = .select →
    s.events = event :: events →
      Effect s .event ({ s with events := events }.take event)
  /-- The event loop finds the driver gone. -/
  | gone : s.loop = .select → s.hungUp = true → Effect s .event { s with loop := .failAll true }
  /-- A body task reads the last frame of its body. -/
  | last {st : ℕ} {responseBody data : List UInt8} {rest : List InboundFrame} : s.loop = .select →
      s.bodyTasks st = some responseBody → s.frames st = .body data true :: rest →
        Effect s (.body st) { s with
        frames := update s.frames st rest, bodyTasks := update s.bodyTasks st none
        loop := .complete st (.ok (responseBody ++ data)) }
  /-- A body task finds no last frame. -/
  | cut {st : ℕ} {responseBody : List UInt8} : s.loop = .select →
    s.bodyTasks st = some responseBody →
      s.frames st = [] → s.finished st = true → Effect s (.body st) { s with
        bodyTasks := update s.bodyTasks st none, loop := .complete st retryableFailure }
  /-- A body task reads another frame of its body. -/
  | more {st : ℕ} {responseBody data : List UInt8} {rest : List InboundFrame} : s.loop = .select →
      s.bodyTasks st = some responseBody → s.frames st = .body data false :: rest →
        Effect s (.body st) { s with
        frames := update s.frames st rest, bodyTasks :=
          update s.bodyTasks st (some (responseBody ++ data)) }
  /-- A body task skips a frame. -/
  | skip {st : ℕ} {responseBody : List UInt8} {rest : List InboundFrame} : s.loop = .select →
      s.bodyTasks st = some responseBody → s.frames st = .datagram :: rest →
      Effect s (.body st) { s with frames := update s.frames st rest }
  /-- A stream is noted for a request. -/
  | announce {st r : ℕ} : s.loop = .announce st r →
      Effect s .loop { s with pending := s.pending.announce st r, loop := .select }
  /-- The sender of the request of a stream is taken from the table. -/
  | complete {st r : ℕ} {sender : Sender} {result : Result} : s.loop = .complete st result →
      s.pending.byStream st = some r → s.pending.byRequest r = some sender → Effect s .loop { s with
        pending := ⟨update s.pending.byRequest r none, update s.pending.byStream st none⟩
        loop := .send sender result }
  /-- The sender of the request of a stream is not in the table. -/
  | late {st r : ℕ} {result : Result} : s.loop = .complete st result →
      s.pending.byStream st = some r → s.pending.byRequest r = none → Effect s .loop { s with
        pending := ⟨update s.pending.byRequest r none, update s.pending.byStream st none⟩,
          loop := .select }
  /-- A stream is open for no request. -/
  | noStream {st : ℕ} {result : Result} : s.loop = .complete st result →
    s.pending.byStream st = none →
      Effect s .loop { s with loop := .select }
  /-- A result is sent. -/
  | send {sender : Sender} {result : Result} : s.loop = .send sender result →
      Effect s .loop { s with sent := s.sent ++ [(sender, result)], loop := .select }
  /-- All senders are taken from the table. -/
  | failAll {retryable : Bool} : s.loop = .failAll retryable → Effect s .loop { s with
      pending := .empty, loop := .ended
      failing := fun requestId => (s.pending.byRequest requestId).map fun sender =>
        (sender, .error ⟨retryable⟩) }
  /-- A sender sends that its request has failed. -/
  | fail {r : ℕ} {sender : Sender} {result : Result} : s.failing r = some (sender, result) →
    Effect s (.fail r)
      { s with sent := s.sent ++ [(sender, result)], failing := update s.failing r none }

/-- **A step does no more than that.** -/
theorem effect_of_step {s s' : State} (hs : h3Step s a = some s') : Effect s a s' := by
  by_cases ha : a.Quiet
  · exact .aside ha hs
  cases a with
  | emit event =>
    dsimp only [h3Step, State.emit] at hs
    split at hs
    · cases hs
    split at hs
    · cases hs
      exact .openStream
    · split at hs <;> cases hs
      exact .headers (eq_false_of_ne_true ‹_›)
    · next hopen hheaders =>
      cases hs
      exact .emit hopen hheaders
  | frame st f =>
    obtain ⟨hfin, ⟨⟩⟩ := Option.ite_none_left_eq_some.mp hs
    exact .frame (eq_false_of_ne_true hfin)
  | event =>
    obtain ⟨hloop, hs⟩ := Option.ite_none_right_eq_some.mp hs
    split at hs
    · next hevents =>
      cases hs
      exact .take hloop hevents
    · obtain ⟨hgone, ⟨⟩⟩ := Option.ite_none_right_eq_some.mp hs
      exact .gone hloop hgone
  | body st =>
    obtain ⟨hloop, hs⟩ := Option.ite_none_right_eq_some.mp hs
    obtain ⟨responseBody, htask, hs⟩ := Option.bind_eq_some_iff.mp hs
    unfold State.read at hs
    split at hs
    · next hframes =>
      dsimp only at hs
      split at hs
      · next hfin =>
        subst hfin
        cases hs
        exact .last hloop htask hframes
      · next hfin =>
        rw [eq_false_of_ne_true hfin] at hframes
        cases hs
        exact .more hloop htask hframes
    · next hframes =>
      cases hs
      exact .skip hloop htask hframes
    · next hframes =>
      split at hs
      · next hfin =>
        cases hs
        exact .cut hloop htask hframes hfin
      · cases hs
  | loop =>
    dsimp only [h3Step, State.goOn] at hs
    split at hs
    · cases hs
    · cases hs
      exact .announce ‹_›
    · next st result hloop =>
      cases hst : s.pending.byStream st with
      | none =>
        rw [DohH3Pending.complete_of_none hst] at hs
        cases hs
        exact .noStream hloop hst
      | some r =>
        rw [DohH3Pending.complete_of_some hst] at hs
        cases hr : s.pending.byRequest r with
        | none =>
          rw [hr] at hs
          cases hs
          exact .late hloop hst hr
        | some sender =>
          rw [hr] at hs
          cases hs
          exact .complete hloop hst hr
    · cases hs
      exact .send ‹_›
    · cases hs
      exact .failAll ‹_›
    · cases hs
  | fail r =>
    dsimp only [h3Step] at hs
    split at hs <;> cases hs
    exact .fail ‹_›
  | start | elsewhere | register | cancel | receive | clear | finish | hangUp =>
    exact absurd trivial ha

end DohProxy.Upstream.H3
