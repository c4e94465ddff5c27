import DohProxy.Upstream.H3Loop
import Mathlib.Data.List.Nodup

/-!
# The bodies of HTTP/3 responses

The driver gives the receiver of a stream's frames away with the headers of the stream. A body task
takes frames out while the driver goes on to queue some, and any number of other events comes
between two frames.

## What is proved

`BodyInv.step` — what a body task has read, put before what is queued, is all that was queued on
its stream, and so a body that is read to its end is the one that was sent on the stream.
-/

namespace DohProxy.Upstream.H3

open Lib System Function

variable {q : ℕ → List InboundFrame} {as : List Action} {s s' : State} {a : Action} {st : ℕ}
    {body : List UInt8}

/-- The streams whose headers are among some events. -/
def headsOf (events : List ClientH3Event) : List ℕ :=
  events.filterMap fun
    | .incomingHeaders streamId _ => some streamId
    | _ => none

theorem headsOf_append (es fs : List ClientH3Event) :
    headsOf (es ++ fs) = headsOf es ++ headsOf fs :=
  List.filterMap_append

theorem mem_headsOf {events : List ClientH3Event} :
    st ∈ headsOf events ↔ ∃ headers, .incomingHeaders st headers ∈ events := by
  constructor
  · intro h
    obtain ⟨e, he, hst⟩ := List.mem_filterMap.mp h
    cases e with
    | incomingHeaders st' headers =>
      obtain rfl := Option.some.inj hst
      exact ⟨headers, he⟩
    | _ => cases hst
  · rintro ⟨headers, he⟩
    exact List.mem_filterMap.mpr ⟨_, he, rfl⟩

theorem headsOf_concat {events : List ClientH3Event} {event : ClientH3Event}
    (hne : ∀ st headers, event ≠ .incomingHeaders st headers) : headsOf (events ++ [event]) =
      headsOf events := by
  have hnone : headsOf [event] = [] := by
    cases event with
    | incomingHeaders st headers => exact absurd rfl (hne st headers)
    | _ => rfl
  rw [headsOf_append, hnone, List.append_nil]

/-- The invariant of the body tasks, where `q` are the frames that were queued on each stream. -/
structure BodyInv (q : ℕ → List InboundFrame) (s : State) : Prop where
  /-- The headers of a stream come once. -/
  once : (headsOf s.events).Nodup
  /-- The receiver of the frames comes with them. -/
  received : ∀ st ∈ headsOf s.events, s.received st = true
  /-- Before the event loop has them it reads nothing. -/
  unread : ∀ st, s.received st = false ∨ st ∈ headsOf s.events → s.bodyTasks st = none ∧
    s.frames st = q st
  /-- What a task has read comes before what is queued. -/
  reading : ∀ st responseBody, s.bodyTasks st = some responseBody → ∀ gs,
    bodyOf (q st ++ gs) = (bodyOf (s.frames st ++ gs)).map (responseBody ++ ·)
  /-- A body is complete. -/
  complete : ∀ st body, s.loop = .complete st (.ok body) → bodyOf (q st) = some body

theorem bodyInv_init : BodyInv (framesOf []) h3Init :=
  ⟨List.nodup_nil, nofun, fun _ _ => ⟨rfl, rfl⟩, nofun, nofun⟩

/-- Nothing happens to the frames and to the body tasks. -/
theorem BodyInv.congr (h : BodyInv q s) (hevents : s'.events = s.events)
    (hreceived : s'.received = s.received)
    (hframes : s'.frames = s.frames) (htasks : s'.bodyTasks = s.bodyTasks)
    (hloop : ∀ st body, s'.loop = .complete st (.ok body) →
      bodyOf (q st) = some body) : BodyInv q s' := by
  obtain ⟨honce, hrec, hunread, hreading, -⟩ := h
  rw [← hevents] at honce hrec hunread
  rw [← hreceived] at hrec hunread
  rw [← hframes] at hunread hreading
  rw [← htasks] at hunread hreading
  exact ⟨honce, hrec, hunread, hreading, hloop⟩

/-- A stream whose task reads is not one whose headers the event loop has not taken. -/
theorem BodyInv.ne_of_unread (h : BodyInv q s) {x : ℕ} {responseBody : List UInt8}
    (htask : s.bodyTasks st = some responseBody) (hx : s.received x = false ∨
      x ∈ headsOf s.events) : x ≠ st := by
  rintro rfl
  cases htask.symm.trans (h.unread x hx).1

/-- The driver emits an event without a receiver. -/
theorem BodyInv.emit (h : BodyInv q s) {event : ClientH3Event} {announced : List (ℕ × ℕ)}
    (hne : ∀ st headers, event ≠ .incomingHeaders st headers) :
    BodyInv q { s with events := s.events ++ [event], announced := announced } := by
  obtain ⟨honce, hrec, hunread, hreading, hcomplete⟩ := h
  rw [← headsOf_concat hne] at honce hrec hunread
  exact ⟨honce, hrec, hunread, hreading, hcomplete⟩

/-- The driver gives the receiver of a stream's frames away. -/
theorem BodyInv.headers (h : BodyInv q s) {headers : List Header} (hnew : s.received st = false) :
    BodyInv q { s with
      events := s.events ++ [.incomingHeaders st headers]
      received := update s.received st true } := by
  have hout : st ∉ headsOf s.events := fun hin => nomatch hnew.symm.trans (h.received st hin)
  have heads : headsOf (s.events ++ [.incomingHeaders st headers]) = headsOf s.events ++ [st] :=
    headsOf_append ..
  have hmem : ∀ x, x ∈ headsOf (s.events ++ [.incomingHeaders st headers]) ↔
    x ∈ headsOf s.events ∨ x = st :=
    fun x => by rw [heads, List.mem_append, List.mem_singleton]
  refine { h with once := ?_, received := fun x hx => ?_, unread := fun x hx => ?_ }
  · rw [heads, List.nodup_append]
    refine ⟨h.once, List.nodup_singleton st, ?_⟩
    rintro x hx _ hy rfl
    obtain rfl := List.mem_singleton.mp hy
    exact hout hx
  · by_cases hxst : x = st
    · subst hxst
      exact update_self ..
    · exact (update_of_ne hxst ..).trans (h.received x (((hmem x).mp hx).resolve_right hxst))
  · by_cases hxst : x = st
    · subst hxst
      exact h.unread x (.inl hnew)
    · exact h.unread x (hx.imp (fun hx => (update_of_ne hxst ..).symm.trans hx)
        fun hx => ((hmem x).mp hx).resolve_right hxst)

/-- The driver queues a frame. -/
theorem BodyInv.frame (h : BodyInv q s) (f : InboundFrame) :
    BodyInv (update q st (q st ++ [f])) { s with frames := update s.frames st (s.frames st ++ [f])
      } := by
  refine ⟨h.once, h.received, fun x hx => ?_, fun x acc hx gs => ?_, fun x body hx => ?_⟩
  · obtain ⟨htask, hframes⟩ := h.unread x hx
    refine ⟨htask, ?_⟩
    by_cases hxst : x = st
    · subst hxst
      simp [hframes]
    · simp [hxst, hframes]
  · by_cases hxst : x = st
    · subst hxst
      simpa using h.reading x acc hx (f :: gs)
    · simpa [hxst] using h.reading x acc hx gs
  · by_cases hxst : x = st
    · subst hxst
      rw [update_self]
      exact bodyOf_append [f] (h.complete x body hx)
    · rw [update_of_ne hxst]
      exact h.complete x body hx

/-- The event loop takes an event. -/
theorem BodyInv.take (h : BodyInv q s) {event : ClientH3Event} {events : List ClientH3Event}
    (hevents : s.events = event :: events) :
    BodyInv q ({ s with events := events }.take event) := by
  have hsub : ∀ x ∈ headsOf events, x ∈ headsOf s.events := by
    intro x hx
    rw [hevents, ← List.singleton_append, headsOf_append]
    exact List.mem_append_right _ hx
  have hpop : BodyInv q { s with events := events } := by
    refine { h with
      once := ?_
      received := fun x hx => h.received x (hsub x hx)
      unread := fun x hx => h.unread x (hx.imp_right (hsub x)) }
    have honce := h.once
    rw [hevents, ← List.singleton_append, headsOf_append] at honce
    exact honce.of_append_right
  have hturn : ∀ loop : Loop, (∀ st body, loop ≠ .complete st (.ok body)) →
      BodyInv q { s with events := events, loop := loop } :=
    fun loop hne => hpop.congr rfl rfl rfl rfl fun x body hx => absurd hx (hne x body)
  cases event with
  | incomingHeaders st headers =>
    rw [State.take_incomingHeaders]
    split
    · exact hturn _ nofun
    have heads : headsOf s.events = st :: headsOf events := by rw [hevents]; rfl
    have hin : st ∈ headsOf s.events := heads ▸ List.mem_cons_self ..
    have hout : st ∉ headsOf events := (List.nodup_cons.mp (heads ▸ h.once)).1
    refine { hpop with unread := fun x hx => ?_, reading := fun x acc hx gs => ?_ }
    · have hxst : x ≠ st := by
        rintro rfl
        rcases hx with hx | hx
        · cases (h.received x hin).symm.trans hx
        · exact hout hx
      dsimp only
      rw [update_of_ne hxst]
      exact hpop.unread x hx
    · rcases update_some_eq_some.mp hx with ⟨rfl, rfl⟩ | ⟨-, hx⟩
      · rw [(h.unread x (.inr hin)).2]
        simp
      · exact hpop.reading x acc hx gs
  | newOutboundRequest _ _ | connectionError _ | connectionShutdown _ | resetStream _ | streamClosed _ =>
    exact hturn _ nofun
  | other => exact hpop

/-- A body task reads to the end. -/
theorem BodyInv.over (h : BodyInv q s) {rest : List InboundFrame}
    {responseBody : List UInt8} {res : Result}
    (htask : s.bodyTasks st = some responseBody) (hres : ∀ body, res = .ok body →
      bodyOf (q st) = some body) :
    BodyInv q { s with
      frames := update s.frames st rest, bodyTasks := update s.bodyTasks st none, loop :=
        .complete st res } := by
  refine ⟨h.once, h.received, fun x hx => ?_, fun x acc hx gs => ?_, fun x body hx => ?_⟩
  · dsimp only
    rw [update_of_ne (h.ne_of_unread htask hx), update_of_ne (h.ne_of_unread htask hx)]
    exact h.unread x hx
  · obtain ⟨hxst, hx⟩ := update_none_eq_some.mp hx
    dsimp only
    rw [update_of_ne hxst]
    exact h.reading x acc hx gs
  · obtain ⟨rfl, rfl⟩ := Loop.complete.inj hx
    exact hres body rfl

/-- A body task reads on. -/
theorem BodyInv.more (h : BodyInv q s) {rest : List InboundFrame} {responseBody acc : List UInt8}
    (htask : s.bodyTasks st = some responseBody)
    (hacc : ∀ gs, bodyOf (q st ++ gs) = (bodyOf (rest ++ gs)).map (acc ++ ·)) :
    BodyInv q { s with frames := update s.frames st rest, bodyTasks := update s.bodyTasks st (some acc) } := by
  refine ⟨h.once, h.received, fun x hx => ?_, fun x acc' hx gs => ?_, h.complete⟩
  · dsimp only
    rw [update_of_ne (h.ne_of_unread htask hx), update_of_ne (h.ne_of_unread htask hx)]
    exact h.unread x hx
  · rcases update_some_eq_some.mp hx with ⟨rfl, rfl⟩ | ⟨hxst, hx⟩
    · dsimp only
      rw [update_self]
      exact hacc gs
    · dsimp only
      rw [update_of_ne hxst]
      exact h.reading x acc' hx gs

/-- **Every step keeps the invariant of the bodies.** -/
theorem BodyInv.step (h : BodyInv (framesOf as) s) (hs : h3Step s a = some s') :
    BodyInv (framesOf (as ++ [a])) s' := by
  have heffect := effect_of_step hs
  -- The frames that were queued change where the driver queues one.
  by_cases hframe : ∃ st f, a = .frame st f
  · obtain ⟨st, f, rfl⟩ := hframe
    cases heffect with
    | aside ha => exact ha.elim
    | frame =>
      rw [framesOf_frame]
      exact h.frame f
  rw [framesOf_other fun st f ha => hframe ⟨st, f, ha⟩]
  cases heffect with
  | aside ha hs =>
    have hsame := aside_of_quiet ha hs
    exact h.congr hsame.events hsame.received hsame.frames hsame.bodyTasks (hsame.loop ▸ h.complete)
  | openStream => exact h.emit nofun
  | headers hnew => exact h.headers hnew
  | emit _ hne => exact h.emit hne
  | frame => exact absurd ⟨_, _, rfl⟩ hframe
  | take _ hevents => exact h.take hevents
  | @last st responseBody data rest _ htask hframes =>
    refine h.over htask fun body hbody => ?_
    cases hbody
    have hread := h.reading st responseBody htask []
    rw [hframes] at hread
    simpa [bodyOf] using hread
  | @cut st _ _ htask hframes =>
    have hdone : BodyInv (framesOf as) { s with
        frames := update s.frames st (s.frames st), bodyTasks := update s.bodyTasks st none
        loop := .complete st retryableFailure } := h.over htask nofun
    rw [update_eq_self] at hdone
    exact hdone
  | @more st responseBody data rest _ htask hframes =>
    refine h.more htask fun gs => ?_
    have hread := h.reading st responseBody htask gs
    rw [hread, hframes, List.cons_append, bodyOf, Option.map_map]
    exact congrArg (Option.map · _) (funext fun _ => (List.append_assoc ..).symm)
  | @skip st responseBody rest _ htask hframes =>
    have hread : ∀ gs, bodyOf (framesOf as st ++ gs) = (bodyOf (rest ++ gs)).map
      (responseBody ++ ·) := by
      intro gs
      rw [h.reading st responseBody htask gs, hframes]
      rfl
    have hdone := h.more htask hread
    rw [← htask, update_eq_self] at hdone
    exact hdone
  | fail => exact h.congr rfl rfl rfl rfl h.complete
  | gone | announce | complete | late | noStream | send | failAll =>
    exact h.congr rfl rfl rfl rfl nofun

end DohProxy.Upstream.H3
