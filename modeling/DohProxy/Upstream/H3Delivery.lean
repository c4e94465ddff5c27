import DohProxy.Upstream.H3Table
import Mathlib.Data.List.Infix

/-!
# The results of the HTTP/3 client

`select!` takes an event or lets a body task read, whichever it likes where both are ready. A stream
is closed when its body is complete, so the event and the body are ready together.

## What is proved

`body_delivered` — **as long as `StreamClosed` is not taken before the body** that is queued, and
headers not before their stream is noted, a request whose stream got status 200 and its whole body
is sent that body and no error.

`closed_before_body` — otherwise a request is failed though its body is there.
-/

namespace DohProxy.Upstream.H3

open Lib System Function DohH3Pending

variable {as : List Action} {s s' : State} {a : Action} {st r : ℕ} {res : Result}

/-! ### The property -/

/-- Nothing is wrong with a stream and the connection. The driver gives the headers, with status
200, and queues the body before it says that the stream is closed. -/
structure Undisturbed (as : List Action) (st r : ℕ) : Prop where
  ok : ∀ headers, .emit (.incomingHeaders st headers) ∈ as → status headers = 200
  closedLast : ∀ before, before ++ [.emit (.streamClosed st)] <+: as →
    .emit (.newOutboundRequest st r) ∈ before ∧
      (∃ headers, .emit (.incomingHeaders st headers) ∈ before) ∧
      (bodyOf (framesOf before st)).isSome
  notCancelled : .cancel r ∉ as
  notReset : .emit (.resetStream st) ∉ as
  noError : ∀ retryable, .emit (.connectionError retryable) ∉ as
  noShutdown : ∀ retryable, .emit (.connectionShutdown retryable) ∉ as
  notGone : .hangUp ∉ as

/-- What is to hold: a request whose body has come is sent nothing else. -/
def BodyDelivered (as : List Action) (s : State) : Prop :=
  ∀ st r body res, .emit (.newOutboundRequest st r) ∈ as → Undisturbed as st r →
    bodyOf (framesOf as st) = some body → (r, res) ∈ s.sent → res = .ok body

/-- The event loop takes no event too early: `StreamClosed` not before a body that could be read, and
`NewOutboundRequest` not after the headers. -/
def InTurn (s : State) : ClientH3Event → Prop
  | .streamClosed st => s.bodyTasks st = none ∨ s.pending.byStream st = none ∨
    bodyOf (s.frames st) = none
  | .newOutboundRequest st _ => s.received st = true → st ∈ headsOf s.events
  | _ => True

/-- The driver opens one stream for a request, and events are taken in turn. -/
def InOrder (s : State) (a : Action) : Prop :=
  AnnouncesOnce s a ∧ (a = .event → ∀ e ∈ s.events.head?, InTurn s e)

instance (s : State) : DecidablePred (InTurn s)
  | .streamClosed _ => inferInstanceAs (Decidable (_ ∨ _ ∨ _))
  | .newOutboundRequest _ _ => inferInstanceAs (Decidable (_ → _))
  | .incomingHeaders _ _ | .connectionError _ | .connectionShutdown _ | .resetStream _ | .other =>
    .isTrue trivial

instance (s : State) : DecidablePred (InOrder s) := fun _ => inferInstanceAs (Decidable (_ ∧ _))

/-! ### What the history says -/

/-- The events that are queued after a step. -/
theorem events_of_step (hs : h3Step s a = some s') : s'.events = s.events ∨
    (∃ e, a = .emit e ∧ s'.events = s.events ++ [e] ∧
      ∀ st headers, e = .incomingHeaders st headers → s.received st = false) ∨
    ∃ e, s.events = e :: s'.events := by
  cases effect_of_step hs with
  | aside ha hs => exact .inl (aside_of_quiet ha hs).events
  | openStream => exact .inr (.inl ⟨_, rfl, rfl, nofun⟩)
  | headers hnew => exact .inr (.inl ⟨_, rfl, rfl, fun st headers h => by cases h; exact hnew⟩)
  | emit _ hne => exact .inr (.inl ⟨_, rfl, rfl, fun st headers h => absurd h (hne st headers)⟩)
  | take _ hevents =>
    obtain ⟨_, _, htake⟩ := take_eq _ _
    rw [htake]
    exact .inr (.inr ⟨_, hevents⟩)
  | frame | gone | last | cut | more | skip | announce | complete | late | noStream | send | failAll | fail => exact .inl rfl

/-- The streams whose receiver is given away after a step. -/
theorem received_of_step (hs : h3Step s a = some s') :
    s'.received st = true ↔ s.received st = true ∨
      ∃ headers, a = .emit (.incomingHeaders st headers) := by
  have hother : s'.received = s.received → (∀ headers, a ≠ .emit (.incomingHeaders st headers)) →
      (s'.received st = true ↔ s.received st = true ∨
        ∃ headers, a = .emit (.incomingHeaders st headers)) := by
    intro hsame hne
    rw [hsame, or_iff_left fun h => h.elim hne]
  cases effect_of_step hs with
  | aside ha hs => exact hother (aside_of_quiet ha hs).received fun headers h => by cases h; exact ha
  | @headers x headers hnew =>
    by_cases hx : st = x
    · subst hx
      exact iff_of_true (update_self ..) (.inr ⟨headers, rfl⟩)
    · dsimp only
      rw [update_of_ne hx, or_iff_left]
      rintro ⟨headers', h⟩
      cases h
      exact hx rfl
  | emit _ hne => exact hother rfl fun headers h => hne _ _ (Action.emit.inj h)
  | take =>
    refine hother ?_ fun _ => nofun
    obtain ⟨_, _, htake⟩ := take_eq _ _
    rw [htake]
  | openStream | frame | gone | last | cut | more | skip | announce | complete | late | noStream | send | failAll
  | fail => exact hother rfl fun _ => nofun

/-- What the driver has done and how the event loop came to know. -/
structure HistoryInv (as : List Action) (s : State) : Prop where
  events : ∀ e ∈ s.events, .emit e ∈ as
  received : ∀ st, s.received st = true ↔ ∃ headers, .emit (.incomingHeaders st headers) ∈ as
  hungUp : s.hungUp = true → .hangUp ∈ as

theorem HistoryInv.step (h : HistoryInv as s) (hs : h3Step s a = some s') :
    HistoryInv (as ++ [a]) s' where
  events e he := by
    rcases events_of_step hs with hsame | ⟨e', rfl, hadd, -⟩ | ⟨e', htake⟩
    · exact List.mem_append_left _ (h.events e (hsame ▸ he))
    · rw [hadd] at he
      rcases List.mem_append.mp he with he | he
      · exact List.mem_append_left _ (h.events e he)
      · rw [List.mem_singleton.mp he]
        exact List.mem_append_right _ (List.mem_singleton_self _)
    · exact List.mem_append_left _ (h.events e (htake ▸ List.mem_cons_of_mem _ he))
  received st := by
    rw [received_of_step hs, h.received]
    simp only [List.mem_append, List.mem_singleton, exists_or, eq_comm (b := a)]
  hungUp hgone := by
    have hkeep : s.hungUp = true → .hangUp ∈ as ++ [a] :=
      fun h' => List.mem_append_left _ (h.hungUp h')
    cases effect_of_step hs with
    | aside ha hs =>
      rcases (aside_of_quiet ha hs).hungUp hgone with hgone | rfl
      · exact hkeep hgone
      · exact List.mem_append_right _ (List.mem_singleton_self _)
    | take =>
      obtain ⟨_, _, htake⟩ := take_eq _ _
      rw [htake] at hgone
      exact hkeep hgone
    | openStream | headers | emit | frame | gone | last | cut | more | skip | announce | complete | late | noStream
    | send | failAll | fail => exact hkeep hgone

/-! ### Headers that were taken -/

/-- The event loop has taken the headers of a stream. -/
def State.Taken (s : State) (st : ℕ) : Prop := s.received st = true ∧ st ∉ headsOf s.events

/-- What holds of a stream whose headers were taken. -/
structure TakenInv (s : State) : Prop where
  /-- The stream was noted before. -/
  noted : ∀ st, s.Taken st → ∀ r, s.loop ≠ .announce st r
  /-- Its body task is there, or the stream is completed. -/
  task : ∀ st, s.Taken st → s.bodyTasks st = none →
    (∃ res, s.loop = .complete st res) ∨ s.pending.byStream st = none

/-- The event loop takes an event, in turn. -/
theorem TakenInv.take (h : TakenInv s) {event : ClientH3Event}
    {events : List ClientH3Event} (hloop : s.loop = .select) (hevents : s.events = event :: events)
    (hturn : InTurn s event) : TakenInv ({ s with events := events }.take event) := by
  have hnone : ∀ st, s.Taken st → s.bodyTasks st = none → s.pending.byStream st = none :=
    fun st hst htask => (h.task st hst htask).resolve_left fun ⟨_, hres⟩ =>
      nomatch hloop.symm.trans hres
  have hother : (∀ st headers, event ≠ .incomingHeaders st headers) → ∀ loop : Loop,
      (∀ st r, loop = .announce st r → event = .newOutboundRequest st r) →
      TakenInv { s with events := events, loop := loop } := by
    intro hne loop hann
    have heads : headsOf s.events = headsOf events := by
      rw [hevents, ← List.nil_append (event :: events), List.append_cons, headsOf_append,
        headsOf_concat hne]
      rfl
    refine ⟨fun st hst r hr => ?_, fun st hst htask => .inr (hnone st ⟨hst.1, heads ▸ hst.2⟩ htask)⟩
    rw [hann st r hr] at hturn
    exact hst.2 (heads ▸ hturn hst.1)
  cases event with
  | incomingHeaders st headers =>
    have heads : headsOf s.events = st :: headsOf events := by rw [hevents]; rfl
    have htaken : ∀ x, x ≠ st → s.received x = true → x ∉ headsOf events → s.Taken x := by
      intro x hxst hrec hout
      refine ⟨hrec, fun hin => ?_⟩
      rw [heads] at hin
      exact (List.mem_cons.mp hin).elim hxst hout
    rw [State.take_incomingHeaders]
    split
    · refine ⟨fun _ _ _ => nofun, fun x hx htask => ?_⟩
      by_cases hxst : x = st
      · exact .inl ⟨_, congrArg (Loop.complete · _) hxst.symm⟩
      · exact .inr (hnone x (htaken x hxst hx.1 hx.2) htask)
    · refine ⟨fun x _ r hr => (nomatch hloop.symm.trans hr), fun x hx htask => ?_⟩
      obtain ⟨hxst, htask⟩ := update_some_eq_none.mp htask
      exact .inr (hnone x (htaken x hxst hx.1 hx.2) htask)
  | newOutboundRequest st r => exact hother nofun _ fun _ _ hx => by cases hx; rfl
  | connectionError _ | connectionShutdown _ | resetStream _ | streamClosed _ =>
    exact hother nofun _ nofun
  | other => exact hother nofun s.loop fun _ _ hx => nomatch hloop.symm.trans hx

/-- **Every step keeps the invariant of the headers that were taken.** -/
theorem TakenInv.step (h : TakenInv s) (hc : InOrder s a) (hs : h3Step s a = some s') :
    TakenInv s' := by
  -- Where the event loop completes no stream, a stream without a task is open for no request.
  have hnone : (∀ st res, s.loop ≠ .complete st res) → ∀ st, s.Taken st → s.bodyTasks st = none →
      s.pending.byStream st = none :=
    fun hne st hst htask => (h.task st hst htask).resolve_left fun ⟨res, hres⟩ => hne st res hres
  have hcompleted : ∀ {x res}, s.loop = .complete x res → ∀ st, st ≠ x → s.Taken st →
    s.bodyTasks st = none →
      s.pending.byStream st = none := by
    rintro x res hloop st hne hst htask
    refine (h.task st hst htask).resolve_left ?_
    rintro ⟨_, hres⟩
    exact hne (Loop.complete.inj (hres.symm.trans hloop)).1
  cases effect_of_step hs with
  | @aside a s' ha hs =>
    obtain hsame := aside_of_quiet ha hs
    have htaken : ∀ st, s'.Taken st → s.Taken st := fun st hst => by
      rwa [State.Taken, hsame.received, hsame.events] at hst
    refine ⟨fun st hst r hr => h.noted st (htaken st hst) r (hsame.loop ▸ hr),
      fun st hst htask => ?_⟩
    rw [hsame.loop]
    exact (h.task st (htaken st hst) (hsame.bodyTasks ▸ htask)).imp_right (hsame.byStream st)
  | @openStream x r =>
    have heads : headsOf (s.events ++ [.newOutboundRequest x r]) = headsOf s.events :=
      headsOf_concat nofun
    exact ⟨fun st hst => h.noted st ⟨hst.1, heads ▸ hst.2⟩, fun st hst =>
      h.task st ⟨hst.1, heads ▸ hst.2⟩⟩
  | @emit event _ hne =>
    have heads : headsOf (s.events ++ [event]) = headsOf s.events := headsOf_concat hne
    exact ⟨fun st hst => h.noted st ⟨hst.1, heads ▸ hst.2⟩, fun st hst =>
      h.task st ⟨hst.1, heads ▸ hst.2⟩⟩
  | @headers x headers hnew =>
    have htaken : ∀ st, State.Taken { s with
        events := s.events ++ [.incomingHeaders x headers], received :=
          update s.received x true } st → s.Taken st := by
      rintro st ⟨hrec, hout⟩
      rw [headsOf_append, List.mem_append, not_or] at hout
      have hne : st ≠ x := by
        rintro rfl
        exact hout.2 (List.mem_singleton_self _)
      exact ⟨(update_of_ne hne ..).symm.trans hrec, hout.1⟩
    exact ⟨fun st hst => h.noted st (htaken st hst), fun st hst => h.task st (htaken st hst)⟩
  | take hloop hevents => exact h.take hloop hevents (hc.2 rfl _ (by rw [hevents]; rfl))
  | gone hloop => exact ⟨fun _ _ _ => nofun, fun st hst htask =>
    .inr (hnone (by rw [hloop]; nofun) st hst htask)⟩
  | @last x _ _ _ hloop | @cut x _ hloop =>
    refine ⟨fun _ _ _ => nofun, fun st hst htask => ?_⟩
    by_cases hst' : st = x
    · exact .inl ⟨_, congrArg (Loop.complete · _) hst'.symm⟩
    · exact .inr (hnone (by rw [hloop]; nofun) st hst ((update_of_ne hst' ..).symm.trans htask))
  | more => exact ⟨h.noted, fun st hst htask => h.task st hst (update_some_eq_none.mp htask).2⟩
  | @announce x r hloop =>
    refine ⟨fun _ _ _ => nofun, fun st hst htask => .inr ?_⟩
    have hne : st ≠ x := by
      rintro rfl
      exact h.noted st hst r hloop
    exact announce_byStream_none hne (hnone (by rw [hloop]; nofun) st hst htask)
  | @complete x _ _ _ hloop | @late x _ _ hloop =>
    refine ⟨fun _ _ _ => nofun, fun st hst htask => .inr ?_⟩
    by_cases hx : st = x
    · subst hx
      exact update_self ..
    · exact update_none_eq_none (hcompleted hloop st hx hst htask)
  | @noStream x _ hloop hx =>
    refine ⟨fun _ _ _ => nofun, fun st hst htask => .inr ?_⟩
    by_cases hst' : st = x
    · exact hst' ▸ hx
    · exact hcompleted hloop st hst' hst htask
  | send hloop => exact ⟨fun _ _ _ => nofun, fun st hst htask =>
    .inr (hnone (by rw [hloop]; nofun) st hst htask)⟩
  | failAll => exact ⟨fun _ _ _ => nofun, fun _ _ _ => .inr rfl⟩
  | frame | skip | fail => exact ⟨h.noted, h.task⟩

/-! ### Errors -/

/-- Headers that have come leave the event loop where it is, or end their stream. -/
theorem loop_take_incomingHeaders {x : ℕ} {headers : List Header} {loop : Loop}
    (h : (s.take (.incomingHeaders x headers)).loop = loop) (hselect : s.loop = .select) :
    loop = .select ∨ status headers ≠ 200 ∧ loop = .complete x (.error ⟨false⟩) := by
  subst h
  rw [State.take_incomingHeaders]
  split
  · next hstatus => exact .inr ⟨hstatus, rfl⟩
  · exact .inl hselect

/-- A stream that is completed was about to be, or for what reason it is. -/
theorem complete_of_step (hs : h3Step s a = some s') (hloop : s'.loop = .complete st res) :
    s.loop = .complete st res ∧ (s.pending.byStream st = none → s'.pending.byStream st = none) ∨
    (∃ e events, a = .event ∧ s.loop = .select ∧ s.events = e :: events ∧ s'.pending = s.pending ∧
      ((∃ headers, e = .incomingHeaders st headers ∧ status headers ≠ 200) ∨ e = .resetStream st ∨
        e = .streamClosed st)) ∨
    (∃ responseBody, s.bodyTasks st = some responseBody ∧ s.frames st = [] ∧ s.finished st = true) ∨
    ∃ body, res = .ok body := by
  cases effect_of_step hs with
  | aside ha hs =>
    have hsame := aside_of_quiet ha hs
    exact .inl ⟨hsame.loop ▸ hloop, hsame.byStream st⟩
  | @take event events hselect hevents =>
    have hcause : (∃ headers, event = .incomingHeaders st headers ∧ status headers ≠ 200) ∨
        event = .resetStream st ∨ event = .streamClosed st := by
      cases event with
      | incomingHeaders x headers =>
        obtain ⟨hstatus, hcomplete⟩ := (loop_take_incomingHeaders hloop hselect).resolve_left nofun
        cases hcomplete
        exact .inl ⟨headers, rfl, hstatus⟩
      | resetStream x =>
        cases hloop
        exact .inr (.inl rfl)
      | streamClosed x =>
        cases hloop
        exact .inr (.inr rfl)
      | other => cases hselect.symm.trans hloop
      | newOutboundRequest _ _ | connectionError _ | connectionShutdown _ => cases hloop
    refine .inr (.inl ⟨event, events, rfl, hselect, hevents, ?_, hcause⟩)
    obtain ⟨_, _, htake⟩ := take_eq _ _
    rw [htake]
  | last =>
    cases hloop
    exact .inr (.inr (.inr ⟨_, rfl⟩))
  | cut _ htask hframes hfin =>
    cases hloop
    exact .inr (.inr (.inl ⟨_, htask, hframes, hfin⟩))
  | gone | announce | complete | late | noStream | send | failAll => cases hloop
  | openStream | headers | emit | frame | more | skip | fail => exact .inl ⟨hloop, id⟩

/-- Why all requests are about to fail. -/
theorem failAll_of_step (hs : h3Step s a = some s') {retryable : Bool}
    (hloop : s'.loop = .failAll retryable) :
    s.loop = .failAll retryable ∨ s.hungUp = true ∨
      ∃ retryable, .connectionError retryable ∈ s.events ∨
        .connectionShutdown retryable ∈ s.events := by
  cases effect_of_step hs with
  | aside ha hs => exact .inl ((aside_of_quiet ha hs).loop ▸ hloop)
  | @take event events hselect hevents =>
    have hhead : event ∈ s.events := hevents ▸ List.mem_cons_self ..
    cases event with
    | connectionError b => exact .inr (.inr ⟨b, .inl hhead⟩)
    | connectionShutdown b => exact .inr (.inr ⟨b, .inr hhead⟩)
    | incomingHeaders =>
      rcases loop_take_incomingHeaders hloop hselect with hstays | ⟨-, hcomplete⟩
      · cases hstays
      · cases hcomplete
    | other => cases hselect.symm.trans hloop
    | newOutboundRequest _ _ | resetStream _ | streamClosed _ => cases hloop
  | gone _ hgone => exact .inr (.inl hgone)
  | last | cut | announce | complete | late | noStream | send | failAll => cases hloop
  | openStream | headers | emit | frame | more | skip | fail => exact .inl hloop

/-- The event loop is over when all requests have failed. -/
theorem ended_of_step (hs : h3Step s a = some s') (hloop : s'.loop = .ended) :
    s.loop = .ended ∨ ∃ retryable, s.loop = .failAll retryable := by
  cases effect_of_step hs with
  | aside ha hs => exact .inl ((aside_of_quiet ha hs).loop ▸ hloop)
  | @take event events hselect =>
    cases event with
    | incomingHeaders =>
      rcases loop_take_incomingHeaders hloop hselect with hstays | ⟨-, hcomplete⟩
      · cases hstays
      · cases hcomplete
    | other => cases hselect.symm.trans hloop
    | newOutboundRequest _ _ | resetStream _ | streamClosed _ | connectionError _ | connectionShutdown _ => cases hloop
  | failAll hall => exact .inr ⟨_, hall⟩
  | gone | last | cut | announce | complete | late | noStream | send => cases hloop
  | openStream | headers | emit | frame | more | skip | fail => exact .inl hloop

/-- No more frames come on a stream, and they are no body. -/
def Lost (as : List Action) (s : State) (st : ℕ) : Prop :=
  s.finished st = true ∧ bodyOf (framesOf as st) = none

theorem Lost.step (h : Lost as s st) (hs : h3Step s a = some s') : Lost (as ++ [a]) s' st := by
  obtain ⟨hfin, hbody⟩ := h
  cases effect_of_step hs with
  | aside ha hs =>
    refine ⟨(aside_of_quiet ha hs).finished st hfin, ?_⟩
    rw [framesOf_other (by rintro st f rfl; exact ha)]
    exact hbody
  | @frame x f hx =>
    refine ⟨hfin, ?_⟩
    have hne : st ≠ x := by
      rintro rfl
      cases hx.symm.trans hfin
    rw [framesOf_frame, update_of_ne hne]
    exact hbody
  | take =>
    obtain ⟨_, _, htake⟩ := take_eq _ _
    rw [htake, Lost, framesOf_other (by nofun)]
    exact ⟨hfin, hbody⟩
  | openStream | headers | emit | gone | last | cut | more | skip | announce | complete | late | noStream | send
  | failAll | fail =>
    rw [Lost, framesOf_other (by nofun)]
    exact ⟨hfin, hbody⟩

/-- A request has a stream, and where it is this one, its body is lost. -/
def Blame (as : List Action) (s : State) (st r : ℕ) : Prop :=
  ∃ x, (x, r) ∈ s.announced ∧ (x = st → Lost as s st)

theorem Blame.step (h : Blame as s st r) (hs : h3Step s a = some s') :
    Blame (as ++ [a]) s' st r := by
  obtain ⟨x, hann, hlost⟩ := h
  exact ⟨x, (mem_announced_of_step hs).mpr (.inl hann), fun hx => (hlost hx).step hs⟩

/-! ### Streams that are not disturbed -/

theorem Undisturbed.of_append (h : Undisturbed (as ++ [a]) st r) : Undisturbed as st r where
  ok headers hin := h.ok headers (List.mem_append_left _ hin)
  closedLast before hbefore := h.closedLast before (hbefore.trans (List.prefix_append as [a]))
  notCancelled hin := h.notCancelled (List.mem_append_left _ hin)
  notReset hin := h.notReset (List.mem_append_left _ hin)
  noError retryable hin := h.noError retryable (List.mem_append_left _ hin)
  noShutdown retryable hin := h.noShutdown retryable (List.mem_append_left _ hin)
  notGone hin := h.notGone (List.mem_append_left _ hin)

/-- The invariant of the errors, for a stream that is not disturbed. -/
structure ErrorInv (as : List Action) (s : State) (st : ℕ) : Prop where
  /-- Not all requests fail. -/
  noFailAll : ∀ retryable, s.loop ≠ .failAll retryable
  notEnded : s.loop ≠ .ended
  /-- The stream is closed when its body is there. -/
  closed : .streamClosed st ∈ s.events → s.received st = true ∧ (bodyOf (framesOf as st)).isSome
  /-- The event loop hears of that last. -/
  order : s.events.Pairwise fun e f => e = .streamClosed st →
    ∀ headers, f ≠ .incomingHeaders st headers
  /-- An error is for no request, or the body is lost. -/
  complete : ∀ failure, s.loop = .complete st (.error failure) →
    s.pending.byStream st = none ∨ Lost as s st
  send : ∀ r failure, s.loop = .send r (.error failure) → Blame as s st r
  sent : ∀ r failure, (r, .error failure) ∈ s.sent → Blame as s st r

theorem errorInv_init : ErrorInv [] h3Init st :=
  ⟨nofun, nofun, fun h => (by cases h), .nil, nofun, nofun, fun _ _ h => (by cases h)⟩

/-- Nothing is open for a request on a stream whose body is there, when its close is taken in turn. -/
theorem ErrorInv.byStream_of_closed (h : ErrorInv as s st) (hbody : BodyInv (framesOf as) s)
    (htaken : TakenInv s)
    {events : List ClientH3Event} (hloop : s.loop = .select) (hevents : s.events =
      .streamClosed st :: events)
    (hturn : InTurn s (.streamClosed st)) : s.pending.byStream st = none := by
  obtain ⟨hrec, hsome⟩ := h.closed (hevents ▸ List.mem_cons_self ..)
  have hheads : headsOf s.events = headsOf events := by rw [hevents]; rfl
  have hout : st ∉ headsOf s.events := by
    intro hin
    obtain ⟨headers, he⟩ := mem_headsOf.mp (hheads ▸ hin)
    have horder := h.order
    rw [hevents] at horder
    exact List.rel_of_pairwise_cons horder he rfl headers rfl
  cases htask : s.bodyTasks st with
  | none => exact (htaken.task st ⟨hrec, hout⟩ htask).resolve_left fun ⟨_, hres⟩ =>
    nomatch hloop.symm.trans hres
  | some responseBody =>
    rcases hturn with hturn | hturn | hturn
    · cases htask.symm.trans hturn
    · exact hturn
    · have hread := hbody.reading st responseBody htask []
      rw [List.append_nil, List.append_nil, hturn] at hread
      rw [hread] at hsome
      cases hsome

/-- **Every step keeps the invariant of the errors** of a stream that is not disturbed. -/
theorem ErrorInv.step (h : ErrorInv as s st) (hrun : RunInv as s) (htaken : TakenInv s)
    (hhistory : HistoryInv as s)
    (hu : Undisturbed (as ++ [a]) st r) (hc : InOrder s a) (hs : h3Step s a = some s') : ErrorInv
      (as ++ [a]) s' st := by
  have hold := hu.of_append
  have hnotEnded : s.loop ≠ .ended := h.notEnded
  refine ⟨fun retryable hloop => ?_, fun hloop => ?_, fun hin => ?_, ?_, fun failure hloop => ?_,
    fun x failure hsend => ?_, fun x failure hsent => ?_⟩
  · rcases failAll_of_step hs hloop with hall | hgone | ⟨b, he | he⟩
    · exact h.noFailAll retryable hall
    · exact hold.notGone (hhistory.hungUp hgone)
    · exact hold.noError b (hhistory.events _ he)
    · exact hold.noShutdown b (hhistory.events _ he)
  · exact (ended_of_step hs hloop).elim h.notEnded fun ⟨b, hall⟩ => h.noFailAll b hall
  · have hkeep : s.received st = true ∧ (bodyOf (framesOf as st)).isSome →
        s'.received st = true ∧ (bodyOf (framesOf (as ++ [a]) st)).isSome := by
      rintro ⟨hrec, hsome⟩
      obtain ⟨body, hbody⟩ := Option.isSome_iff_exists.mp hsome
      refine ⟨(received_of_step hs).mpr (.inl hrec), Option.isSome_iff_exists.mpr ⟨body, ?_⟩⟩
      rw [framesOf_append]
      exact bodyOf_append _ hbody
    rcases events_of_step hs with hsame | ⟨e, rfl, hadd, -⟩ | ⟨e, hpop⟩
    · exact hkeep (h.closed (hsame ▸ hin))
    · rw [hadd] at hin
      rcases List.mem_append.mp hin with hin | hin
      · exact hkeep (h.closed hin)
      · obtain rfl := List.mem_singleton.mp hin
        obtain ⟨-, hheaders, hsome⟩ := hu.closedLast as (List.prefix_refl _)
        exact hkeep ⟨(hhistory.received st).mpr hheaders, hsome⟩
    · exact hkeep (h.closed (hpop ▸ List.mem_cons_of_mem _ hin))
  · rcases events_of_step hs with hsame | ⟨e, rfl, hadd, hnew⟩ | ⟨e, hpop⟩
    · exact hsame ▸ h.order
    · rw [hadd, List.pairwise_append]
      refine ⟨h.order, List.pairwise_singleton .., ?_⟩
      rintro x hx f hf rfl headers rfl
      obtain rfl := List.mem_singleton.mp hf
      cases (h.closed hx).1.symm.trans (hnew st headers rfl)
    · exact (hpop ▸ h.order : (e :: s'.events).Pairwise _).of_cons
  · rcases complete_of_step hs hloop with ⟨hloop, hkeep⟩ | ⟨e, events, rfl, hselect, hevents,
      hpending, hcause⟩ |
      ⟨responseBody, htask, hframes, hfin⟩ | ⟨body, hbody⟩
    · exact (h.complete failure hloop).imp hkeep fun hlost => hlost.step hs
    · have he : .emit e ∈ as := hhistory.events e (hevents ▸ List.mem_cons_self ..)
      have hturn : InTurn s e := hc.2 rfl e (by rw [hevents]; rfl)
      rcases hcause with ⟨headers, rfl, hstatus⟩ | rfl | rfl
      · exact absurd (hold.ok headers he) hstatus
      · exact absurd he hold.notReset
      · rw [hpending]
        exact .inl (h.byStream_of_closed hrun.body htaken hselect hevents hturn)
    · refine .inr (Lost.step ⟨hfin, ?_⟩ hs)
      have hread := hrun.body.reading st responseBody htask []
      rw [List.append_nil, List.append_nil, hframes] at hread
      exact hread
    · cases hbody
  · refine Blame.step ?_ hs
    rcases send_of_step hs hsend with hsend | ⟨y, z, hloop, hy, hz⟩
    · exact h.send x failure hsend
    · obtain ⟨rfl, -⟩ := hrun.table.sender z x hz
      refine ⟨y, (hrun.table.stream y x hy).2, ?_⟩
      rintro rfl
      refine (h.complete failure hloop).resolve_left ?_
      rw [hy]
      nofun
  · refine Blame.step ?_ hs
    rcases sent_of_step hs hsent with hsent | hsend | ⟨y, hy⟩
    · exact h.sent x failure hsent
    · exact h.send x failure hsend
    · exact absurd (hrun.table.failing y x _ hy).2.2.2 hnotEnded

/-! ### The result -/

/-- What holds of every run where events are taken in turn. -/
structure OrderInv (as : List Action) (s : State) : Prop where
  run : RunInv as s
  taken : TakenInv s
  history : HistoryInv as s
  error : ∀ st r, Undisturbed as st r → ErrorInv as s st

theorem orderInv_of_run (h : Run h3 InOrder as s) : OrderInv as s := by
  have hinit : OrderInv [] h3Init := by
    refine ⟨runInv_init, ⟨fun _ h => (nomatch h.1), fun _ h => (nomatch h.1)⟩, ?_,
      fun _ _ _ => errorInv_init⟩
    exact ⟨fun _ h => (by cases h), fun _ => ⟨nofun, fun ⟨_, h⟩ => (by cases h)⟩, nofun⟩
  refine h.invariant hinit fun as s a s' ih hc hs => ?_
  exact ⟨ih.run.step hc.1 hs, ih.taken.step hc hs, ih.history.step hs,
    fun st r hu => (ih.error st r hu.of_append).step ih.run ih.taken ih.history hu hc hs⟩

/-- **A request whose body has come is sent that body** in every run where events are taken in turn. -/
theorem body_delivered (h : Run h3 InOrder as s) : BodyDelivered as s := by
  intro st r body res hopened hu hbody hsent
  obtain ⟨hrun, -, -, herror⟩ := orderInv_of_run h
  have hann : (st, r) ∈ s.announced := (hrun.history st r).mpr hopened
  have hone : ∀ x, (x, r) ∈ s.announced → x = st :=
    fun x hx => congrArg Prod.fst (hrun.table.announced _ hx _ hann rfl)
  cases res with
  | error failure =>
    obtain ⟨x, hx, hlost⟩ := (herror st r hu).sent r failure hsent
    cases (hlost (hone x hx)).2.symm.trans hbody
  | ok body' =>
    obtain ⟨x, hx, hbody'⟩ := hrun.result.sent r body' hsent
    rw [hone x hx] at hbody'
    exact congrArg _ (Option.some.inj (hbody'.symm.trans hbody))

/-- A request whose stream is open, with its headers and its body. -/
def answered : List Action :=
  [.start, .register 0, .emit (.newOutboundRequest 0 0),
    .emit (.incomingHeaders 0 [⟨statusName, [0x32, 0x30, 0x30]⟩]),
    .frame 0 (.body [7] true)]

theorem undisturbed_answered {rest : List Action}
    (hrest : ∀ a ∈ rest, a ∈ [.event, .loop, .body 0]) :
    Undisturbed (answered ++ .emit (.streamClosed 0) :: rest) 0 0 := by
  have hout : ∀ a, a ∉ answered → a ≠ .emit (.streamClosed 0) → a ∉ [.event, .loop, .body 0] →
      a ∉ answered ++ .emit (.streamClosed 0) :: rest := by
    intro a h₁ h₂ h₃ ha
    rcases List.mem_append.mp ha with ha | ha
    · exact h₁ ha
    · exact (List.mem_cons.mp ha).elim h₂ fun ha => h₃ (hrest a ha)
  refine ⟨fun headers ha => ?_, fun before hbefore => ?_, hout _ (by decide) nofun (by decide),
    hout _ (by decide) nofun (by decide), fun b => hout _ (by cases b <;>
      decide) nofun (by cases b <;> decide),
    fun b => hout _ (by cases b <;> decide) nofun (by cases b <;> decide),
      hout _ (by decide) nofun (by decide)⟩
  · have hin : .emit (.incomingHeaders 0 headers) ∈ answered := by
      by_contra hnot
      exact hout (.emit (.incomingHeaders 0 headers)) hnot nofun (by simp) ha
    have hheaders : headers = [⟨statusName, [0x32, 0x30, 0x30]⟩] := by
      simp only [answered, List.mem_cons, reduceCtorEq, Action.emit.injEq,
        ClientH3Event.incomingHeaders.injEq,
        true_and, false_or, List.not_mem_nil, or_false] at hin
      exact hin
    rw [hheaders]
    decide
  · obtain ⟨after, hafter⟩ := hbefore
    have hnot : .emit (.streamClosed 0) ∉ rest := fun ha => absurd (hrest _ ha) (by decide)
    have hsplit : answered ++ .emit (.streamClosed 0) :: rest = before ++
      .emit (.streamClosed 0) :: after := by
      rw [← hafter, List.append_assoc, List.singleton_append]
    obtain ⟨rfl, -⟩ := (List.append_cons_inj_of_notMem (by decide) hnot).mp hsplit
    exact ⟨by decide, ⟨[⟨statusName, [0x32, 0x30, 0x30]⟩], by decide⟩, by decide⟩

/-- The event loop lets the body task read before it takes that the stream is closed. -/
def bodyFirst : List Action :=
  answered ++ .emit (.streamClosed 0) ::
    [.event, .loop, .event, .body 0, .loop, .loop, .event, .loop]

/-- The event loop takes that the stream is closed. -/
def closeFirst : List Action :=
  answered ++ .emit (.streamClosed 0) :: [.event, .loop, .event, .event, .loop, .loop]

theorem body_delivered_bodyFirst : ∃ s, s.sent = [(0, .ok [7])] ∧ BodyDelivered bodyFirst s := by
  have hrun : (h3.exec InOrder h3.init bodyFirst).map State.sent =
    some [(0, .ok [7])] := by decide +kernel
  obtain ⟨s, hs, hsent⟩ := Option.map_eq_some_iff.mp hrun
  exact ⟨s, hsent, body_delivered (run_of_exec hs)⟩

/-- **A request fails though its body is there** when the close of its stream is taken first: the driver
has queued the whole body before the close, and the body task is about to read it. -/
theorem closed_before_body :
    ∃ s, Run h3 AnnouncesOnce closeFirst s ∧ s.sent = [(0, retryableFailure)] ∧
      ¬ BodyDelivered closeFirst s := by
  have hrun : (h3.exec AnnouncesOnce h3.init closeFirst).map State.sent =
    some [(0, retryableFailure)] := by decide +kernel
  obtain ⟨s, hs, hsent⟩ := Option.map_eq_some_iff.mp hrun
  refine ⟨s, run_of_exec hs, hsent, fun h => ?_⟩
  have hu : Undisturbed closeFirst 0 0 := undisturbed_answered (by decide)
  cases h 0 0 [7] retryableFailure (by decide) hu (by decide) (hsent ▸ List.mem_singleton_self _)

end DohProxy.Upstream.H3
