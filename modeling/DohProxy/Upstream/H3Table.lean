import DohProxy.Upstream.H3Body

/-!
# The table of the HTTP/3 client

Requests enter the table and are given up, streams are opened, reset and closed, and bodies come in,
in any order. Every section on the table is short, and between two of them anything may happen.

## What is proved

`table_consistent` — **as long as the driver opens one stream for a request and no stream twice**,
the streams in the table belong to different requests that are in the table, a request is sent one
result at most, a body that it is sent was read from its own stream, and a request that has left
the table does not come back.
-/

namespace DohProxy.Upstream.H3

open Lib System Function DohH3Pending

variable {as : List Action} {s s' : State} {a : Action} {st r : ℕ} {res : Result}

/-- A request has been in the table, or will not be. -/
def State.Entered (s : State) (r : ℕ) : Prop :=
  s.requests r = some .waiting ∨ s.requests r = some .over

/-- A request has left the table. -/
def State.Gone (s : State) (r : ℕ) : Prop := s.Entered r ∧ s.pending.byRequest r = none

/-- A result is sent to a request, or about to be. -/
def State.Settled (s : State) (r : ℕ) : Prop :=
  r ∈ s.sent.map Prod.fst ∨ (∃ res, s.loop = .send r res) ∨ (s.failing r).isSome

/-- What is to hold of the table and the results. -/
structure Consistent (as : List Action) (s : State) : Prop where
  /-- A stream is open for a request in the table. -/
  live : ∀ st r, s.pending.byStream st = some r → (s.pending.byRequest r).isSome
  /-- Two streams are open for two requests. -/
  apart : ∀ st st' r, s.pending.byStream st = some r → s.pending.byStream st' = some r → st = st'
  /-- A request is sent one result at most. -/
  once : (s.sent.map Prod.fst).Nodup
  /-- A body that a request is sent is the body of the one stream that is opened for it. -/
  own : ∀ r body, (r, .ok body) ∈ s.sent → ∃ st, .emit (.newOutboundRequest st r) ∈ as ∧
    (∀ st', .emit (.newOutboundRequest st' r) ∈ as → st' = st) ∧ bodyOf (framesOf as st) = some body

/-! ### The table -/

/-- The invariant of the table and of the senders. -/
structure TableInv (s : State) : Prop where
  /-- A stream is open for a request in the table, and the driver has opened it. -/
  stream : ∀ st r, s.pending.byStream st = some r → (s.pending.byRequest r).isSome ∧
    (st, r) ∈ s.announced
  /-- A request in the table has its own sender, and no result. -/
  sender : ∀ r sender, s.pending.byRequest r = some sender → sender = r ∧
    s.Entered r ∧ ¬ s.Settled r
  /-- A request about to be sent its result has none. -/
  send : ∀ r res, s.loop = .send r res → s.Entered r ∧ r ∉ s.sent.map Prod.fst
  /-- A request about to be failed has no result, and the event loop is over. -/
  failing : ∀ r sender res, s.failing r = some (sender, res) →
    sender = r ∧ s.Entered r ∧ r ∉ s.sent.map Prod.fst ∧ s.loop = .ended
  /-- A request with a result was in the table. -/
  sent : ∀ r ∈ s.sent.map Prod.fst, s.Entered r
  /-- There is one result at most for each. -/
  once : (s.sent.map Prod.fst).Nodup
  /-- Numbers to come are not in use. -/
  fresh : ∀ r, s.nextRequestId ≤ r → s.requests r = none
  /-- The driver has opened one stream for a request. -/
  announced : ∀ p ∈ s.announced, ∀ q ∈ s.announced, p.2 = q.2 → p = q
  /-- It has opened a stream that the event loop hears of. -/
  heard : ∀ st r, s.loop = .announce st r ∨ .newOutboundRequest st r ∈ s.events →
    (st, r) ∈ s.announced

theorem tableInv_init : TableInv h3Init := by
  refine ⟨?_, ?_, ?_, ?_, ?_, List.nodup_nil, fun _ _ => rfl, ?_, ?_⟩ <;>
    simp [h3Init, DohH3Pending.empty]

/-- Nothing happens to the table and to the senders. The event loop may take something else up. -/
theorem TableInv.frame (h : TableInv s) (hpending : s'.pending = s.pending)
    (hnext : s'.nextRequestId = s.nextRequestId) (hrequests : s'.requests = s.requests)
    (hannounced : s'.announced = s.announced) (hfailing : s'.failing = s.failing)
      (hsent : s'.sent = s.sent)
    (hsend : ∀ r res, s'.loop = .send r res → s.loop = .send r res) (hended : s.loop = .ended →
      s'.loop = .ended)
    (hheard : ∀ st r, s'.loop = .announce st r ∨ .newOutboundRequest st r ∈ s'.events →
      (st, r) ∈ s.announced) : TableInv s' := by
  have hentered : ∀ r, s'.Entered r ↔ s.Entered r :=
    fun r => by rw [State.Entered, State.Entered, hrequests]
  have hsettled : ∀ r, s'.Settled r → s.Settled r := by
    rintro r (hr | ⟨res, hr⟩ | hr)
    · exact .inl (hsent ▸ hr)
    · exact .inr (.inl ⟨res, hsend r res hr⟩)
    · exact .inr (.inr (hfailing ▸ hr))
  refine ⟨?_, ?_, ?_, ?_, ?_, ?_, ?_, ?_, ?_⟩
  · rw [hpending, hannounced]
    exact h.stream
  · intro r sender hr
    obtain ⟨hown, hin, hno⟩ := h.sender r sender (hpending ▸ hr)
    exact ⟨hown, (hentered r).mpr hin, fun hs => hno (hsettled r hs)⟩
  · intro r res hr
    rw [hentered, hsent]
    exact h.send r res (hsend r res hr)
  · intro r sender res hr
    obtain ⟨hown, hin, hno, hloop⟩ := h.failing r sender res (hfailing ▸ hr)
    rw [hentered, hsent]
    exact ⟨hown, hin, hno, hended hloop⟩
  · intro r hr
    rw [hentered]
    exact h.sent r (hsent ▸ hr)
  · rw [hsent]
    exact h.once
  · rw [hnext, hrequests]
    exact h.fresh
  · rw [hannounced]
    exact h.announced
  · rw [hannounced]
    exact hheard

/-- The requests go on, and numbers are given. -/
theorem TableInv.advance (h : TableInv s) {requests : ℕ → Option Phase} {nextRequestId : ℕ}
    (hstays : ∀ x, s.Entered x → requests x = some .waiting ∨ requests x = some .over)
    (hfresh : ∀ x, nextRequestId ≤ x → requests x = none) :
    TableInv { s with requests := requests, nextRequestId := nextRequestId } := by
  refine ⟨h.stream, ?_, ?_, ?_, ?_, h.once, hfresh, h.announced, h.heard⟩
  · intro x sender hx
    obtain ⟨hown, hin, hno⟩ := h.sender x sender hx
    exact ⟨hown, hstays x hin, hno⟩
  · intro x res hx
    obtain ⟨hin, hno⟩ := h.send x res hx
    exact ⟨hstays x hin, hno⟩
  · intro x sender res hx
    obtain ⟨hown, hin, hno, hloop⟩ := h.failing x sender res hx
    exact ⟨hown, hstays x hin, hno, hloop⟩
  · exact fun x hx => hstays x (h.sent x hx)

/-- A request that was in the table is never one that will be. -/
theorem State.Entered.update {x : ℕ} {phase : Phase} (h : s.Entered r)
    (hphase : phase = .waiting ∨ phase = .over) :
    update s.requests x (some phase) r = some .waiting ∨
      update s.requests x (some phase) r = some .over := by
  by_cases hrx : r = x
  · subst hrx
    rw [update_self]
    exact hphase.imp (congrArg some) (congrArg some)
  · rw [update_of_ne hrx]
    exact h

/-- A request goes on to a later phase. -/
theorem TableInv.setPhase (h : TableInv s) {r : ℕ} {phase : Phase} (hr : s.requests r ≠ none)
    (hphase : phase = .waiting ∨ phase = .over) :
    TableInv { s with requests := update s.requests r (some phase) } := by
  refine h.advance (fun x hx => hx.update hphase) fun x hx => ?_
  have hxr : x ≠ r := by
    rintro rfl
    exact hr (h.fresh x hx)
  rw [update_of_ne hxr]
  exact h.fresh x hx

theorem TableInv.ne_nextRequestId (h : TableInv s) (hr : s.Entered r) : r ≠ s.nextRequestId := by
  rintro rfl
  rcases hr with hr | hr <;> cases (h.fresh _ (Nat.le_refl _)).symm.trans hr

/-- A request gets its number. -/
theorem TableInv.start (h : TableInv s) : TableInv { s with
    requests := update s.requests s.nextRequestId (some .starting)
    nextRequestId := s.nextRequestId + 1 } := by
  refine h.advance (fun x hx => ?_) fun x hx => ?_
  · rw [update_of_ne (h.ne_nextRequestId hx)]
    exact hx
  · rw [update_of_ne (Nat.ne_of_gt hx)]
    exact h.fresh x (Nat.le_of_succ_le hx)

/-- A request that enters the table has no result. -/
theorem TableInv.not_settled (h : TableInv s) (hr : ¬ s.Entered r) : ¬ s.Settled r := by
  rintro (hs | ⟨res, hs⟩ | hs)
  · exact hr (h.sent r hs)
  · exact hr (h.send r res hs).1
  · obtain ⟨⟨sender, res⟩, hs⟩ := Option.isSome_iff_exists.mp hs
    exact hr (h.failing r sender res hs).2.1

/-- A request enters the table. -/
theorem TableInv.register (h : TableInv s) (hr : s.requests r = some .starting) :
    TableInv { s with
      pending := s.pending.register r r
      requests := update s.requests r (some .waiting) } := by
  have hout : ¬ s.Entered r := by rintro (hw | hw) <;> simp [hr] at hw
  have h' : TableInv { s with requests := update s.requests r (some .waiting) } :=
    h.setPhase (by simp [hr]) (.inl rfl)
  refine { h' with stream := fun st x hx => ?_, sender := fun x sender hx => ?_ }
  · obtain ⟨hin, hann⟩ := h.stream st x hx
    obtain ⟨sender, hsender⟩ := Option.isSome_iff_exists.mp hin
    by_cases hxr : x = r
    · exact ⟨Option.isSome_iff_exists.mpr ⟨r, register_byRequest.mpr (.inl ⟨hxr, rfl⟩)⟩, hann⟩
    · exact ⟨Option.isSome_iff_exists.mpr ⟨sender,
        register_byRequest.mpr (.inr ⟨hxr, hsender⟩)⟩, hann⟩
  · rcases register_byRequest.mp hx with ⟨rfl, rfl⟩ | ⟨hxr, hx⟩
    · exact ⟨rfl, .inl (update_self ..), h.not_settled hout⟩
    · exact h'.sender x sender hx

/-- The table loses requests, and the streams that are open for them. -/
theorem TableInv.lose (h : TableInv s) {pending : DohH3Pending}
    (hrequest : ∀ r sender, pending.byRequest r = some sender → s.pending.byRequest r = some sender)
    (hstream : ∀ st r, pending.byStream st = some r →
      s.pending.byStream st = some r ∧ ((s.pending.byRequest r).isSome →
        (pending.byRequest r).isSome)) :
    TableInv { s with pending := pending } := by
  refine { h with stream := fun st r hr => ?_, sender := fun r sender hr => h.sender r sender (hrequest r sender hr) }
  obtain ⟨hst, hstays⟩ := hstream st r hr
  obtain ⟨hin, hann⟩ := h.stream st r hst
  exact ⟨hstays hin, hann⟩

/-- A request is cleared. -/
theorem TableInv.clear (h : TableInv s) (r : ℕ) :
    TableInv { s with pending := s.pending.clear r } := by
  refine h.lose (fun x sender hx => (clear_byRequest.mp hx).2) fun st x hx => ?_
  obtain ⟨hst, hxr⟩ := clear_byStream.mp hx
  refine ⟨hst, fun hin => ?_⟩
  obtain ⟨sender, hsender⟩ := Option.isSome_iff_exists.mp hin
  exact Option.isSome_iff_exists.mpr ⟨sender, clear_byRequest.mpr ⟨hxr, hsender⟩⟩

/-- A stream is noted for its request. -/
theorem TableInv.announce (h : TableInv s) (hr : (st, r) ∈ s.announced) :
    TableInv { s with pending := s.pending.announce st r } := by
  refine { h with stream := fun st' x hx => ?_, sender := fun x sender hx => ?_ }
  · rcases announce_byStream hx with hx | ⟨rfl, rfl, hin⟩
    · simpa using h.stream st' x hx
    · exact ⟨by simpa using hin, hr⟩
  · exact h.sender x sender (by simpa using hx)

/-- Two streams are open for two requests. -/
theorem TableInv.apart (h : TableInv s) {st' : ℕ} (hst : s.pending.byStream st = some r)
    (hst' : s.pending.byStream st' = some r) : st = st' :=
  congrArg Prod.fst (h.announced _ (h.stream st r hst).2 _ (h.stream st' r hst').2 rfl)

/-- A sender that has left the table is about to send a result. -/
theorem TableInv.handOver (h : TableInv s) (hentered : s.Entered r) (hno : ¬ s.Settled r)
    (hout : s.pending.byRequest r = none) (hloop : s.loop ≠ .ended) :
    TableInv { s with loop := .send r res } := by
  refine { h with
    sender := fun x sender hx => ?_
    send := fun x res' hx => ?_
    failing := fun x sender res' hx => absurd (h.failing x sender res' hx).2.2.2 hloop
    heard := fun st x hx => h.heard st x (.inr (hx.resolve_left nofun)) }
  · obtain ⟨hown, hin, hnot⟩ := h.sender x sender hx
    refine ⟨hown, hin, ?_⟩
    rintro (hs | ⟨res', hs⟩ | hs)
    · exact hnot (.inl hs)
    · obtain ⟨rfl, -⟩ := Loop.send.inj hs
      rw [hout] at hx
      cases hx
    · exact hnot (.inr (.inr hs))
  · obtain ⟨rfl, -⟩ := Loop.send.inj hx
    exact ⟨hentered, fun hs => hno (.inl hs)⟩

/-- The event loop turns to something that is neither an announcement nor a result. -/
theorem TableInv.setLoop (h : TableInv s) {loop : Loop} (hsend : ∀ r res, loop ≠ .send r res)
    (hannounce : ∀ st r, loop ≠ .announce st r) (hloop : s.loop ≠
      .ended) : TableInv { s with loop := loop } :=
  h.frame rfl rfl rfl rfl rfl rfl (fun r res hx => absurd hx (hsend r res)) (fun hx =>
    absurd hx hloop)
    fun st r hx => h.heard st r (.inr (hx.resolve_left (hannounce st r)))

/-- A stream is completed: its request leaves the table, and is about to be sent its result. -/
theorem TableInv.complete (h : TableInv s) {sender : Sender} (hloop : s.loop = .complete st res)
    (hst : s.pending.byStream st = some r) (hr : s.pending.byRequest r = some sender) :
    TableInv { s with
      pending := ⟨update s.pending.byRequest r none, update s.pending.byStream st none⟩
      loop := .send sender res } := by
  obtain ⟨rfl, hentered, hno⟩ := h.sender r sender hr
  refine TableInv.handOver (h.lose ?_ fun st' x hx => ?_) hentered hno (update_self ..)
    (by rw [hloop]; nofun)
  · exact fun x v hx => (update_none_eq_some.mp hx).2
  · obtain ⟨hne, hst'⟩ := update_none_eq_some.mp hx
    refine ⟨hst', fun hin' => ?_⟩
    obtain ⟨v, hv⟩ := Option.isSome_iff_exists.mp hin'
    refine Option.isSome_iff_exists.mpr ⟨v, update_none_eq_some.mpr ⟨?_, hv⟩⟩
    rintro rfl
    exact hne (h.apart hst' hst)

/-- A sender sends a result. -/
theorem TableInv.settle (h : TableInv s) {loop : Loop} {failing : ℕ → Option (Sender × Result)}
    (hr : s.Settled r) (hno : r ∉ s.sent.map Prod.fst) (hsend : ∀ x res, loop ≠ .send x res)
    (hannounce : ∀ st x, loop ≠ .announce st x) (hended : s.loop = .ended → loop = .ended)
    (hfailing : ∀ x p, failing x = some p → x ≠ r ∧ s.failing x = some p) :
    TableInv { s with sent := s.sent ++ [(r, res)], loop := loop, failing := failing } := by
  have hentered : s.Entered r := by
    by_contra hout
    exact h.not_settled hout hr
  have hmem : ∀ x, x ∈ (s.sent ++ [(r, res)]).map Prod.fst ↔ x ∈ s.sent.map Prod.fst ∨ x = r :=
    fun x => by simp
  refine { h with
    sender := fun x sender hx => ?_
    send := fun x res hx => absurd hx (hsend x res)
    failing := fun x sender res' hx => ?_
    sent := fun x hx => ?_
    once := ?_
    heard := fun st x hx => h.heard st x (.inr (hx.resolve_left (hannounce st x))) }
  · obtain ⟨hown, hin, hnot⟩ := h.sender x sender hx
    refine ⟨hown, hin, ?_⟩
    rintro (hs | ⟨_, hs⟩ | hs)
    · rcases (hmem x).mp hs with hs | rfl
      · exact hnot (.inl hs)
      · exact hnot hr
    · exact hsend x _ hs
    · obtain ⟨p, hp⟩ := Option.isSome_iff_exists.mp hs
      exact hnot (.inr (.inr (Option.isSome_iff_exists.mpr ⟨p, (hfailing x p hp).2⟩)))
  · obtain ⟨hne, hx⟩ := hfailing x _ hx
    obtain ⟨hown, hin, hnot, hloop⟩ := h.failing x sender res' hx
    exact ⟨hown, hin, fun hs => ((hmem x).mp hs).elim hnot hne, hended hloop⟩
  · rcases (hmem x).mp hx with hx | rfl
    · exact h.sent x hx
    · exact hentered
  · rw [List.map_append, List.nodup_append]
    refine ⟨h.once, List.nodup_singleton _, ?_⟩
    rintro x hx _ hy rfl
    obtain rfl := List.mem_singleton.mp hy
    exact hno hx

/-- All requests leave the table, to be failed. -/
theorem TableInv.failAll (h : TableInv s) {retryable : Bool} :
    TableInv { s with
      pending := .empty, loop := .ended
      failing := fun requestId => (s.pending.byRequest requestId).map fun sender =>
        (sender, .error ⟨retryable⟩) } where
  stream := nofun
  sender := nofun
  send := nofun
  failing r sender res hr := by
    obtain ⟨v, hv, hp⟩ := Option.map_eq_some_iff.mp hr
    obtain ⟨rfl, -⟩ := Prod.mk.inj hp
    obtain ⟨hown, hin, hno⟩ := h.sender r v hv
    exact ⟨hown, hin, fun hs => hno (.inl hs), rfl⟩
  sent := h.sent
  once := h.once
  fresh := h.fresh
  announced := h.announced
  heard st r hr := h.heard st r (.inr (hr.resolve_left nofun))

/-- The driver opens a stream for a request. -/
theorem TableInv.openStream (h : TableInv s) (hfresh : ∀ p ∈ s.announced, p.1 ≠ st ∧ p.2 ≠ r) :
    TableInv { s with
      events := s.events ++ [.newOutboundRequest st r]
      announced := (st, r) :: s.announced } := by
  refine { h with
    stream := fun st' x hx => (h.stream st' x hx).imp_right (List.mem_cons_of_mem _)
    announced := ?_
    heard := ?_ }
  · rintro p hp q hq hpq
    rcases List.mem_cons.mp hp with rfl | hp <;> rcases List.mem_cons.mp hq with rfl | hq
    · rfl
    · exact absurd hpq.symm (hfresh q hq).2
    · exact absurd hpq (hfresh p hp).2
    · exact h.announced p hp q hq hpq
  · rintro st' x (hx | hx)
    · exact List.mem_cons_of_mem _ (h.heard st' x (.inl hx))
    · rcases List.mem_append.mp hx with hx | hx
      · exact List.mem_cons_of_mem _ (h.heard st' x (.inr hx))
      · cases List.mem_singleton.mp hx
        exact List.mem_cons_self ..

/-- The driver emits another event. -/
theorem TableInv.emit (h : TableInv s) {event : ClientH3Event} {received : ℕ → Bool}
    (hne : ∀ st r, event ≠ .newOutboundRequest st r) :
    TableInv { s with events := s.events ++ [event], received := received } := by
  refine h.frame rfl rfl rfl rfl rfl rfl (fun _ _ => id) id ?_
  rintro st r (hx | hx)
  · exact h.heard st r (.inl hx)
  · rcases List.mem_append.mp hx with hx | hx
    · exact h.heard st r (.inr hx)
    · exact absurd (List.mem_singleton.mp hx).symm (hne st r)

/-- The event loop takes an event. -/
theorem TableInv.take (h : TableInv s) {event : ClientH3Event} (hloop : s.loop = .select)
    (hevent : ∀ st r, event = .newOutboundRequest st r →
      (st, r) ∈ s.announced) : TableInv (s.take event) := by
  have hnot : s.loop ≠ .ended := by rw [hloop]; nofun
  cases event with
  | newOutboundRequest st r =>
    refine h.frame rfl rfl rfl rfl rfl rfl nofun (fun hx => absurd hx hnot) ?_
    rintro st' x (hx | hx)
    · obtain ⟨rfl, rfl⟩ := Loop.announce.inj hx
      exact hevent st r rfl
    · exact h.heard st' x (.inr hx)
  | incomingHeaders st headers =>
    rw [State.take_incomingHeaders]
    split
    · exact h.setLoop nofun nofun hnot
    · exact h.frame rfl rfl rfl rfl rfl rfl (fun _ _ => id) id h.heard
  | connectionError _ | connectionShutdown _ | resetStream _ | streamClosed _ =>
    exact h.setLoop nofun nofun hnot
  | other => exact h

/-- A request or its guard does something. -/
theorem TableInv.aside (h : TableInv s) (ha : a.Quiet) (hs : h3Step s a = some s') :
    TableInv s' := by
  cases a with
  | start =>
    cases hs
    exact h.start
  | elsewhere =>
    cases hs
    exact h.advance (fun _ => id) fun x hx => h.fresh x (Nat.le_of_succ_le hx)
  | register r =>
    obtain ⟨hr, ⟨⟩⟩ := Option.ite_none_right_eq_some.mp hs
    exact h.register hr
  | cancel r =>
    dsimp only [h3Step] at hs
    split at hs
    · next hr =>
      cases hs
      exact h.setPhase (by simp [hr]) (.inr rfl)
    · next hr =>
      cases hs
      exact (h.setPhase (by simp [hr]) (.inr rfl)).frame rfl rfl rfl rfl rfl rfl
        (fun _ _ => id) id h.heard
    · cases hs
  | receive r =>
    obtain ⟨⟨hr, -⟩, ⟨⟩⟩ := Option.ite_none_right_eq_some.mp hs
    exact h.setPhase (by simp [hr]) (.inr rfl)
  | clear r =>
    obtain ⟨-, ⟨⟩⟩ := Option.ite_none_right_eq_some.mp hs
    exact (h.clear r).frame rfl rfl rfl rfl rfl rfl (fun _ _ => id) id h.heard
  | finish st =>
    cases hs
    exact h.frame rfl rfl rfl rfl rfl rfl (fun _ _ => id) id h.heard
  | hangUp =>
    cases hs
    exact h.frame rfl rfl rfl rfl rfl rfl (fun _ _ => id) id h.heard
  | emit | frame | event | body | loop | fail => exact ha.elim

/-- **Every step keeps the invariant of the table.** -/
theorem TableInv.step (h : TableInv s) (hc : AnnouncesOnce s a) (hs : h3Step s a = some s') :
    TableInv s' := by
  cases effect_of_step hs with
  | aside ha hs => exact h.aside ha hs
  | openStream => exact h.openStream hc
  | headers => exact h.emit nofun
  | emit hne => exact h.emit hne
  | frame => exact h.frame rfl rfl rfl rfl rfl rfl (fun _ _ => id) id h.heard
  | @take event events hloop hevents =>
    have hin : ∀ e ∈ events, e ∈ s.events := fun e he => hevents ▸ List.mem_cons_of_mem _ he
    have hpop : TableInv { s with events := events } :=
      h.frame rfl rfl rfl rfl rfl rfl (fun _ _ => id) id fun st r hx =>
        h.heard st r (hx.imp_right (hin _))
    refine hpop.take hloop fun st r he => h.heard st r (.inr ?_)
    rw [hevents, he]
    exact List.mem_cons_self ..
  | gone hloop => exact h.setLoop nofun nofun (by rw [hloop]; nofun)
  | last hloop | cut hloop =>
    exact h.frame rfl rfl rfl rfl rfl rfl nofun (fun hx => nomatch hloop.symm.trans hx)
      fun st r hx => h.heard st r (.inr (hx.resolve_left nofun))
  | more | skip => exact h.frame rfl rfl rfl rfl rfl rfl (fun _ _ => id) id h.heard
  | @announce st r hloop => exact (h.announce (h.heard st r (.inl hloop))).setLoop nofun nofun (by rw [hloop]; nofun)
  | complete hloop hst hr => exact h.complete hloop hst hr
  | late _ hst hr =>
    obtain ⟨sender, hsender⟩ := Option.isSome_iff_exists.mp (h.stream _ _ hst).1
    cases hr.symm.trans hsender
  | noStream hloop => exact h.setLoop nofun nofun (by rw [hloop]; nofun)
  | @send r res hloop =>
    have hnot : s.loop ≠ .ended := by rw [hloop]; nofun
    refine h.settle (.inr (.inl ⟨res, hloop⟩)) (h.send r res hloop).2 nofun nofun (fun hx =>
      absurd hx hnot) ?_
    exact fun x p hx => absurd (h.failing x p.1 p.2 hx).2.2.2 hnot
  | failAll => exact h.failAll
  | @fail r sender res hr =>
    obtain ⟨rfl, -, hno, hloop⟩ := h.failing r sender res hr
    refine h.settle (.inr (.inr (by simp [hr]))) hno ?_ ?_ id fun x p hx =>
      update_none_eq_some.mp hx
    · exact fun x res' hx => nomatch hloop.symm.trans hx
    · exact fun st x hx => nomatch hloop.symm.trans hx

/-! ### The results -/

/-- What the driver has opened after a step. -/
theorem mem_announced_of_step (hs : h3Step s a = some s') {p : ℕ × ℕ} :
    p ∈ s'.announced ↔ p ∈ s.announced ∨ a = .emit (.newOutboundRequest p.1 p.2) := by
  have hother : s'.announced = s.announced → a ≠ .emit (.newOutboundRequest p.1 p.2) →
      (p ∈ s'.announced ↔ p ∈ s.announced ∨ a = .emit (.newOutboundRequest p.1 p.2)) := by
    intro hsame hne
    rw [hsame, or_iff_left hne]
  cases effect_of_step hs with
  | aside ha hs => exact hother (aside_of_quiet ha hs).announced (by rintro rfl; exact ha)
  | openStream =>
    rw [List.mem_cons, or_comm]
    exact or_congr_right ⟨fun hp => by rw [hp], fun hp => by cases hp; rfl⟩
  | emit hne => exact hother rfl fun hp => hne _ _ (Action.emit.inj hp)
  | take =>
    refine hother ?_ nofun
    obtain ⟨_, _, htake⟩ := take_eq _ _
    rw [htake]
  | headers | frame | gone | last | cut | more | skip | announce | complete | late | noStream | send | failAll | fail =>
    exact hother rfl nofun

/-- A result that is about to be sent was about to be, or is one for the request of a stream. -/
theorem send_of_step (hs : h3Step s a = some s') (hsend : s'.loop = .send r res) :
    s.loop = .send r res ∨
    ∃ st x, s.loop = .complete st res ∧ s.pending.byStream st = some x ∧
      s.pending.byRequest x = some r := by
  cases effect_of_step hs with
  | aside ha hs => exact .inl ((aside_of_quiet ha hs).loop ▸ hsend)
  | @take event _ hloop =>
    cases event with
    | incomingHeaders =>
      rw [State.take_incomingHeaders] at hsend
      split at hsend
      · cases hsend
      · exact .inl hsend
    | other => exact .inl hsend
    | _ => cases hsend
  | complete hloop hst hr =>
    cases hsend
    exact .inr ⟨_, _, hloop, hst, hr⟩
  | gone | last | cut | announce | late | noStream | send | failAll => cases hsend
  | openStream | headers | emit | frame | more | skip | fail => exact .inl hsend

/-- A sender that is about to fail a request was about to, or takes an error. -/
theorem failing_of_step (hs : h3Step s a = some s') {p : Sender × Result}
    (hp : s'.failing r = some p) :
    s.failing r = some p ∨ ∃ failure, p.2 = .error failure := by
  cases effect_of_step hs with
  | aside ha hs => exact .inl ((aside_of_quiet ha hs).failing ▸ hp)
  | take =>
    obtain ⟨_, _, htake⟩ := take_eq _ _
    rw [htake] at hp
    exact .inl hp
  | failAll =>
    obtain ⟨_, -, rfl⟩ := Option.map_eq_some_iff.mp hp
    exact .inr ⟨_, rfl⟩
  | fail => exact .inl (update_none_eq_some.mp hp).2
  | openStream | headers | emit | frame | gone | last | cut | more | skip | announce | complete | late | noStream
  | send => exact .inl hp

/-- A result that was sent was about to be. -/
theorem sent_of_step (hs : h3Step s a = some s') (hsent : (r, res) ∈ s'.sent) :
    (r, res) ∈ s.sent ∨ s.loop = .send r res ∨ ∃ x, s.failing x = some (r, res) := by
  have hadd : ∀ {p}, (r, res) ∈ s.sent ++ [p] → (r, res) ∈ s.sent ∨ (r, res) = p :=
    fun h => (List.mem_append.mp h).imp_right List.mem_singleton.mp
  cases effect_of_step hs with
  | aside ha hs => exact .inl ((aside_of_quiet ha hs).sent ▸ hsent)
  | take =>
    obtain ⟨_, _, htake⟩ := take_eq _ _
    rw [htake] at hsent
    exact .inl hsent
  | send hloop =>
    refine (hadd hsent).imp_right fun hp => .inl ?_
    cases hp
    exact hloop
  | fail hr =>
    refine (hadd hsent).imp_right fun hp => .inr ?_
    cases hp
    exact ⟨_, hr⟩
  | openStream | headers | emit | frame | gone | last | cut | more | skip | announce | complete | late | noStream
  | failAll => exact .inl hsent

/-- A body is the one of a stream that the driver has opened for a request. -/
def Own (as : List Action) (s : State) (r : ℕ) (body : List UInt8) : Prop :=
  ∃ st, (st, r) ∈ s.announced ∧ bodyOf (framesOf as st) = some body

theorem Own.step {body : List UInt8} (h : Own as s r body) (hs : h3Step s a = some s') :
    Own (as ++ [a]) s' r body := by
  obtain ⟨st, hann, hbody⟩ := h
  refine ⟨st, (mem_announced_of_step hs).mpr (.inl hann), ?_⟩
  rw [framesOf_append]
  exact bodyOf_append _ hbody

/-- The invariant of the results. -/
structure ResultInv (as : List Action) (s : State) : Prop where
  /-- A body that is about to be sent is the request's own. -/
  send : ∀ r body, s.loop = .send r (.ok body) → Own as s r body
  /-- What is sent when all requests fail is an error. -/
  failing : ∀ r p, s.failing r = some p → ∃ failure, p.2 = .error failure
  /-- A body that was sent is the request's own. -/
  sent : ∀ r body, (r, .ok body) ∈ s.sent → Own as s r body

theorem ResultInv.step (h : ResultInv as s) (htable : TableInv s) (hbody : BodyInv (framesOf as) s)
    (hs : h3Step s a = some s') : ResultInv (as ++ [a]) s' where
  send r body hsend := by
    refine Own.step ?_ hs
    rcases send_of_step hs hsend with hsend | ⟨st, x, hloop, hst, hr⟩
    · exact h.send r body hsend
    · obtain ⟨rfl, -⟩ := htable.sender x r hr
      exact ⟨st, (htable.stream st r hst).2, hbody.complete st body hloop⟩
  failing r p hp := (failing_of_step hs hp).elim (h.failing r p) id
  sent r body hsent := by
    refine Own.step ?_ hs
    rcases sent_of_step hs hsent with hsent | hsend | ⟨x, hx⟩
    · exact h.sent r body hsent
    · exact h.send r body hsend
    · obtain ⟨failure, hfailure⟩ := h.failing x _ hx
      cases hfailure

/-- What holds of every run. -/
structure RunInv (as : List Action) (s : State) : Prop where
  table : TableInv s
  body : BodyInv (framesOf as) s
  result : ResultInv as s
  /-- The driver has opened a stream when it has said so. -/
  history : ∀ st r, (st, r) ∈ s.announced ↔ .emit (.newOutboundRequest st r) ∈ as

theorem runInv_init : RunInv [] h3Init := by
  refine ⟨tableInv_init, bodyInv_init, ?_, fun _ _ =>
    (iff_of_false List.not_mem_nil List.not_mem_nil)⟩
  exact ⟨fun _ _ h => (by cases h), fun _ _ h => (by cases h), fun _ _ h => (by cases h)⟩

theorem RunInv.step (h : RunInv as s) (hc : AnnouncesOnce s a) (hs : h3Step s a = some s') :
    RunInv (as ++ [a]) s' := by
  refine ⟨h.table.step hc hs, h.body.step hs, h.result.step h.table h.body hs, fun st r => ?_⟩
  rw [mem_announced_of_step hs, h.history, List.mem_append, List.mem_singleton, eq_comm (a := a)]

/-- **The invariants hold of every run** in which the driver opens one stream for a request. -/
theorem runInv_of_run (h : Run h3 AnnouncesOnce as s) : RunInv as s :=
  h.invariant runInv_init fun _ _ _ _ ih hc hs => ih.step hc hs

/-! ### Requests that have left the table -/

/-- A request that has left the table does not come back. -/
theorem State.Gone.step (h : s.Gone r) (htable : TableInv s) (hs : h3Step s a = some s') :
    s'.Gone r := by
  obtain ⟨hin, hout⟩ := h
  cases effect_of_step hs with
  | aside ha hs =>
    cases a with
    | start =>
      cases hs
      refine ⟨?_, hout⟩
      dsimp only [State.Entered]
      rw [update_of_ne (htable.ne_nextRequestId hin)]
      exact hin
    | register x =>
      obtain ⟨hx, ⟨⟩⟩ := Option.ite_none_right_eq_some.mp hs
      refine ⟨hin.update (.inl rfl), ?_⟩
      have hrx : r ≠ x := by
        rintro rfl
        rcases hin with hin | hin <;> cases hx.symm.trans hin
      exact (update_of_ne hrx ..).trans hout
    | cancel x =>
      dsimp only [h3Step] at hs
      split at hs <;> cases hs <;> exact ⟨hin.update (.inr rfl), hout⟩
    | receive x =>
      obtain ⟨-, ⟨⟩⟩ := Option.ite_none_right_eq_some.mp hs
      exact ⟨hin.update (.inr rfl), hout⟩
    | clear x =>
      obtain ⟨-, ⟨⟩⟩ := Option.ite_none_right_eq_some.mp hs
      exact ⟨hin, update_none_eq_none hout⟩
    | elsewhere | finish | hangUp =>
      cases hs
      exact ⟨hin, hout⟩
    | emit | frame | event | body | loop | fail => exact ha.elim
  | take =>
    obtain ⟨_, _, htake⟩ := take_eq _ _
    rw [htake]
    exact ⟨hin, hout⟩
  | announce => exact ⟨hin, announce_byRequest.symm ▸ hout⟩
  | complete | late => exact ⟨hin, update_none_eq_none hout⟩
  | failAll => exact ⟨hin, rfl⟩
  | openStream | headers | emit | frame | gone | last | cut | more | skip | noStream | send | fail => exact ⟨hin, hout⟩

/-- A request that is not in the table has no stream. -/
theorem TableInv.no_stream (h : TableInv s) (hr : s.pending.byRequest r = none) (st : ℕ) :
    s.pending.byStream st ≠ some r := by
  intro hst
  have hin := (h.stream st r hst).1
  rw [hr] at hin
  cases hin

/-- **The table is consistent in every run** in which the driver opens one stream for a request and
no stream twice, and what has left it stays away. -/
theorem table_consistent (h : Run h3 AnnouncesOnce as s) : Consistent as s ∧
    ∀ r, s.Gone r → ∀ bs s', h3.exec AnnouncesOnce s bs = some s' →
      s'.pending.byRequest r = none ∧ ∀ st, s'.pending.byStream st ≠ some r := by
  have hinv := runInv_of_run h
  refine ⟨⟨fun st r hst => (hinv.table.stream st r hst).1, fun st st' r => hinv.table.apart,
    hinv.table.once, ?_⟩, ?_⟩
  · intro r body hsent
    obtain ⟨st, hann, hbody⟩ := hinv.result.sent r body hsent
    refine ⟨st, (hinv.history st r).mp hann, fun st' hst' => ?_, hbody⟩
    exact congrArg Prod.fst (hinv.table.announced _ ((hinv.history st' r).mpr hst') _ hann rfl)
  · intro r hr bs s' hs
    have hgone : TableInv s' ∧ s'.Gone r :=
      exec_invariant (I := fun s => TableInv s ∧ s.Gone r)
        (fun s a s' hI hc hs => ⟨hI.1.step hc hs, hI.2.step hI.1 hs⟩) ⟨hinv.table, hr⟩ hs
    exact ⟨hgone.2.2, hgone.1.no_stream hgone.2.2⟩

/-- Two requests. One gets its body, the other is given up before its stream is open. -/
def givenUpAndServed : List Action :=
  [.start, .start, .register 0, .register 1, .emit (.newOutboundRequest 4 1), .event, .loop,
    .emit (.incomingHeaders 4 [⟨statusName, [0x32, 0x30, 0x30]⟩]), .frame 4 (.body [7] true),
      .event, .body 4, .loop,
    .cancel 0, .clear 0, .loop, .emit (.newOutboundRequest 0 0), .event, .loop]

theorem table_consistent_givenUpAndServed : ∃ s, s.sent = [(1, .ok [7])] ∧
    Consistent givenUpAndServed s ∧
    ∀ bs s', h3.exec AnnouncesOnce s bs = some s' →
      s'.pending.byRequest 0 = none ∧ ∀ st, s'.pending.byStream st ≠ some 0 := by
  have hrun : (h3.exec AnnouncesOnce h3.init givenUpAndServed).map
      (fun s => (s.sent, s.requests 0, s.pending.byRequest 0)) = some ([(1, .ok [7])],
        some .over, none) := by
    decide +kernel
  obtain ⟨s, hs, hstate⟩ := Option.map_eq_some_iff.mp hrun
  obtain ⟨hsent, hstate⟩ := Prod.mk.inj hstate
  obtain ⟨hover, hout⟩ := Prod.mk.inj hstate
  obtain ⟨hconsistent, haway⟩ := table_consistent (run_of_exec hs)
  exact ⟨s, hsent, hconsistent, haway 0 ⟨.inr hover, hout⟩⟩

end DohProxy.Upstream.H3
