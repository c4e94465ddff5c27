import DohProxy.Lib.Runs
import Mathlib.Data.List.Chain
import Mathlib.Data.List.Perm.Basic

/-!
# How often a client is rebuilt

`can_rebuild` of `lib.rs` lets one of the requests that find a client broken rebuild it, and no other
for a second. It reads the clock, loads the time of the last rebuild and exchanges it for its own
reading, if it is still the same, and begins again with the load if it is not. The accesses of any
number of calls come in any order, and the clock may go back.

## What is proved

`granted_apart` — **at most one rebuild is granted per interval**: the readings of the calls that
return `true`, in the order of their exchanges, are a second apart.
-/

namespace DohProxy.Upstream.Rebuild

open Lib System

/-- `DOH_MIN_REBUILD_INTERVAL_MS`. -/
abbrev dohMinRebuildIntervalMs : ℕ := 1000

/-- Where a call of `can_rebuild` is. -/
inductive Call where
  /-- It is about to read the clock. -/
  | clock
  /-- It is about to load the time of the last rebuild. -/
  | load (now : UInt64)
  /-- It is about to exchange it. -/
  | exchange (now prev : UInt64)
  /-- It has returned. -/
  | returned (now : UInt64) (result : Bool)
  deriving DecidableEq

/-- The time of the last rebuild and the calls. -/
structure State where
  /-- `last_rebuild_ms`. -/
  lastRebuildMs : UInt64
  /-- The calls. -/
  calls : List Call
  /-- What the clock showed the calls that have exchanged the time, the first one first. -/
  granted : List UInt64
  deriving DecidableEq

/-- What can happen. -/
inductive Action where
  /-- A call begins. -/
  | call
  /-- A call reads the clock. -/
  | clock (i : ℕ) (now : UInt64)
  /-- A call does its next access. -/
  | run (i : ℕ)

/-- A call goes on. -/
def State.setCall (s : State) (i : ℕ) (call : Call) : State :=
  { s with calls := s.calls.set i call }

/-- The steps of `can_rebuild`. -/
def canRebuild (s : State) : Action → Option State
  | .call => some { s with calls := s.calls ++ [.clock] }
  | .clock i now =>
    match s.calls[i]? with
    | some .clock => some (s.setCall i (.load now))
    | _ => none
  | .run i =>
    match s.calls[i]? with
    | some (.load now) =>
      let prev := s.lastRebuildMs
      if prev ≠ 0 ∧ now.toNat - prev.toNat < dohMinRebuildIntervalMs then
        some (s.setCall i (.returned now false))
      else some (s.setCall i (.exchange now prev))
    | some (.exchange now prev) =>
      if s.lastRebuildMs = prev then
        some { s.setCall i (.returned now true) with
          lastRebuildMs := now, granted := s.granted ++ [now] }
      else some (s.setCall i (.load now))
    | _ => none

/-- Calls for a client that was last rebuilt at a time, or never. -/
def rebuilding (lastRebuildMs : UInt64) : System State Action :=
  ⟨⟨lastRebuildMs, [], []⟩, canRebuild⟩

/-- The clock shows a time, zero being none. -/
def Positive (_ : State) : Action → Prop
  | .clock _ now => 0 < now.toNat
  | _ => True

instance (s : State) : DecidablePred (Positive s)
  | .clock _ now => inferInstanceAs (Decidable (0 < now.toNat))
  | .call | .run _ => .isTrue trivial

/-- The reading of a call that has returned `true`. -/
def Call.granted : Call → Option UInt64
  | .returned now true => some now
  | _ => none

/-- The one comes an interval or more after the other. -/
def Apart (a b : UInt64) : Prop := a.toNat + dohMinRebuildIntervalMs ≤ b.toNat

instance : Trans Apart Apart Apart where
  trans h₁ h₂ := by
    unfold Apart at *
    omega

/-! ### The invariant -/

variable {s s' : State} {a : Action} {as : List Action} {i : ℕ} {call call' : Call}
  {lastRebuildMs : UInt64}

/-- What holds of a call where it is. -/
def Call.Ok : Call → Prop
  | .clock | .returned _ _ => True
  | .load now => 0 < now.toNat
  | .exchange now prev => 0 < now.toNat ∧ (prev = 0 ∨ Apart prev now)

/-- The invariant. -/
structure Inv (s : State) : Prop where
  /-- The rebuilds are apart. -/
  apart : s.granted.IsChain Apart
  /-- The last of them is the one whose time is kept. -/
  last : ∀ now ∈ s.granted.getLast?, s.lastRebuildMs = now ∧ 0 < now.toNat
  /-- The calls are in order. -/
  calls : ∀ call ∈ s.calls, call.Ok
  /-- The rebuilds are those of the calls that have returned `true`. -/
  granted : (s.calls.filterMap Call.granted).Perm s.granted

/-- A call that has not returned `true` goes on: this adds what it is granted now. -/
theorem perm_granted_set {calls : List Call} (hcall : calls[i]? = some call)
    (hnone : call.granted = none) (call' : Call) :
    ((calls.set i call').filterMap Call.granted).Perm
      (calls.filterMap Call.granted ++ call'.granted.toList) := by
  obtain ⟨hi, rfl⟩ := List.getElem?_eq_some_iff.mp hcall
  have hcalls : calls = calls.take i ++ calls[i] :: calls.drop (i + 1) := by
    rw [List.getElem_cons_drop, List.take_append_drop]
  rw [List.set_eq_take_append_cons_drop, if_pos hi]
  conv_rhs => rw [hcalls]
  simp only [List.filterMap_append, List.filterMap_cons, hnone]
  cases call'.granted with
  | none => simp
  | some now =>
    simp only [Option.toList_some, List.append_assoc]
    exact (List.perm_append_singleton now _).symm.append_left _

theorem Inv.init : Inv (rebuilding lastRebuildMs).init :=
  ⟨.nil, by simp [rebuilding], by simp [rebuilding], .nil⟩

/-- A call goes on without a rebuild. -/
theorem Inv.setCall (h : Inv s) (hcall : s.calls[i]? = some call) (hnone : call.granted = none)
    (hok : call'.Ok) (hnone' : call'.granted = none) : Inv (s.setCall i call') := by
  refine ⟨h.apart, h.last, fun c hc => ?_, ?_⟩
  · rcases List.mem_or_eq_of_mem_set hc with hc | rfl
    · exact h.calls c hc
    · exact hok
  · have hperm := perm_granted_set hcall hnone call'
    rw [hnone', Option.toList_none, List.append_nil] at hperm
    exact hperm.trans h.granted

/-- **A rebuild is granted** after the last one. -/
theorem Inv.grant (h : Inv s) {now prev : UInt64}
    (hcall : s.calls[i]? = some (.exchange now prev)) (hprev : s.lastRebuildMs = prev) :
    Inv { s.setCall i (.returned now true) with
      lastRebuildMs := now, granted := s.granted ++ [now] } := by
  obtain ⟨hpos, hapart⟩ : Call.Ok (.exchange now prev) := h.calls _ (List.mem_of_getElem? hcall)
  refine ⟨?_, fun b hb => ?_, fun c hc => ?_, ?_⟩
  · refine h.apart.append (List.isChain_singleton _) fun a ha b hb => ?_
    obtain rfl : now = b := by simpa using hb
    obtain ⟨rfl, hapos⟩ : prev = a ∧ 0 < a.toNat := hprev ▸ h.last a ha
    refine hapart.resolve_left ?_
    rintro rfl
    exact absurd hapos (by decide)
  · obtain rfl : now = b := by simpa using hb
    exact ⟨rfl, hpos⟩
  · rcases List.mem_or_eq_of_mem_set hc with hc | rfl
    · exact h.calls c hc
    · trivial
  · exact (perm_granted_set hcall rfl _).trans (h.granted.append_right [now])

/-- **Every step** keeps the invariant. -/
theorem Inv.step (h : Inv s) (hpos : Positive s a) (hs : canRebuild s a = some s') : Inv s' := by
  unfold canRebuild at hs
  split at hs
  · obtain rfl := Option.some.inj hs
    refine ⟨h.apart, h.last, fun c hc => ?_, ?_⟩
    · rcases List.mem_append.mp hc with hc | hc
      · exact h.calls c hc
      · rw [List.mem_singleton.mp hc]
        trivial
    · rw [List.filterMap_append, List.filterMap_cons_none rfl, List.filterMap_nil, List.append_nil]
      exact h.granted
  · split at hs
    · next hcall =>
      obtain rfl := Option.some.inj hs
      exact h.setCall hcall rfl hpos rfl
    · cases hs
  · split at hs
    · next now hcall =>
      have hnow : 0 < now.toNat := h.calls _ (List.mem_of_getElem? hcall)
      dsimp only at hs
      split at hs
      · obtain rfl := Option.some.inj hs
        exact h.setCall hcall rfl trivial rfl
      · next hold =>
        obtain rfl := Option.some.inj hs
        refine h.setCall hcall rfl ⟨hnow, ?_⟩ rfl
        by_cases hzero : s.lastRebuildMs = 0
        · exact .inl hzero
        · have hge : dohMinRebuildIntervalMs ≤ now.toNat - s.lastRebuildMs.toNat :=
            not_lt.mp (not_and.mp hold hzero)
          unfold dohMinRebuildIntervalMs at hge
          refine .inr ?_
          unfold Apart dohMinRebuildIntervalMs
          omega
    · next now prev hcall =>
      split at hs
      · next hprev =>
        obtain rfl := Option.some.inj hs
        exact h.grant hcall hprev
      · obtain rfl := Option.some.inj hs
        exact h.setCall hcall rfl (h.calls _ (List.mem_of_getElem? hcall)).1 rfl
    · cases hs

/-- **At most one rebuild is granted per interval**, whatever the order of the accesses and the
readings of the clock: those of the calls that return `true`, in the order of their exchanges, are an
interval or more apart. -/
theorem granted_apart (h : Run (rebuilding lastRebuildMs) Positive as s) :
    (s.calls.filterMap Call.granted).Perm s.granted ∧ s.granted.IsChain Apart ∧
      s.granted.Pairwise Apart := by
  have hinv : Inv s := h.stateInvariant .init fun _ _ _ hI => hI.step
  exact ⟨hinv.granted, hinv.apart, List.isChain_iff_pairwise.mp hinv.apart⟩

/-- Two calls load the same time. The first to exchange it is granted its rebuild, and the other one
begins again. -/
def race : List Action :=
  [.call, .call, .clock 0 5000, .clock 1 4900, .run 0, .run 1, .run 0, .run 1, .run 1]

theorem granted_apart_race :
    ∃ s, Run (rebuilding 3000) Positive race s ∧ s.granted = [5000] ∧
      (s.calls.filterMap Call.granted).Perm s.granted ∧ s.granted.IsChain Apart ∧
      s.granted.Pairwise Apart := by
  have hrun : (rebuilding 3000).exec Positive (rebuilding 3000).init race =
      some ⟨5000, [.returned 5000 true, .returned 4900 false], [5000]⟩ := by decide +kernel
  exact ⟨_, run_of_exec hrun, rfl, granted_apart (run_of_exec hrun)⟩

end DohProxy.Upstream.Rebuild
