import Mathlib.Data.List.Basic
import Mathlib.Tactic.Common

/-!
# Runs of a transition system

A system is an initial state and a step function: `step s a` is the state after the action
`a`, or `none` where `s` does not let the action happen. The parties of a system take their
steps in any order, so an invariant is one of all runs.

## What is proved

`Run.invariant` — what holds at first and is kept by every step holds in every run, and
`run_of_exec` — the actions of a concrete run are replayed.
-/

namespace DohProxy.Lib

/-- A transition system. -/
structure System (S A : Type) where
  /-- The state at first. -/
  init : S
  /-- What an action does to a state. -/
  step : S → A → Option S

namespace System

variable {S A : Type} {T : System S A} {cond : S → A → Prop} {as : List A} {s s' : S} {a : A}

/-- The actions taken so far and the state they led to, where every action met a condition on
the state before it. -/
inductive Run (T : System S A) (cond : S → A → Prop) : List A → S → Prop where
  /-- Nothing has happened. -/
  | init : Run T cond [] T.init
  /-- One more action is taken. -/
  | step {as : List A} {s s' : S} {a : A} : Run T cond as s → cond s a → T.step s a = some s' →
      Run T cond (as ++ [a]) s'

/-- No condition. -/
abbrev Always (_ : S) (_ : A) : Prop := True

/-- **The invariant rule**: what holds at first and is kept by every step holds in every run. -/
theorem Run.invariant {I : List A → S → Prop} (hinit : I [] T.init)
    (hstep : ∀ as s a s', I as s → cond s a → T.step s a = some s' →
      I (as ++ [a]) s') (h : Run T cond as s) :
    I as s := by
  induction h with
  | init => exact hinit
  | step _ hc hs ih => exact hstep _ _ _ _ ih hc hs

/-- The invariant rule for an invariant of the states. -/
theorem Run.stateInvariant {I : S → Prop} (hinit : I T.init)
    (hstep : ∀ s a s', I s → cond s a → T.step s a = some s' → I s') (h : Run T cond as s) : I s :=
  h.invariant (I := fun _ => I) hinit fun _ => hstep

section

variable [∀ s a, Decidable (cond s a)]

/-- The state after some actions, where all of them meet the condition. -/
def exec (T : System S A) (cond : S → A → Prop) [∀ s a, Decidable (cond s a)] :
    S → List A → Option S
  | s, [] => some s
  | s, a :: as => if cond s a then (T.step s a).bind fun s' => exec T cond s' as else none

theorem exec_cons (hc : cond s a) (hs : T.step s a = some s') :
    T.exec cond s (a :: as) = T.exec cond s' as := by
  rw [System.exec, if_pos hc, hs, Option.bind_some]

theorem Run.exec (h : Run T cond as s) : ∀ {bs : List A} {s' : S}, T.exec cond s bs = some s' →
    Run T cond (as ++ bs) s' := by
  intro bs
  induction bs generalizing as s with
  | nil =>
    intro s' hs
    rw [List.append_nil, ← Option.some.inj hs]
    exact h
  | cons b bs ih =>
    intro s' hs
    rw [System.exec] at hs
    split at hs
    · next hc =>
      obtain ⟨u, hu, hs⟩ := Option.bind_eq_some_iff.mp hs
      rw [List.append_cons]
      exact ih (h.step hc hu) hs
    · cases hs

/-- What every step keeps holds after any actions. -/
theorem exec_invariant {I : S → Prop} (hstep : ∀ s a s', I s → cond s a →
    T.step s a = some s' → I s') :
    ∀ {as : List A} {s s' : S}, I s → T.exec cond s as = some s' → I s' := by
  intro as
  induction as with
  | nil => exact fun hI hs => Option.some.inj hs ▸ hI
  | cons a as ih =>
    intro s s' hI hs
    rw [System.exec] at hs
    split at hs
    · next hc =>
      obtain ⟨u, hu, hs⟩ := Option.bind_eq_some_iff.mp hs
      exact ih (hstep s a u hI hc hu) hs
    · cases hs

theorem run_of_exec (h : T.exec cond T.init as = some s) : Run T cond as s := Run.init.exec h

end

end System

end DohProxy.Lib
