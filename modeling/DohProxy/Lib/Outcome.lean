import Mathlib.Tactic.Common

/-!
# Computations that return, fail, panic or never end

A function that handles bytes from outside can end in four ways: it returns a
value, it returns an error, it panics (an index out of bounds, a subtraction
below zero, a failed assertion), or it does not end. `Outcome` keeps the four
apart, and `Proc` is the same for a function that also changes a buffer: the
buffer is there whatever the outcome, since an error does not undo a write.

A loop is written by recursion on fuel; running out of fuel is `timeout`. A loop
*ends* when some amount of fuel gives it another outcome.

## What is proved

* `Safe Q x` says that `x` neither panics nor runs out of fuel, and that the value
  it returns, if it returns one, satisfies `Q`; `Safe.bind` composes it, and
  `safe_ensure`, `safe_usub` are its rules for the primitives.
* `bind_eq_ok` takes a successful computation apart into its successful parts.
* `awaited` is what comes of waiting, perhaps in vain, and `settled` is its converse. It needs the
  computation not to panic, which `bind_ne_panic` and its like show.
* `Proc.bind_apply` runs a computation on a buffer step by step, and `Proc.bind_eq_ok`
  takes a successful one apart. `Proc.Keeps` is what a computation does not change.
-/

namespace DohProxy.Lib

/-- How a computation ends. -/
inductive Outcome (ε α : Type) where
  /-- It returns a value. -/
  | ok (a : α)
  /-- It returns an error. -/
  | err (e : ε)
  /-- It panics. -/
  | panic
  /-- Its fuel is used up. -/
  | timeout
  deriving DecidableEq

variable {ε σ α β : Type}

namespace Outcome

/-- Run `x`, and `f` on its value. -/
protected def bind : Outcome ε α → (α → Outcome ε β) → Outcome ε β
  | .ok a, f => f a
  | .err e, _ => .err e
  | .panic, _ => .panic
  | .timeout, _ => .timeout

instance : Monad (Outcome ε) where
  pure := .ok
  bind := Outcome.bind

@[simp] theorem ok_bind (a : α) (f : α → Outcome ε β) : (Outcome.ok a >>= f) = f a := rfl
@[simp] theorem err_bind (e : ε) (f : α → Outcome ε β) : (Outcome.err e >>= f) = .err e := rfl
@[simp] theorem panic_bind (f : α → Outcome ε β) : (Outcome.panic >>= f) = .panic := rfl
@[simp] theorem timeout_bind (f : α → Outcome ε β) : (Outcome.timeout >>= f) = .timeout := rfl
@[simp] theorem pure_eq_ok (a : α) : (pure a : Outcome ε α) = .ok a := rfl

theorem bind_eq_ok {x : Outcome ε α} {f : α → Outcome ε β} {b : β} :
    (x >>= f) = .ok b ↔ ∃ a, x = .ok a ∧ f a = .ok b := by
  cases x <;> simp

/-- The same computation with other errors. -/
def mapErr {ε' : Type} (f : ε → ε') : Outcome ε α → Outcome ε' α
  | .ok a => .ok a
  | .err e => .err (f e)
  | .panic => .panic
  | .timeout => .timeout

theorem mapErr_eq_ok {ε' : Type} {f : ε → ε'} {x : Outcome ε α} {a : α} :
    x.mapErr f = .ok a ↔ x = .ok a := by
  cases x <;> simp [mapErr]

/-- `.ok()`: the value, or nothing for an error. -/
def option {ε' : Type} : Outcome ε α → Outcome ε' (Option α)
  | .ok a => .ok (some a)
  | .err _ => .ok none
  | .panic => .panic
  | .timeout => .timeout

protected theorem bind_assoc {γ : Type} (x : Outcome ε α) (f : α →
  Outcome ε β) (g : β → Outcome ε γ) :
    x >>= f >>= g = x >>= fun a => f a >>= g := by
  cases x <;> rfl

/-- The computation returns a value or an error. -/
def Finished : Outcome ε α → Prop
  | .ok _ | .err _ => True
  | .panic | .timeout => False

instance : DecidablePred (Finished : Outcome ε α → Prop)
  | .ok _ | .err _ => .isTrue trivial
  | .panic | .timeout => .isFalse id

@[simp] theorem finished_ok (a : α) : (Outcome.ok a : Outcome ε α).Finished := trivial
@[simp] theorem finished_err (e : ε) : (Outcome.err e : Outcome ε α).Finished := trivial
@[simp] theorem not_finished_panic : ¬ (Outcome.panic : Outcome ε α).Finished := id
@[simp] theorem not_finished_timeout : ¬ (Outcome.timeout : Outcome ε α).Finished := id

/-- The computation neither panics nor runs out of fuel, and a value it returns
satisfies `Q`. -/
def Safe (Q : α → Prop) : Outcome ε α → Prop
  | .ok a => Q a
  | .err _ => True
  | .panic | .timeout => False

variable {P Q : α → Prop} {R : β → Prop}

@[simp] theorem safe_ok (a : α) : Safe Q (.ok a : Outcome ε α) ↔ Q a := Iff.rfl
@[simp] theorem safe_err (e : ε) : Safe Q (.err e : Outcome ε α) := trivial
@[simp] theorem not_safe_panic : ¬ Safe Q (.panic : Outcome ε α) := id
@[simp] theorem not_safe_timeout : ¬ Safe Q (.timeout : Outcome ε α) := id

theorem Safe.finished {x : Outcome ε α} (h : Safe Q x) : x.Finished := by
  cases x <;> trivial

theorem Safe.of_ok {x : Outcome ε α} {a : α} (h : Safe Q x) (hx : x = .ok a) : Q a := by
  subst hx; exact h

theorem Safe.mono {x : Outcome ε α} (h : Safe P x) (hPQ : ∀ a, P a → Q a) : Safe Q x := by
  cases x with
  | ok a => exact hPQ a h
  | err => trivial
  | panic => exact h.elim
  | timeout => exact h.elim

/-- What `x` guarantees is what `f` may assume. -/
theorem Safe.bind {x : Outcome ε α} {f : α → Outcome ε β} (h : Safe P x)
    (hf : ∀ a, x = .ok a → P a → Safe R (f a)) : Safe R (x >>= f) := by
  cases x with
  | ok a => exact hf a rfl h
  | err => trivial
  | panic => exact h.elim
  | timeout => exact h.elim

theorem safe_true_iff {x : Outcome ε α} : Safe (fun _ => True) x ↔ x.Finished := by
  cases x <;> simp

end Outcome

open Outcome

/-! ### The primitives -/

/-- Go on when `c` holds, else return the error. -/
def ensure (c : Prop) [Decidable c] (e : ε) : Outcome ε Unit := if c then .ok () else .err e

/-- Go on when `c` holds, else panic. -/
def assert (c : Prop) [Decidable c] : Outcome ε Unit := if c then .ok () else .panic

/-- Unsigned 16-bit addition, which panics above `0xffff`. -/
def uadd16 (a b : UInt16) : Outcome ε UInt16 :=
  if a.toNat + b.toNat < 65536 then .ok (a + b) else .panic

/-- Unsigned subtraction, which panics below zero. -/
def usub (a b : ℕ) : Outcome ε ℕ := if b ≤ a then .ok (a - b) else .panic

@[simp] theorem ensure_pos {c : Prop} [Decidable c] (h : c) (e : ε) :
    ensure c e = .ok () := if_pos h
@[simp] theorem ensure_true [Decidable True] (e : ε) : ensure True e = .ok () := if_pos trivial
@[simp] theorem ensure_neg {c : Prop} [Decidable c] (h : ¬ c) (e : ε) :
    ensure c e = .err e := if_neg h
@[simp] theorem assert_pos {c : Prop} [Decidable c] (h : c) :
    (assert c : Outcome ε Unit) = .ok () := if_pos h
@[simp] theorem usub_pos {a b : ℕ} (h : b ≤ a) : (usub a b : Outcome ε ℕ) = .ok (a - b) := if_pos h

@[simp] theorem ensure_eq_ok {c : Prop} [Decidable c] {e : ε} {x : Unit} :
    ensure c e = .ok x ↔ c := by
  unfold ensure; split <;> simp_all

@[simp] theorem usub_eq_ok {a b n : ℕ} : (usub a b : Outcome ε ℕ) = .ok n ↔ b ≤ a ∧ a - b = n := by
  unfold usub
  split
  · simp [*]
  · simp; omega

@[simp] theorem uadd16_eq_ok {a b n : UInt16} :
    (uadd16 a b : Outcome ε UInt16) = .ok n ↔ a.toNat + b.toNat < 65536 ∧ a + b = n := by
  unfold uadd16
  split
  · simp [*]
  · simp; omega

@[simp] theorem assert_eq_ok {c : Prop} [Decidable c] {x : Unit} :
    (assert c : Outcome ε Unit) = .ok x ↔ c := by
  unfold assert; split <;> simp_all

theorem safe_ensure {c : Prop} [Decidable c] {e : ε} : Safe (fun _ => c) (ensure c e) := by
  unfold ensure; split <;> simp_all

theorem safe_usub {a b : ℕ} (h : b ≤ a) : Safe (fun n => n = a - b) (usub a b : Outcome ε ℕ) := by
  simp [h]

/-! ### Waiting -/

/-- What is waited for: a value or an error, or nothing where it never comes. -/
abbrev Awaited (ε α : Type) := Option (Except ε α)

namespace Outcome

/-- A value or an error that is there. -/
def ofExcept : Except ε α → Outcome ε α
  | .ok a => .ok a
  | .error e => .err e

/-- What comes of waiting. -/
def awaited : Awaited ε α → Outcome ε α
  | some result => ofExcept result
  | none => .timeout

/-- What is waited for when a computation is that does not panic. -/
def settled : (x : Outcome ε α) → x ≠ .panic → Awaited ε α
  | .ok a, _ => some (.ok a)
  | .err e, _ => some (.error e)
  | .timeout, _ => none
  | .panic, h => (h rfl).elim

@[simp] theorem awaited_eq_ok {result : Awaited ε α} {a : α} :
    awaited result = .ok a ↔ result = some (.ok a) := by
  cases result with
  | none => exact ⟨nofun, nofun⟩
  | some result => cases result <;> simp [awaited, ofExcept]

theorem settled_eq_ok {x : Outcome ε α} {h : x ≠ .panic} {a : α} :
    x.settled h = some (.ok a) ↔ x = .ok a := by
  cases x with
  | ok | err | timeout => simp [settled]
  | panic => exact absurd rfl h

theorem ofExcept_ne_panic (result : Except ε α) : ofExcept result ≠ .panic := by
  cases result <;> exact nofun

theorem awaited_ne_panic (result : Awaited ε α) : awaited result ≠ .panic := by
  cases result with
  | none => exact nofun
  | some result => exact ofExcept_ne_panic result

theorem ensure_ne_panic (c : Prop) [Decidable c] (e : ε) : ensure c e ≠ .panic := by
  unfold ensure
  split <;> exact nofun

theorem mapErr_ne_panic {ε' : Type} {x : Outcome ε α} (h : x ≠ .panic) (f : ε → ε') :
    x.mapErr f ≠ .panic := by
  cases x with
  | panic => exact absurd rfl h
  | _ => exact nofun

theorem bind_ne_panic {x : Outcome ε α} {f : α → Outcome ε β} (h : x ≠ .panic)
    (hf : ∀ a, f a ≠ .panic) : (x >>= f) ≠ .panic := by
  cases x with
  | ok a => exact hf a
  | panic => exact absurd rfl h
  | _ => exact nofun

end Outcome

/-! ### Computations on a buffer -/

/-- A computation that reads and writes a buffer of type `σ`. The buffer comes back
whatever the outcome. -/
def Proc (σ ε α : Type) := σ → Outcome ε α × σ

namespace Proc

/-- The rest of a computation, after `x` left the buffer `s`. -/
def next (x : Outcome ε α) (f : α → Proc σ ε β) (s : σ) : Outcome ε β × σ :=
  match x with
  | .ok a => f a s
  | .err e => (.err e, s)
  | .panic => (.panic, s)
  | .timeout => (.timeout, s)

@[simp] theorem next_ok (a : α) (f : α → Proc σ ε β) (s : σ) : next (.ok a) f s = f a s := rfl
@[simp] theorem next_err (e : ε) (f : α → Proc σ ε β) (s : σ) :
    next (.err e) f s = (.err e, s) := rfl
@[simp] theorem next_panic (f : α → Proc σ ε β) (s : σ) : next .panic f s = (.panic, s) := rfl
@[simp] theorem next_timeout (f : α → Proc σ ε β) (s : σ) : next .timeout f s = (.timeout, s) := rfl

/-- A computation that leaves the buffer alone is an outcome. -/
theorem next_eq {x : Outcome ε α} {f : α → Proc σ ε β} {g : α → Outcome ε β} {s : σ}
    (h : ∀ a, f a s = (g a, s)) : next x f s = (x >>= g, s) := by
  cases x with
  | ok a => exact h a
  | err => rfl
  | panic => rfl
  | timeout => rfl

instance : Monad (Proc σ ε) where
  pure a := fun s => (.ok a, s)
  bind m f := fun s => next (m s).1 f (m s).2

/-- A computation that does not look at the buffer. -/
def lift (x : Outcome ε α) : Proc σ ε α := fun s => (x, s)

/-- Compute from the buffer without changing it. -/
def reads (f : σ → Outcome ε α) : Proc σ ε α := fun s => (f s, s)

/-- Replace the buffer by what `f` makes of it, or leave it if `f` does not return. -/
def modifies (f : σ → Outcome ε σ) : Proc σ ε Unit :=
  fun s => next (f s) (fun s' _ => (.ok (), s')) s

theorem bind_apply (m : Proc σ ε α) (f : α → Proc σ ε β) (s : σ) :
    (m >>= f) s = next (m s).1 f (m s).2 := rfl

theorem pure_apply (a : α) (s : σ) : (pure a : Proc σ ε α) s = (.ok a, s) := rfl

theorem lift_apply (x : Outcome ε α) (s : σ) : lift x s = (x, s) := rfl

theorem reads_apply (f : σ → Outcome ε α) (s : σ) : reads f s = (f s, s) := rfl

theorem modifies_apply (f : σ → Outcome ε σ) (s : σ) :
    modifies f s = next (f s) (fun s' _ => (.ok (), s')) s := rfl

section

variable {γ : Type} {g : σ → γ} {m : Proc σ ε α} {f : α → Proc σ ε β}

/-- What `g` reads from the buffer stays, however the computation ends. -/
def Keeps (g : σ → γ) (m : Proc σ ε α) : Prop := ∀ s, g (m s).2 = g s

theorem keeps_pure (g : σ → γ) (a : α) : Keeps g (pure a : Proc σ ε α) := fun _ => rfl

theorem keeps_lift (g : σ → γ) (x : Outcome ε α) : Keeps g (lift x) := fun _ => rfl

theorem keeps_reads (g : σ → γ) (h : σ → Outcome ε α) : Keeps g (reads h) := fun _ => rfl

/-- Where the rest of a computation keeps something, it is as the first part leaves it. -/
theorem bind_snd (m : Proc σ ε α) (hf : ∀ a, Keeps g (f a)) (s : σ) :
    g ((m >>= f) s).2 = g (m s).2 := by
  rw [bind_apply]
  cases (m s).1 with
  | ok a => exact hf a _
  | err => rfl
  | panic => rfl
  | timeout => rfl

theorem Keeps.bind (hm : Keeps g m) (hf : ∀ a, Keeps g (f a)) : Keeps g (m >>= f) :=
  fun s => (bind_snd m hf s).trans (hm s)

end

section

variable {f : α → Proc σ ε β} {s s₂ : σ} {b : β}

theorem bind_eq_ok {m : Proc σ ε α} :
    (m >>= f) s = (.ok b, s₂) ↔ ∃ a s₁, m s = (.ok a, s₁) ∧ f a s₁ = (.ok b, s₂) := by
  rw [bind_apply]
  obtain ⟨x, s₁⟩ := m s
  cases x with
  | ok a =>
    constructor
    · exact fun h => ⟨a, s₁, rfl, h⟩
    · rintro ⟨_, _, h, h'⟩
      cases h
      exact h'
  | err => simp
  | panic => simp
  | timeout => simp

/-- A sequence does not panic where its parts do not. -/
theorem bind_ne_panic {m : Proc σ ε α} (h : (m s).1 ≠ .panic) (hf : ∀ a s, (f a s).1 ≠ .panic) :
    ((m >>= f) s).1 ≠ .panic := by
  rw [bind_apply]
  cases hm : (m s).1 with
  | ok a => exact hf a _
  | panic => exact absurd hm h
  | _ => exact nofun

/-- A sequence is finished when its parts are. -/
theorem finished_bind {m : Proc σ ε α} (h : (m s).1.Finished)
    (hf : ∀ a, (m s).1 = .ok a → (f a (m s).2).1.Finished) : ((m >>= f) s).1.Finished := by
  rw [bind_apply]
  cases hm : (m s).1 with
  | ok a => exact hf a hm
  | err => trivial
  | panic => rw [hm] at h; exact h.elim
  | timeout => rw [hm] at h; exact h.elim

theorem lift_bind_eq_ok {x : Outcome ε α} :
    (lift x >>= f) s = (.ok b, s₂) ↔ ∃ a, x = .ok a ∧ f a s = (.ok b, s₂) := by
  rw [bind_eq_ok]
  simp only [lift_apply, Prod.mk.injEq]
  constructor
  · rintro ⟨a, _, ⟨hx, rfl⟩, h⟩
    exact ⟨a, hx, h⟩
  · rintro ⟨a, hx, h⟩
    exact ⟨a, s, ⟨hx, rfl⟩, h⟩

theorem reads_bind_eq_ok {g : σ → Outcome ε α} :
    (reads g >>= f) s = (.ok b, s₂) ↔ ∃ a, g s = .ok a ∧ f a s = (.ok b, s₂) :=
  lift_bind_eq_ok (x := g s)

theorem modifies_eq_ok {g : σ → Outcome ε σ} {u : Unit} :
    modifies g s = (.ok u, s₂) ↔ g s = .ok s₂ := by
  rw [modifies_apply]
  cases g s <;> simp [next, eq_comm]

theorem modifies_bind_eq_ok {g : σ → Outcome ε σ} {f : Unit → Proc σ ε β} :
    (modifies g >>= f) s = (.ok b, s₂) ↔ ∃ s₁, g s = .ok s₁ ∧ f () s₁ = (.ok b, s₂) := by
  simp only [bind_eq_ok, modifies_eq_ok]
  exact ⟨fun ⟨_, s₁, h, h'⟩ => ⟨s₁, h, h'⟩, fun ⟨s₁, h, h'⟩ => ⟨(), s₁, h, h'⟩⟩

end

end Proc

end DohProxy.Lib
