import DohProxy.Lib.Bytes
import Mathlib.Data.List.Infix

/-!
# Streams in both directions

What comes in by a stream comes in pieces of any sizes, and of what goes out only so much may be
taken. A computation on a stream reads exactly so many elements, or writes all of some.

## What is proved

* `readExact_of_le` and `readExact_of_lt` — reading gives the next elements, **however they are cut
  into pieces**, and fails if there are not so many.
* `writeAll_of_takes` and `writeAll_of_not` — writing takes all elements, or the first ones of them.
* `unframe_eq_some` — a frame, which is some bytes after their number, is all that is read as one.
-/

namespace DohProxy.Lib

open Outcome

variable {α ε : Type}

/-! ### Pieces -/

/-- Reads so many elements of some pieces: these, and the pieces that are left. -/
def readPieces : List (List α) → ℕ → Option (List α × List (List α))
  | pieces, 0 => some ([], pieces)
  | [], _ + 1 => none
  | piece :: pieces, n + 1 =>
    if n + 1 < piece.length then some (piece.take (n + 1), piece.drop (n + 1) :: pieces)
    else (readPieces pieces (n + 1 - piece.length)).map fun (read, rest) => (piece ++ read, rest)

/-- The pieces have so many elements: the first ones are read. -/
theorem readPieces_of_le {pieces : List (List α)} {n : ℕ} (h : n ≤ pieces.flatten.length) :
    ∃ rest, readPieces pieces n = some (pieces.flatten.take n, rest) ∧
      rest.flatten = pieces.flatten.drop n := by
  induction pieces generalizing n with
  | nil =>
    obtain rfl := Nat.le_zero.mp h
    exact ⟨[], rfl, rfl⟩
  | cons piece pieces ih =>
    rw [List.flatten_cons, List.length_append] at h
    rw [List.flatten_cons]
    cases n with
    | zero => exact ⟨piece :: pieces, rfl, by simp⟩
    | succ n =>
      rw [readPieces]
      by_cases hlt : n + 1 < piece.length
      · rw [if_pos hlt, List.take_append_of_le_length (Nat.le_of_lt hlt),
          List.drop_append_of_le_length (Nat.le_of_lt hlt)]
        exact ⟨_, rfl, rfl⟩
      · obtain ⟨rest, hread, hrest⟩ := ih (n := n + 1 - piece.length) (by omega)
        have hle : piece.length ≤ n + 1 := Nat.le_of_not_lt hlt
        rw [if_neg hlt, hread, List.take_append, List.drop_append,
          List.take_of_length_le hle, List.drop_eq_nil_of_le hle]
        exact ⟨rest, rfl, hrest⟩

/-- They have not. -/
theorem readPieces_of_lt {pieces : List (List α)} {n : ℕ} (h : pieces.flatten.length < n) :
    readPieces pieces n = none := by
  induction pieces generalizing n with
  | nil =>
    obtain ⟨n, rfl⟩ := Nat.exists_eq_succ_of_ne_zero (Nat.ne_of_gt h)
    rfl
  | cons piece pieces ih =>
    rw [List.flatten_cons, List.length_append] at h
    obtain ⟨n, rfl⟩ := Nat.exists_eq_succ_of_ne_zero (show n ≠ 0 by omega)
    rw [readPieces, if_neg (by omega), ih (by omega), Option.map_none]

/-! ### Streams -/

/-- A computation with another error. -/
def Proc.mapErr {σ ε' : Type} (f : ε → ε') (m : Proc σ ε α) : Proc σ ε' α :=
  fun s => ((m s).1.mapErr f, (m s).2)

/-- Nothing comes after a computation that does not return. -/
theorem Proc.bind_of_ne_ok {σ β : Type} {m : Proc σ ε α} {s : σ} (h : ∀ a, (m s).1 ≠ .ok a)
    (f : α → Proc σ ε β) : (∀ b, ((m >>= f) s).1 ≠ .ok b) ∧ ((m >>= f) s).2 = (m s).2 := by
  rw [bind_apply]
  cases hm : (m s).1 with
  | ok a => exact absurd hm (h a)
  | err => exact ⟨nofun, rfl⟩
  | panic => exact ⟨nofun, rfl⟩
  | timeout => exact ⟨nofun, rfl⟩

/-- What comes after the last byte. -/
inductive Ending (ε : Type) where
  /-- The end of the stream. -/
  | closed
  /-- An error. -/
  | failed (e : ε)
  /-- Nothing, ever. -/
  | silent

/-- What comes of going on there, the end being an error as well. -/
def Ending.outcome {β : Type} (closed : ε) : Ending ε → Outcome ε β
  | .closed => .err closed
  | .failed e => .err e
  | .silent => .timeout

theorem Ending.mapErr_outcome_ne_ok {β ε' : Type} (closed : ε) (ending : Ending ε) (f : ε → ε')
    (b : β) : (ending.outcome closed).mapErr f ≠ .ok b := by
  cases ending <;> exact nofun

theorem Ending.outcome_ne_panic {β : Type} (closed : ε) (ending : Ending ε) :
    (ending.outcome closed : Outcome ε β) ≠ .panic := by
  cases ending <;> exact nofun

/-- A stream. -/
structure Duplex (α ε : Type) where
  /-- What comes in. -/
  incoming : List (List α)
  /-- What comes after it. -/
  ending : Ending ε
  /-- What has gone out. -/
  written : List α
  /-- How much is taken in all. Where there is no limit, everything is. -/
  limit : Option ℕ
  /-- What comes of writing more. -/
  full : Ending ε
  /-- What comes of waiting until it has all gone out. -/
  flushed : Awaited ε Unit

namespace Duplex

variable {s : Duplex α ε} {n : ℕ} {out : List α} (closed : ε)

/-- What comes in, in one piece. -/
def content (s : Duplex α ε) : List α := s.incoming.flatten

/-- So much more is taken. -/
def Takes (s : Duplex α ε) (n : ℕ) : Prop := ∀ limit ∈ s.limit, s.written.length + n ≤ limit

instance (s : Duplex α ε) (n : ℕ) : Decidable (s.Takes n) :=
  match h : s.limit with
  | none => .isTrue (by simp [Takes, h])
  | some limit => decidable_of_iff (s.written.length + n ≤ limit) (by simp [Takes, h])

/-- What is taken after some elements that are. -/
theorem takes_add (out : List α) :
    s.Takes (out.length + n) ↔
      s.Takes out.length ∧ { s with written := s.written ++ out }.Takes n := by
  unfold Takes
  constructor
  · intro h
    refine ⟨fun limit hlimit => ?_, fun limit hlimit => ?_⟩
    · have := h limit hlimit
      omega
    · have := h limit hlimit
      rw [List.length_append]
      omega
  · rintro ⟨-, h⟩ limit hlimit
    have := h limit hlimit
    rw [List.length_append] at this
    omega

/-- `read_exact`. -/
def readExact (closed : ε) (n : ℕ) : Proc (Duplex α ε) ε (List α) := fun s =>
  match readPieces s.incoming n with
  | some (read, rest) => (.ok read, { s with incoming := rest })
  | none => (s.ending.outcome closed, { s with incoming := [] })

/-- `write_all`. -/
def writeAll (closed : ε) (out : List α) : Proc (Duplex α ε) ε Unit := fun s =>
  if s.Takes out.length then (.ok (), { s with written := s.written ++ out })
  else (s.full.outcome closed,
    { s with written := s.written ++ out.take (s.limit.getD 0 - s.written.length) })

/-- `flush`. -/
def flush : Proc (Duplex α ε) ε Unit := Proc.reads fun s => awaited s.flushed

theorem readExact_of_le (h : n ≤ s.content.length) :
    ∃ rest, readExact closed n s = (.ok (s.content.take n), { s with incoming := rest }) ∧
      rest.flatten = s.content.drop n := by
  obtain ⟨rest, hread, hrest⟩ := readPieces_of_le h
  refine ⟨rest, ?_, hrest⟩
  rw [readExact, hread]
  rfl

theorem readExact_of_lt (h : s.content.length < n) :
    readExact closed n s = (s.ending.outcome closed, { s with incoming := [] }) := by
  rw [readExact, readPieces_of_lt h]

/-- Reading does not write. -/
theorem keeps_written_readExact :
    Proc.Keeps written (readExact closed n : Proc (Duplex α ε) ε (List α)) := fun s => by
  unfold readExact
  split <;> rfl

theorem writeAll_of_takes (h : s.Takes out.length) :
    writeAll closed out s = (.ok (), { s with written := s.written ++ out }) := if_pos h

theorem writeAll_of_not (h : ¬ s.Takes out.length) :
    (writeAll closed out s).1 = s.full.outcome closed ∧ ∃ sent, sent <+: out ∧
      (writeAll closed out s).2 = { s with written := s.written ++ sent } := by
  unfold writeAll
  rw [if_neg h]
  exact ⟨rfl, _, List.take_prefix _ _, rfl⟩

theorem readExact_ne_panic : (readExact closed n s).1 ≠ .panic := by
  unfold readExact
  split
  · exact nofun
  · exact Ending.outcome_ne_panic _ _

theorem writeAll_ne_panic : (writeAll closed out s).1 ≠ .panic := by
  unfold writeAll
  split
  · exact nofun
  · exact Ending.outcome_ne_panic _ _

end Duplex

/-! ### Frames -/

/-- Some bytes after their number. -/
def frame (bytes : List UInt8) : List UInt8 := u16Bytes (UInt16.ofNat bytes.length) ++ bytes

/-- Reads a frame: its bytes, and what is left. -/
def unframe (bs : List UInt8) : Option (List UInt8 × List UInt8) :=
  if 2 + (be16At bs 0).toNat ≤ bs.length then
    some ((bs.drop 2).take (be16At bs 0).toNat, bs.drop (2 + (be16At bs 0).toNat))
  else none

theorem unframe_frame {bytes : List UInt8} (h : bytes.length < 65536) (rest : List UInt8) :
    unframe (frame bytes ++ rest) = some (bytes, rest) := by
  have hn : (UInt16.ofNat bytes.length).toNat = bytes.length := by
    rw [UInt16.toNat_ofNat', Nat.mod_eq_of_lt h]
  unfold unframe frame
  rw [List.append_assoc, be16At_u16Bytes, hn, ← List.drop_drop, List.drop_left' (length_u16Bytes _),
    List.take_left, List.drop_left]
  exact if_pos (by simp only [List.length_append, length_u16Bytes]; omega)

/-- What is read as a frame is one. -/
theorem unframe_eq_some {bs bytes rest : List UInt8} :
    unframe bs = some (bytes, rest) ↔ bytes.length < 65536 ∧ bs = frame bytes ++ rest := by
  constructor
  · intro h
    unfold unframe at h
    split at h
    · next hlen =>
      simp only [Option.some.injEq, Prod.mk.injEq] at h
      obtain ⟨rfl, rfl⟩ := h
      have hn : ((bs.drop 2).take (be16At bs 0).toNat).length = (be16At bs 0).toNat := by
        rw [List.length_take, List.length_drop]
        omega
      have hbs : bs = u16Bytes (be16At bs 0) ++ bs.drop 2 :=
        drop_eq_u16Bytes (show 0 + 2 ≤ bs.length by omega)
      refine ⟨?_, ?_⟩
      · rw [hn]
        exact (be16At bs 0).toNat_lt
      · rw [frame, hn, UInt16.ofNat_toNat, List.append_assoc, ← drop_eq_take_append]
        exact hbs
    · cases h
  · rintro ⟨h, rfl⟩
    exact unframe_frame h rest

end DohProxy.Lib
