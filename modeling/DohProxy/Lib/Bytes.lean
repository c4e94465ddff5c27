import DohProxy.Lib.Outcome
import Mathlib.Data.List.GetD
import Mathlib.Tactic.IntervalCases

/-!
# Bytes and big-endian integers

A buffer is a list of bytes. Indexing and slicing panic outside the buffer, as in
the modelled language; `getD`, `take` and `drop` are what they compute inside it.
Integers of 16 and 32 bits are read and written big-endian.

## What is proved

* Reading what was written gives it back (`be16_hi_lo`, `be32_bytes`).
* A write changes the bytes it covers and no others, and not the length
  (`setU16_drop`, `setU16_take`, `length_setU16`, `be16At_setU16`).
* A read inside the buffer succeeds and depends on the suffix it starts at
  (`readU16_eq_ok`, `be16At_drop`).
-/

namespace DohProxy.Lib

open Outcome

variable {ε : Type}

/-! ### Integers as bytes -/

/-- The high byte of a 16-bit integer. -/
def hi (v : UInt16) : UInt8 := UInt8.ofNat (v.toNat / 256)

/-- The low byte of a 16-bit integer. -/
def lo (v : UInt16) : UInt8 := UInt8.ofNat (v.toNat % 256)

/-- The 16-bit integer of a high and a low byte. -/
def be16 (h l : UInt8) : UInt16 := UInt16.ofNat (h.toNat * 256 + l.toNat)

/-- A 16-bit integer, big-endian. -/
def u16Bytes (v : UInt16) : List UInt8 := [hi v, lo v]

@[simp] theorem length_u16Bytes (v : UInt16) : (u16Bytes v).length = 2 := rfl

@[simp] theorem be16_toNat (h l : UInt8) : (be16 h l).toNat = h.toNat * 256 + l.toNat := by
  have := h.toNat_lt; have := l.toNat_lt
  rw [be16, UInt16.toNat_ofNat']
  omega

@[simp] theorem be16_hi_lo (v : UInt16) : be16 (hi v) (lo v) = v := by
  have := v.toNat_lt
  apply UInt16.toNat_inj.mp
  rw [be16_toNat, hi, lo, UInt8.toNat_ofNat', UInt8.toNat_ofNat']
  omega

@[simp] theorem hi_be16 (h l : UInt8) : hi (be16 h l) = h := by
  have := h.toNat_lt; have := l.toNat_lt
  apply UInt8.toNat_inj.mp
  rw [hi, be16_toNat, UInt8.toNat_ofNat']
  omega

@[simp] theorem lo_be16 (h l : UInt8) : lo (be16 h l) = l := by
  have := h.toNat_lt; have := l.toNat_lt
  apply UInt8.toNat_inj.mp
  rw [lo, be16_toNat, UInt8.toNat_ofNat']
  omega

theorem u16Bytes_be16 (h l : UInt8) : u16Bytes (be16 h l) = [h, l] := by simp [u16Bytes]

/-- The 32-bit integer of two 16-bit halves. -/
def be32 (h l : UInt16) : UInt32 := UInt32.ofNat (h.toNat * 65536 + l.toNat)

/-- The halves of a 32-bit integer. -/
def hi16 (v : UInt32) : UInt16 := UInt16.ofNat (v.toNat / 65536)

/-- The low half of a 32-bit integer. -/
def lo16 (v : UInt32) : UInt16 := UInt16.ofNat (v.toNat % 65536)

/-- A 32-bit integer, big-endian. -/
def u32Bytes (v : UInt32) : List UInt8 := u16Bytes (hi16 v) ++ u16Bytes (lo16 v)

@[simp] theorem length_u32Bytes (v : UInt32) : (u32Bytes v).length = 4 := rfl

@[simp] theorem be32_toNat (h l : UInt16) : (be32 h l).toNat = h.toNat * 65536 + l.toNat := by
  have := h.toNat_lt; have := l.toNat_lt
  rw [be32, UInt32.toNat_ofNat']
  omega

@[simp] theorem be32_hi16_lo16 (v : UInt32) : be32 (hi16 v) (lo16 v) = v := by
  have := v.toNat_lt
  apply UInt32.toNat_inj.mp
  rw [be32_toNat, hi16, lo16, UInt16.toNat_ofNat', UInt16.toNat_ofNat']
  omega

@[simp] theorem hi16_be32 (h l : UInt16) : hi16 (be32 h l) = h := by
  have := h.toNat_lt; have := l.toNat_lt
  apply UInt16.toNat_inj.mp
  rw [hi16, be32_toNat, UInt16.toNat_ofNat']
  omega

@[simp] theorem lo16_be32 (h l : UInt16) : lo16 (be32 h l) = l := by
  have := h.toNat_lt; have := l.toNat_lt
  apply UInt16.toNat_inj.mp
  rw [lo16, be32_toNat, UInt16.toNat_ofNat']
  omega

/-! ### The two highest bits -/

theorem and_c0_eq_c0_iff (b : UInt8) : b &&& 0xc0 = 0xc0 ↔ 192 ≤ b.toNat := by
  rw [← UInt8.toNat_inj]
  have h : ∀ n < 256, n &&& 192 = 192 ↔ 192 ≤ n := by decide +kernel
  exact h b.toNat b.toNat_lt

theorem and_c0_eq_zero_iff (b : UInt8) : b &&& 0xc0 = 0 ↔ b.toNat < 64 := by
  rw [← UInt8.toNat_inj]
  have h : ∀ n < 256, n &&& 192 = 0 ↔ n < 64 := by decide +kernel
  exact h b.toNat b.toNat_lt

/-! ### Suffixes -/

/-- What is left of a buffer from an offset on. -/
theorem length_of_drop {bs l : List UInt8} {i : ℕ} (h : bs.drop i = l) (hl : l ≠ []) :
    bs.length = i + l.length := by
  subst h
  have : i < bs.length := by
    by_contra hlt
    exact hl (List.drop_eq_nil_of_le (by omega))
  rw [List.length_drop]; omega

theorem drop_of_drop {bs rest : List UInt8} {i : ℕ} (as : List UInt8) (h : bs.drop i = as ++ rest) :
    bs.drop (i + as.length) = rest := by
  rw [← List.drop_drop, h, List.drop_left]

theorem drop_succ_of_drop {bs rest : List UInt8} {i : ℕ} {b : UInt8} (h : bs.drop i = b :: rest) :
    bs.drop (i + 1) = rest :=
  drop_of_drop [b] h

theorem drop_of_getElem? {bs : List UInt8} {i : ℕ} {b : UInt8} (h : bs[i]? = some b) :
    bs.drop i = b :: bs.drop (i + 1) := by
  obtain ⟨hlt, rfl⟩ := List.getElem?_eq_some_iff.mp h
  exact List.drop_eq_getElem_cons hlt

/-- A piece of a buffer depends only on the buffer up to where the piece ends. -/
theorem drop_of_take_eq {bs bs' as : List UInt8} {i j : ℕ}
    (h : bs'.take j = bs.take j) (hij : i ≤ j)
    (hd : bs.drop i = as ++ bs.drop j) : bs'.drop i = as ++ bs'.drop j := by
  have hcut : ∀ l : List UInt8, l.drop i = (l.take j).drop i ++ l.drop j := by
    intro l
    rw [List.drop_take, ← Nat.add_sub_cancel' hij, ← List.drop_drop, Nat.add_sub_cancel_left,
      List.take_append_drop]
  rw [hcut bs, List.append_cancel_right_eq] at hd
  rw [hcut bs', h, hd]

/-! ### Reading -/

/-- The byte at `i`. -/
def index (bs : List UInt8) (i : ℕ) : Outcome ε UInt8 :=
  match bs[i]? with
  | some b => .ok b
  | none => .panic

/-- The bytes from `i` up to `j`. -/
def slice (bs : List UInt8) (i j : ℕ) : Outcome ε (List UInt8) :=
  if i ≤ j ∧ j ≤ bs.length then .ok ((bs.take j).drop i) else .panic

/-- The 16-bit integer at `i`, whatever is outside the buffer being `0`. -/
def be16At (bs : List UInt8) (i : ℕ) : UInt16 := be16 (bs.getD i 0) (bs.getD (i + 1) 0)

/-- The 32-bit integer at `i`, whatever is outside the buffer being `0`. -/
def be32At (bs : List UInt8) (i : ℕ) : UInt32 := be32 (be16At bs i) (be16At bs (i + 2))

/-- Read a 16-bit integer at `i`. -/
def readU16 (bs : List UInt8) (i : ℕ) : Outcome ε UInt16 :=
  if i + 2 ≤ bs.length then .ok (be16At bs i) else .panic

/-- Read a 32-bit integer at `i`. -/
def readU32 (bs : List UInt8) (i : ℕ) : Outcome ε UInt32 :=
  if i + 4 ≤ bs.length then .ok (be32At bs i) else .panic

@[simp] theorem index_eq_ok {bs : List UInt8} {i : ℕ} {b : UInt8} :
    (index bs i : Outcome ε UInt8) = .ok b ↔ bs[i]? = some b := by
  unfold index; cases bs[i]? <;> simp

theorem index_of_drop {bs rest : List UInt8} {i : ℕ} {b : UInt8} (h : bs.drop i = b :: rest) :
    (index bs i : Outcome ε UInt8) = .ok b := by
  rw [index_eq_ok, ← Nat.add_zero i, ← List.getElem?_drop, h, List.getElem?_cons_zero]

theorem index_pos {bs : List UInt8} {i : ℕ} (h : i < bs.length) :
    (index bs i : Outcome ε UInt8) = .ok bs[i] := by
  simp [h]

@[simp] theorem readU16_pos {bs : List UInt8} {i : ℕ} (h : i + 2 ≤ bs.length) :
    (readU16 bs i : Outcome ε UInt16) = .ok (be16At bs i) := if_pos h

@[simp] theorem readU16_neg {bs : List UInt8} {i : ℕ} (h : ¬ i + 2 ≤ bs.length) :
    (readU16 bs i : Outcome ε UInt16) = .panic := if_neg h

@[simp] theorem readU32_pos {bs : List UInt8} {i : ℕ} (h : i + 4 ≤ bs.length) :
    (readU32 bs i : Outcome ε UInt32) = .ok (be32At bs i) := if_pos h

@[simp] theorem slice_pos {bs : List UInt8} {i j : ℕ} (h : i ≤ j ∧ j ≤ bs.length) :
    (slice bs i j : Outcome ε (List UInt8)) = .ok ((bs.take j).drop i) := if_pos h

theorem slice_of_drop {bs as : List UInt8} {i j : ℕ} (hj : j = i + as.length) (hle : j ≤ bs.length)
    (hd : bs.drop i = as ++ bs.drop j) : (slice bs i j : Outcome ε (List UInt8)) = .ok as := by
  rw [slice_pos ⟨by omega, hle⟩, List.drop_take, hd, hj, Nat.add_sub_cancel_left, List.take_left]

theorem readU16_eq_ok {bs : List UInt8} {i : ℕ} {v : UInt16} :
    (readU16 bs i : Outcome ε UInt16) = .ok v ↔ i + 2 ≤ bs.length ∧ be16At bs i = v := by
  unfold readU16; split <;> simp_all

/-- A read depends only on the suffix it starts in. -/
theorem be16At_drop (bs : List UInt8) (n i : ℕ) : be16At (bs.drop n) i = be16At bs (n + i) := by
  simp [be16At, List.getD_eq_getElem?_getD, List.getElem?_drop, Nat.add_assoc]

/-- A read inside a prefix of the buffer. -/
theorem be16At_take (bs : List UInt8) {i n : ℕ} (h : i + 2 ≤ n) :
    be16At (bs.take n) i = be16At bs i := by
  simp only [be16At, List.getD_eq_getElem?_getD, List.getElem?_take_of_lt (show i < n by omega),
    List.getElem?_take_of_lt (show i + 1 < n by omega)]

theorem be16At_congr {bs bs' : List UInt8} {i n : ℕ} (h : bs'.take n = bs.take n) (hi : i + 2 ≤ n) :
    be16At bs' i = be16At bs i := by
  rw [← be16At_take bs' hi, h, be16At_take bs hi]

theorem index_congr {bs bs' : List UInt8} {i n : ℕ} (h : bs'.take n = bs.take n) (hi : i < n) :
    (index bs' i : Outcome ε UInt8) = index bs i := by
  unfold index
  rw [← List.getElem?_take_of_lt hi, h, List.getElem?_take_of_lt hi]

theorem le_length_iff_of_take_eq {bs bs' : List UInt8} {j n : ℕ} (h : bs'.take n = bs.take n)
    (hj : j ≤ n) : j ≤ bs'.length ↔ j ≤ bs.length := by
  have hlen := congrArg List.length h
  rw [List.length_take, List.length_take] at hlen
  omega

theorem slice_congr {bs bs' : List UInt8} {i j n : ℕ} (h : bs'.take n = bs.take n) (hj : j ≤ n) :
    (slice bs' i j : Outcome ε (List UInt8)) = slice bs i j := by
  have htake : bs'.take j = bs.take j := by
    rw [← Nat.min_eq_left hj, ← List.take_take, h, List.take_take]
  simp only [slice, htake, le_length_iff_of_take_eq h hj]

theorem readU16_congr {bs bs' : List UInt8} {i n : ℕ} (h : bs'.take n = bs.take n)
    (hi : i + 2 ≤ n) : (readU16 bs' i : Outcome ε UInt16) = readU16 bs i := by
  simp only [readU16, be16At_congr h hi, le_length_iff_of_take_eq h hi]

theorem be32At_drop (bs : List UInt8) (n i : ℕ) : be32At (bs.drop n) i = be32At bs (n + i) := by
  simp [be32At, be16At_drop, Nat.add_assoc]

theorem be16At_append_left {as bs : List UInt8} {i : ℕ} (h : i + 2 ≤ as.length) :
    be16At (as ++ bs) i = be16At as i := by
  unfold be16At
  rw [List.getD_append _ _ _ _ (by omega), List.getD_append _ _ _ _ (by omega)]

theorem be16At_append_right (as bs : List UInt8) (i : ℕ) :
    be16At (as ++ bs) (as.length + i) = be16At bs i := by
  rw [← be16At_drop, List.drop_left]

@[simp] theorem be16At_u16Bytes (v : UInt16) (bs : List UInt8) :
    be16At (u16Bytes v ++ bs) 0 = v := by
  simp [be16At, u16Bytes]

@[simp] theorem be32At_u32Bytes (v : UInt32) (bs : List UInt8) :
    be32At (u32Bytes v ++ bs) 0 = v := by
  simp [be32At, be16At, u32Bytes, u16Bytes]

/-- A buffer that starts with an integer's bytes reads as that integer. -/
theorem readU16_of_drop {bs rest : List UInt8} {i : ℕ} {v : UInt16}
    (h : bs.drop i = u16Bytes v ++ rest) :
    (readU16 bs i : Outcome ε UInt16) = .ok v := by
  have hlen := length_of_drop h (by simp [u16Bytes])
  rw [List.length_append, length_u16Bytes] at hlen
  rw [readU16_pos (by omega), ← Nat.add_zero i, ← be16At_drop, h, be16At_u16Bytes]

theorem readU32_of_drop {bs rest : List UInt8} {i : ℕ} {v : UInt32}
    (h : bs.drop i = u32Bytes v ++ rest) :
    (readU32 bs i : Outcome ε UInt32) = .ok v := by
  have hlen := length_of_drop h (by simp [u32Bytes, u16Bytes])
  rw [List.length_append, length_u32Bytes] at hlen
  rw [readU32_pos (by omega), ← Nat.add_zero i, ← be32At_drop, h, be32At_u32Bytes]

/-- What was read stands in the buffer. -/
theorem drop_eq_u16Bytes {bs : List UInt8} {i : ℕ} (h : i + 2 ≤ bs.length) :
    bs.drop i = u16Bytes (be16At bs i) ++ bs.drop (i + 2) := by
  rw [be16At, u16Bytes_be16, List.getD_eq_getElem _ _ (by omega),
    List.getD_eq_getElem _ _ (by omega),
    List.drop_eq_getElem_cons (show i < bs.length by omega),
    List.drop_eq_getElem_cons (show i + 1 < bs.length by omega)]
  rfl

theorem drop_eq_u32Bytes {bs : List UInt8} {i : ℕ} (h : i + 4 ≤ bs.length) :
    bs.drop i = u32Bytes (be32At bs i) ++ bs.drop (i + 4) := by
  rw [drop_eq_u16Bytes (show i + 2 ≤ bs.length by omega),
    drop_eq_u16Bytes (show i + 2 + 2 ≤ bs.length by omega), be32At, u32Bytes, hi16_be32, lo16_be32,
    List.append_assoc]

theorem drop_eq_take_append {bs : List UInt8} (i n : ℕ) :
    bs.drop i = (bs.drop i).take n ++ bs.drop (i + n) := by
  rw [← List.drop_drop, List.take_append_drop]

/-! ### Bytes that moved -/

/-- The bytes of `bs` from `i` up to `j` stand in `bs'` too, `d` places further on. -/
def SameAt (bs bs' : List UInt8) (d i j : ℕ) : Prop := ∀ x, i ≤ x → x < j → bs'[x + d]? = bs[x]?

section

variable {bs bs' : List UInt8} {d i j : ℕ}

theorem SameAt.mono (h : SameAt bs bs' d i j) {i' j' : ℕ} (hi : i ≤ i') (hj : j' ≤ j) :
    SameAt bs bs' d i' j' :=
  fun x hx hx' => h x (hi.trans hx) (hx'.trans_le hj)

/-- Bytes that moved one by one moved together. -/
theorem SameAt.take_drop {n : ℕ} (h : SameAt bs bs' d i (i + n)) :
    (bs'.drop (i + d)).take n = (bs.drop i).take n := by
  apply List.ext_getElem?
  intro k
  by_cases hk : k < n
  · rw [List.getElem?_take_of_lt hk, List.getElem?_take_of_lt hk, List.getElem?_drop,
      List.getElem?_drop, Nat.add_right_comm, h (i + k) (by omega) (by omega)]
  · rw [List.getElem?_take_eq_none (by omega), List.getElem?_take_eq_none (by omega)]

theorem SameAt.take (h : SameAt bs bs' 0 0 j) : bs'.take j = bs.take j :=
  SameAt.take_drop (d := 0) (i := 0) (h.mono (Nat.le_refl _) (Nat.zero_add j).le)

/-- A piece of a buffer that moved. -/
theorem drop_of_sameAt {as : List UInt8} (hd : bs.drop i = as ++ bs.drop (i + as.length))
    (h : SameAt bs bs' d i (i + as.length)) :
    bs'.drop (i + d) = as ++ bs'.drop (i + as.length + d) := by
  rw [drop_eq_take_append (i + d) as.length, h.take_drop, hd, List.take_left, Nat.add_right_comm]

end

/-! ### Writing -/

/-- The buffer with the 16-bit integer at `i` replaced. -/
def setU16 (bs : List UInt8) (i : ℕ) (v : UInt16) : List UInt8 :=
  (bs.set i (hi v)).set (i + 1) (lo v)

/-- Write a 16-bit integer at `i`. -/
def writeU16 (bs : List UInt8) (i : ℕ) (v : UInt16) : Outcome ε (List UInt8) :=
  if i + 2 ≤ bs.length then .ok (setU16 bs i v) else .panic

@[simp] theorem writeU16_pos {bs : List UInt8} {i : ℕ} (h : i + 2 ≤ bs.length) (v : UInt16) :
    (writeU16 bs i v : Outcome ε (List UInt8)) = .ok (setU16 bs i v) := if_pos h

@[simp] theorem length_setU16 (bs : List UInt8) (i : ℕ) (v : UInt16) :
    (setU16 bs i v).length = bs.length := by
  simp [setU16]

/-- A write does not reach what starts after it. -/
theorem drop_setU16 (bs : List UInt8) {i n : ℕ} (v : UInt16) (h : i + 2 ≤ n) :
    (setU16 bs i v).drop n = bs.drop n := by
  unfold setU16
  rw [List.drop_set_of_lt (by omega), List.drop_set_of_lt (by omega)]

/-- A write does not reach what ends before it. -/
theorem take_setU16 (bs : List UInt8) {i n : ℕ} (v : UInt16) (h : n ≤ i) :
    (setU16 bs i v).take n = bs.take n := by
  unfold setU16
  rw [List.take_set_of_le (by omega), List.take_set_of_le (by omega)]

@[simp] theorem be16At_setU16 {bs : List UInt8} {i : ℕ} (h : i + 2 ≤ bs.length) (v : UInt16) :
    be16At (setU16 bs i v) i = v := by
  unfold be16At setU16
  rw [List.getD_eq_getElem _ _ (by simp; omega),
    List.getD_eq_getElem _ _ (by simp; omega), List.getElem_set_self,
    List.getElem_set_ne (by omega), List.getElem_set_self, be16_hi_lo]

/-- A write in the middle of a buffer cut in three. -/
theorem setU16_append {as bs : List UInt8} {i : ℕ} {w v : UInt16} (h : i = as.length) :
    setU16 (as ++ (u16Bytes w ++ bs)) i v = as ++ (u16Bytes v ++ bs) := by
  subst h
  simp [setU16, u16Bytes]

/-- A write changes nothing where the integer stands already. -/
theorem setU16_eq_self_iff {bs : List UInt8} {i : ℕ} {v : UInt16} (h : i + 2 ≤ bs.length) :
    setU16 bs i v = bs ↔ be16At bs i = v := by
  constructor
  · intro hs
    rw [← be16At_setU16 h v, hs]
  · intro hv
    have hlen : i = (bs.take i).length := by rw [List.length_take]; omega
    have hb : bs.take i ++ (u16Bytes v ++ bs.drop (i + 2)) = bs := by
      rw [← hv, ← drop_eq_u16Bytes h, List.take_append_drop]
    conv_lhs => rw [← hb]
    rw [setU16_append hlen, hb]

/-- The buffer with the bytes from `i` on replaced. -/
def setBytes (bs : List UInt8) (i : ℕ) (as : List UInt8) : List UInt8 :=
  bs.take i ++ as ++ bs.drop (i + as.length)

/-- Write bytes at `i`. -/
def writeBytes (bs : List UInt8) (i : ℕ) (as : List UInt8) : Outcome ε (List UInt8) :=
  if i + as.length ≤ bs.length then .ok (setBytes bs i as) else .panic

@[simp] theorem writeBytes_pos {bs as : List UInt8} {i : ℕ} (h : i + as.length ≤ bs.length) :
    (writeBytes bs i as : Outcome ε (List UInt8)) = .ok (setBytes bs i as) := if_pos h

section

variable {bs as : List UInt8} {i : ℕ}

theorem length_setBytes (h : i + as.length ≤ bs.length) :
    (setBytes bs i as).length = bs.length := by
  simp only [setBytes, List.length_append, List.length_take, List.length_drop]
  omega

theorem take_setBytes (h : i ≤ bs.length) {n : ℕ} (hn : n ≤ i) :
    (setBytes bs i as).take n = bs.take n := by
  rw [setBytes, List.append_assoc, List.take_append_of_le_length
    (by rw [List.length_take]; omega), List.take_take,
    Nat.min_eq_left hn]

theorem drop_setBytes (h : i ≤ bs.length) {n : ℕ} (hn : i + as.length ≤ n) :
    (setBytes bs i as).drop n = bs.drop n := by
  obtain ⟨k, rfl⟩ := Nat.exists_eq_add_of_le hn
  have hlen : (bs.take i ++ as).length = i + as.length := by
    rw [List.length_append, List.length_take, Nat.min_eq_left h]
  rw [setBytes, ← hlen, ← List.drop_drop, List.drop_left, hlen, List.drop_drop]

/-- What was written stands there. -/
theorem slice_setBytes (h : i ≤ bs.length) : ((setBytes bs i as).drop i).take as.length = as := by
  rw [setBytes, List.append_assoc, List.drop_left' (by rw [List.length_take, Nat.min_eq_left h]),
    List.take_left]

end

end DohProxy.Lib
