import Mathlib.Tactic.Common

/-!
# Reading UTF-8 with replacement

Bytes as text: every piece that is no UTF-8 becomes U+FFFD, a piece being the longest
beginning of a character's encoding, or a single byte.

## What is proved

`fromUtf8Lossy_utf8` — text in UTF-8 is read as it is.
-/

namespace DohProxy.Lib

/-- A byte that goes on with a character. -/
def isContinuation (b : UInt8) : Bool := 0x80 ≤ b && b ≤ 0xbf

/-- The second bytes that may follow a first byte of a longer character: some would encode
the character longer than needed, a surrogate, or a code point that does not exist. -/
def isSecond (first second : UInt8) : Bool :=
  if first = 0xe0 then 0xa0 ≤ second && second ≤ 0xbf
  else if first = 0xed then 0x80 ≤ second && second ≤ 0x9f
  else if first = 0xf0 then 0x90 ≤ second && second ≤ 0xbf
  else if first = 0xf4 then 0x80 ≤ second && second ≤ 0x8f
  else isContinuation second

/-- The number of bytes of the character that starts with `first`, if any does. -/
def utf8Width (first : UInt8) : ℕ :=
  if first < 0x80 then 1
  else if 0xc2 ≤ first && first ≤ 0xdf then 2
  else if 0xe0 ≤ first && first ≤ 0xef then 3
  else if 0xf0 ≤ first && first ≤ 0xf4 then 4
  else 0

/-- The bits a continuation byte adds. -/
def continueWith (acc : ℕ) (b : UInt8) : ℕ := acc * 64 + b.toNat % 64

/-- The character or the invalid piece that `first` starts, and the bytes after it. -/
def decodeChar (first : UInt8) (rest : List UInt8) : Char × List UInt8 :=
  match utf8Width first, rest with
  | 1, rest => (Char.ofNat first.toNat, rest)
  | 2, second :: rest =>
    if isSecond first second then (Char.ofNat (continueWith (first.toNat % 32) second), rest)
    else (Char.ofNat 0xfffd, second :: rest)
  | 3, second :: rest =>
    if isSecond first second then
      match rest with
      | third :: rest =>
        if isContinuation third then
          (Char.ofNat (continueWith (continueWith (first.toNat % 16) second) third), rest)
        else (Char.ofNat 0xfffd, third :: rest)
      | [] => (Char.ofNat 0xfffd, [])
    else (Char.ofNat 0xfffd, second :: rest)
  | 4, second :: rest =>
    if isSecond first second then
      match rest with
      | third :: rest =>
        if isContinuation third then
          match rest with
          | fourth :: rest =>
            if isContinuation fourth then
              (Char.ofNat (continueWith (continueWith
                (continueWith (first.toNat % 8) second) third) fourth), rest)
            else (Char.ofNat 0xfffd, fourth :: rest)
          | [] => (Char.ofNat 0xfffd, [])
        else (Char.ofNat 0xfffd, third :: rest)
      | [] => (Char.ofNat 0xfffd, [])
    else (Char.ofNat 0xfffd, second :: rest)
  | _, rest => (Char.ofNat 0xfffd, rest)

/-- The characters of the bytes, of which there are at most `fuel`. -/
def decodeChars : ℕ → List UInt8 → List Char
  | 0, _ => []
  | _ + 1, [] => []
  | fuel + 1, first :: rest =>
    let (c, rest) := decodeChar first rest
    c :: decodeChars fuel rest

/-- The text of the bytes. -/
def fromUtf8Lossy (bs : List UInt8) : String := String.ofList (decodeChars bs.length bs)

/-- A character takes at least its first byte. -/
theorem length_decodeChar_le (first : UInt8) (rest : List UInt8) :
    (decodeChar first rest).2.length ≤ rest.length := by
  unfold decodeChar
  repeat' split
  all_goals simp only [List.length_cons, List.length_nil]; omega

/-- There is fuel for every character. -/
theorem decodeChars_congr : ∀ {fuel fuel' : ℕ} {bs : List UInt8}, bs.length ≤ fuel →
    bs.length ≤ fuel' →
    decodeChars fuel bs = decodeChars fuel' bs := by
  intro fuel
  induction fuel with
  | zero =>
    intro fuel' bs h _
    rw [List.length_eq_zero_iff.mp (Nat.le_zero.mp h)]
    cases fuel' <;> rfl
  | succ fuel ih =>
    intro fuel' bs h h'
    cases bs with
    | nil => cases fuel' <;> rfl
    | cons first rest =>
      rw [List.length_cons] at h h'
      obtain ⟨fuel', rfl⟩ := Nat.exists_eq_succ_of_ne_zero (show fuel' ≠ 0 by omega)
      have := length_decodeChar_le first rest
      rw [decodeChars, decodeChars]
      generalize decodeChar first rest = piece at this ⊢
      obtain ⟨c, behind⟩ := piece
      exact congrArg (c :: ·) (ih (Nat.le_trans this (by omega)) (Nat.le_trans this (by omega)))

/-- One character after the other is read. -/
theorem decodeChars_cons (first : UInt8) (rest : List UInt8) :
    decodeChars (first :: rest).length (first :: rest) = (decodeChar first rest).1 ::
      decodeChars (decodeChar first rest).2.length (decodeChar first rest).2 := by
  rw [List.length_cons, decodeChars]
  exact congrArg _ (decodeChars_congr (length_decodeChar_le first rest) (Nat.le_refl _))

/-- A byte or more make a character or more. -/
theorem fromUtf8Lossy_ne_empty {bs : List UInt8} (h : bs ≠ []) : fromUtf8Lossy bs ≠ "" := by
  obtain ⟨first, rest, rfl⟩ := List.exists_cons_of_ne_nil h
  rw [fromUtf8Lossy, List.length_cons, decodeChars, ← String.ofList_nil]
  exact fun heq => List.cons_ne_nil _ _ (String.ofList_injective heq)

/-- A byte below `0x80` stands for itself. -/
theorem toNat_of_mem_utf8EncodeChar {c : Char} {b : UInt8} (h : b ∈ String.utf8EncodeChar c)
    (hb : b.toNat < 128) : c.toNat = b.toNat := by
  have hhigh : ∀ k m : ℕ, 128 ≤ m → m < 256 → b = UInt8.ofNat (k + m) → k + m < 256 → False := by
    rintro k m hm - rfl hlt
    rw [UInt8.toNat_ofNat_of_lt' hlt] at hb
    omega
  simp only [String.utf8EncodeChar] at h
  split at h
  · next hone =>
    have hsize : c.val.toNat < UInt8.size := Nat.lt_of_le_of_lt hone (by decide)
    rw [List.mem_singleton.mp h, UInt8.toNat_ofNat_of_lt' hsize]
    rfl
  · exfalso
    split at h
    · simp only [List.mem_cons, List.not_mem_nil, or_false] at h
      rcases h with h | h <;> exact hhigh _ _ (by omega) (by omega) h (by omega)
    · split at h
      · simp only [List.mem_cons, List.not_mem_nil, or_false] at h
        rcases h with h | h | h <;> exact hhigh _ _ (by omega) (by omega) h (by omega)
      · simp only [List.mem_cons, List.not_mem_nil, or_false] at h
        rcases h with h | h | h | h <;> exact hhigh _ _ (by omega) (by omega) h (by omega)

/-! ### Text that is UTF-8 -/

section

variable {v k : ℕ}

/-- A byte that goes on with a character. -/
theorem isContinuation_ofNat (v : ℕ) : isContinuation (UInt8.ofNat (v % 64 + 0x80)) = true := by
  have h : (UInt8.ofNat (v % 64 + 0x80)).toNat = v % 64 + 0x80 :=
    UInt8.toNat_ofNat_of_lt' (show _ < 256 by omega)
  simp only [isContinuation, Bool.and_eq_true, decide_eq_true_iff, UInt8.le_iff_toNat_le, h,
    UInt8.reduceToNat]
  omega

/-- It adds its bits. -/
theorem continueWith_ofNat (acc v : ℕ) :
    continueWith acc (UInt8.ofNat (v % 64 + 0x80)) = acc * 64 + v % 64 := by
  rw [continueWith, UInt8.toNat_ofNat_of_lt' (show v % 64 + 0x80 < 256 by omega)]
  omega

theorem utf8Width_ofNat (h : v < 256) : utf8Width (UInt8.ofNat v) =
    if v < 0x80 then 1
    else if 0xc2 ≤ v ∧ v ≤ 0xdf then 2
    else if 0xe0 ≤ v ∧ v ≤ 0xef then 3
    else if 0xf0 ≤ v ∧ v ≤ 0xf4 then 4
    else 0 := by
  simp only [utf8Width, UInt8.le_iff_toNat_le, UInt8.lt_iff_toNat_lt,
    UInt8.toNat_ofNat_of_lt' (show v < UInt8.size from h), UInt8.reduceToNat, Bool.and_eq_true,
    decide_eq_true_iff]

/-- The second byte of a character that is not encoded longer than needed, no surrogate and
no code point that does not exist. -/
theorem isSecond_ofNat (m : ℕ) (hk : k < 256)
    (h3 : k = 0xe0 → 0x20 ≤ m % 64) (h4 : k = 0xed → m % 64 < 0x20)
    (h5 : k = 0xf0 → 0x10 ≤ m % 64) (h6 : k = 0xf4 → m % 64 < 0x10) :
    isSecond (UInt8.ofNat k) (UInt8.ofNat (m % 64 + 0x80)) = true := by
  have hcont := isContinuation_ofNat m
  have hm : (UInt8.ofNat (m % 64 + 0x80)).toNat = m % 64 + 0x80 :=
    UInt8.toNat_ofNat_of_lt' (show _ < 256 by omega)
  simp only [isSecond, ← UInt8.toNat_inj, UInt8.toNat_ofNat_of_lt' (show k < UInt8.size from hk),
    UInt8.reduceToNat, UInt8.le_iff_toNat_le, hm]
  split
  · next h => have := h3 h; simp; omega
  · split
    · next h => have := h4 h; simp; omega
    · split
      · next h => have := h5 h; simp; omega
      · split
        · next h => have := h6 h; simp; omega
        · exact hcont

end

/-- **The character at the front of its own encoding is read.** -/
theorem decodeChar_utf8EncodeChar (c : Char) (rest : List UInt8) :
    ∃ first behind, String.utf8EncodeChar c = first :: behind ∧
      decodeChar first (behind ++ rest) = (c, rest) := by
  have hvalid : c.val.toNat < 0xd800 ∨ 0xdfff < c.val.toNat ∧ c.val.toNat < 0x110000 := c.valid
  have hc : Char.ofNat c.val.toNat = c := Char.ofNat_toNat c
  simp only [String.utf8EncodeChar]
  generalize c.val.toNat = v at hvalid hc
  split
  · next hone =>
    refine ⟨_, _, rfl, ?_⟩
    have hw := utf8Width_ofNat (show v < 256 by omega)
    rw [if_pos (show v < 0x80 by omega)] at hw
    simp only [decodeChar, hw, UInt8.toNat_ofNat_of_lt' (show v < UInt8.size by
      simp only [UInt8.size]; omega), hc, List.nil_append]
  · next hone =>
    split
    · next htwo =>
      refine ⟨_, _, rfl, ?_⟩
      have hw := utf8Width_ofNat (show v / 64 % 32 + 0xc0 < 256 by omega)
      rw [if_neg (by omega), if_pos (by omega)] at hw
      have hs := isSecond_ofNat v (show v / 64 % 32 + 0xc0 < 256 by omega)
        (by omega) (by omega) (by omega) (by omega)
      simp only [List.cons_append, List.nil_append, decodeChar, hw, hs, if_true,
        continueWith_ofNat, UInt8.toNat_ofNat_of_lt' (show v / 64 % 32 + 0xc0 < UInt8.size by
          simp only [UInt8.size]; omega)]
      rw [show (v / 64 % 32 + 0xc0) % 32 * 64 + v % 64 = v by omega, hc]
    · next htwo =>
      split
      · next hthree =>
        refine ⟨_, _, rfl, ?_⟩
        have hw := utf8Width_ofNat (show v / 4096 % 16 + 0xe0 < 256 by omega)
        rw [if_neg (by omega), if_neg (by omega), if_pos (by omega)] at hw
        have hs := isSecond_ofNat (v / 64) (show v / 4096 % 16 + 0xe0 < 256 by omega)
          (by omega) (by omega) (by omega) (by omega)
        simp only [List.cons_append, List.nil_append, decodeChar, hw, hs, if_true,
          continueWith_ofNat, isContinuation_ofNat,
          UInt8.toNat_ofNat_of_lt' (show v / 4096 % 16 + 0xe0 < UInt8.size by
            simp only [UInt8.size]; omega)]
        rw [show ((v / 4096 % 16 + 0xe0) % 16 * 64 + v / 64 % 64) * 64 + v % 64 = v by omega, hc]
      · next hthree =>
        refine ⟨_, _, rfl, ?_⟩
        have hw := utf8Width_ofNat (show v / 262144 % 8 + 0xf0 < 256 by omega)
        rw [if_neg (by omega), if_neg (by omega), if_neg (by omega), if_pos (by omega)] at hw
        have hs := isSecond_ofNat (v / 4096) (show v / 262144 % 8 + 0xf0 < 256 by omega)
          (by omega) (by omega) (by omega) (by omega)
        simp only [List.cons_append, List.nil_append, decodeChar, hw, hs, if_true,
          continueWith_ofNat, isContinuation_ofNat,
          UInt8.toNat_ofNat_of_lt' (show v / 262144 % 8 + 0xf0 < UInt8.size by
            simp only [UInt8.size]; omega)]
        rw [show (((v / 262144 % 8 + 0xf0) % 8 * 64 + v / 4096 % 64) * 64 + v / 64 % 64) * 64 +
          v % 64 = v by omega, hc]

/-- The bytes of a text. -/
def utf8 (text : List Char) : List UInt8 := text.flatMap String.utf8EncodeChar

theorem utf8_cons (c : Char) (text : List Char) :
    utf8 (c :: text) = String.utf8EncodeChar c ++ utf8 text := List.flatMap_cons

theorem utf8_eq_nil_iff {text : List Char} : utf8 text = [] ↔ text = [] := by
  constructor
  · intro h
    cases text with
    | nil => rfl
    | cons c text =>
      rw [utf8_cons, List.append_eq_nil_iff] at h
      exact absurd h.1 String.utf8EncodeChar_ne_nil
  · rintro rfl
    rfl

/-- **Text in UTF-8 is read as it is.** -/
theorem fromUtf8Lossy_utf8 (text : List Char) :
    fromUtf8Lossy (utf8 text) = String.ofList text := by
  have h : decodeChars (utf8 text).length (utf8 text) = text := by
    induction text with
    | nil => rfl
    | cons c text ih =>
      obtain ⟨first, behind, hc, hd⟩ := decodeChar_utf8EncodeChar c (utf8 text)
      rw [utf8_cons, hc, List.cons_append, decodeChars_cons, hd, ih]
  rw [fromUtf8Lossy, h]

example : fromUtf8Lossy [0x68, 0xc3, 0xa9, 0xff, 0xe2, 0x82, 0xac] =
  "hé\ufffd€" := by decide +kernel

end DohProxy.Lib
