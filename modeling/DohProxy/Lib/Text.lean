import Mathlib.Algebra.Ring.Nat
import Mathlib.Data.List.Basic
import Mathlib.Data.List.DropRight
import Mathlib.Tactic.Common

/-!
# Text

A text is the list of its characters. These are the functions of Rust's `str` that look at single
characters; `split` is `List.splitOn`.

## What is proved

What a text is made of when nothing is cut off at a separator or at the ends:
`firstPart_eq_self_iff`, `trim_eq_self`, `toLower_of_isWhiteSpace`. `splitOn_flatMap` — splitting a
text's encoding is encoding what it splits into.
-/

namespace DohProxy.Lib.Text

/-- The property `White_Space` of Unicode. -/
def isWhiteSpace (c : Char) : Bool :=
  [(0x9, 0xd), (0x20, 0x20), (0x85, 0x85), (0xa0, 0xa0), (0x1680, 0x1680), (0x2000, 0x200a),
    (0x2028, 0x2029), (0x202f, 0x202f), (0x205f, 0x205f), (0x3000, 0x3000)].any
    fun (first, last) => first ≤ c.toNat && c.toNat ≤ last

/-- `trim`. -/
def trim (text : List Char) : List Char := (text.dropWhile isWhiteSpace).rdropWhile isWhiteSpace

/-- `to_ascii_lowercase`. -/
def toAsciiLowercase (text : List Char) : List Char := text.map Char.toLower

/-- `len`: the number of bytes. -/
def byteLength (text : List Char) : ℕ := (text.map Char.utf8Size).sum

/-- The first part of a text that is split. -/
def firstPart (sep : Char) (text : List Char) : List Char := (text.splitOn sep).headD []

/-- The second part of a text that is split, if it is. -/
def secondPart (sep : Char) (text : List Char) : Option (List Char) := (text.splitOn sep)[1]?

variable {sep : Char} {text rest : List Char}

theorem splitOn_append_cons (h : sep ∉ text) (rest : List Char) :
    (text ++ sep :: rest).splitOn sep = text :: rest.splitOn sep := by
  apply List.splitOnP_append_cons_of_forall_mem
  · intro c hc
    exact beq_eq_false_iff_ne.mpr fun heq => h (heq ▸ hc)
  · exact beq_self_eq_true sep

theorem splitOn_of_notMem (h : sep ∉ text) : text.splitOn sep = [text] := by
  apply List.splitOnP_eq_singleton
  intro c hc
  exact beq_eq_false_iff_ne.mpr fun heq => h (heq ▸ hc)

/-- The separator is in no part. -/
theorem notMem_of_mem_splitOn {part : List Char} (h : part ∈ text.splitOn sep) : sep ∉ part := by
  induction text generalizing part with
  | nil =>
    obtain rfl := List.mem_singleton.mp h
    exact List.not_mem_nil
  | cons c text ih =>
    rw [List.splitOn_eq_splitOnP, List.splitOnP_cons_eq_if_modifyHead] at h
    split at h
    · rcases List.mem_cons.mp h with rfl | h
      · exact List.not_mem_nil
      · exact ih h
    · next hc =>
      obtain ⟨first, rest, hsplit⟩ := List.exists_cons_of_ne_nil
        (List.splitOnP_ne_nil (· == sep) text)
      rw [hsplit, List.modifyHead_cons] at h
      -- the character goes to the first part
      have hfirst : sep ∉ first := ih (show first ∈ text.splitOnP (· == sep) by simp [hsplit])
      rcases List.mem_cons.mp h with rfl | h
      · rintro (_ | ⟨_, hmem⟩)
        · exact hc (beq_self_eq_true sep)
        · exact hfirst hmem
      · exact ih (show part ∈ text.splitOnP (· == sep) by simp [hsplit, h])

@[simp] theorem firstPart_append_cons (h : sep ∉ text) (rest : List Char) :
    firstPart sep (text ++ sep :: rest) = text := by
  rw [firstPart, splitOn_append_cons h, List.headD_cons]

@[simp] theorem firstPart_of_notMem (h : sep ∉ text) : firstPart sep text = text := by
  rw [firstPart, splitOn_of_notMem h, List.headD_cons]

@[simp] theorem secondPart_append_cons (h : sep ∉ text) (rest : List Char) :
    secondPart sep (text ++ sep :: rest) = some (firstPart sep rest) := by
  rw [secondPart, splitOn_append_cons h, firstPart]
  cases hsplit : rest.splitOn sep with
  | nil => exact absurd hsplit (List.splitOnP_ne_nil _ _)
  | cons part parts => rfl

@[simp] theorem secondPart_of_notMem (h : sep ∉ text) : secondPart sep text = none := by
  rw [secondPart, splitOn_of_notMem h]
  rfl

/-- The first part is all there is exactly when the separator is not there. -/
theorem firstPart_eq_self_iff : firstPart sep text = text ↔ sep ∉ text := by
  constructor
  · intro h hmem
    obtain ⟨before, after, heq, hnot⟩ := List.eq_append_cons_of_mem hmem
    rw [heq, firstPart_append_cons hnot] at h
    exact absurd (congrArg List.length h) (by simp)
  · exact firstPart_of_notMem

section

variable {α : Type}

/-- One more part, after the others. -/
theorem intercalate_concat (s : α) (parts : List (List α)) (part : List α) :
    [s].intercalate (parts ++ [part]) =
      if parts = [] then part else [s].intercalate parts ++ [s] ++ part := by
  induction parts with
  | nil => exact List.intercalate_singleton
  | cons first parts ih =>
    rw [List.cons_append, List.intercalate_cons_of_ne_nil (by simp), ih,
      if_neg (List.cons_ne_nil first parts)]
    split
    · next h => rw [h, List.intercalate_singleton]
    · next h => simp only [List.intercalate_cons_of_ne_nil h, List.append_assoc]

/-- **Parts without the separator** are told by what they make. -/
theorem intercalate_inj [DecidableEq α] {s : α} {parts parts' : List (List α)}
    (h : ∀ part ∈ parts, part ≠ [] ∧ s ∉ part) (h' : ∀ part ∈ parts', part ≠ [] ∧ s ∉ part) :
    [s].intercalate parts = [s].intercalate parts' ↔ parts = parts' := by
  refine ⟨fun heq => ?_, fun heq => heq ▸ rfl⟩
  have hnil : ∀ {ps : List (List α)}, (∀ part ∈ ps, part ≠ [] ∧ s ∉ part) →
      [s].intercalate ps = [] → ps = [] := by
    intro ps hps hempty
    cases ps with
    | nil => rfl
    | cons p ps =>
      refine absurd ?_ (hps p List.mem_cons_self).1
      cases ps with
      | nil => rwa [List.intercalate_singleton] at hempty
      | cons q qs =>
        rw [List.intercalate_cons_of_ne_nil (List.cons_ne_nil q qs), List.append_assoc] at hempty
        exact (List.append_eq_nil_iff.mp hempty).1
  by_cases hne : parts = []
  · subst hne
    exact (hnil h' heq.symm).symm
  · have hne' : parts' ≠ [] := by
      rintro rfl
      exact hne (hnil h heq)
    rw [← List.splitOn_intercalate s (fun p hp => (h p hp).2) hne, heq,
      List.splitOn_intercalate s (fun p hp => (h' p hp).2) hne']

end

theorem trim_eq_self (h : ∀ c ∈ text, isWhiteSpace c = false) : trim text = text := by
  have hdrop : text.dropWhile isWhiteSpace = text := by
    cases text with
    | nil => rfl
    | cons c cs => simp [List.dropWhile, h c List.mem_cons_self]
  rw [trim, hdrop, List.rdropWhile_eq_self_iff]
  intro hne
  simp [h _ (List.getLast_mem hne)]

/-- A character that is no capital letter stays as it is. -/
theorem toLower_eq_self {c : Char} (h : ¬ ('A'.toNat ≤ c.toNat ∧ c.toNat ≤ 'Z'.toNat)) :
    c.toLower = c := by
  unfold Char.toLower
  split
  · next hc => exact absurd hc h
  · rfl

theorem toLower_of_isWhiteSpace {c : Char} (h : isWhiteSpace c = true) : c.toLower = c := by
  apply toLower_eq_self
  simp only [isWhiteSpace, List.any_cons, List.any_nil, Bool.or_false,
    Bool.or_eq_true, Bool.and_eq_true,
    decide_eq_true_eq] at h
  intro hcapital
  have h1 : 'A'.toNat = 65 := rfl
  have h2 : 'Z'.toNat = 90 := rfl
  omega

/-! ### Text that is encoded -/

section

variable {α β : Type} [DecidableEq α] [DecidableEq β]

theorem splitOn_append_of_notMem {b : β} {bs : List β} (h : b ∉ bs) (rest : List β) :
    (bs ++ rest).splitOn b = (rest.splitOn b).modifyHead (bs ++ ·) := by
  induction bs with
  | nil =>
    obtain ⟨first, parts, hsplit⟩ := List.exists_cons_of_ne_nil
      (List.splitOnP_ne_nil (· == b) rest)
    rw [← List.splitOn_eq_splitOnP] at hsplit
    rw [List.nil_append, hsplit]
    rfl
  | cons c bs ih =>
    obtain ⟨hc, hbs⟩ := not_or.mp (mt List.mem_cons.mpr h)
    rw [List.cons_append, List.splitOn_eq_splitOnP, List.splitOnP_cons_eq_if_modifyHead,
      if_neg (by simpa using fun heq => hc heq.symm), ← List.splitOn_eq_splitOnP, ih hbs]
    simp [List.modifyHead_modifyHead, Function.comp_def]

/-- **Splitting what is encoded is encoding what is split**, if just the separator has the
encoding of the separator in it. -/
theorem splitOn_flatMap {f : α → List β} {a : α} {b : β} (ha : f a = [b])
    (h : ∀ x, x ≠ a → b ∉ f x) (text : List α) :
    (text.flatMap f).splitOn b = (text.splitOn a).map (·.flatMap f) := by
  induction text with
  | nil => rfl
  | cons x text ih =>
    have htext : (x :: text).splitOn a = if x == a then [] :: text.splitOn a
        else (text.splitOn a).modifyHead (x :: ·) := by
      simp only [List.splitOn_eq_splitOnP, List.splitOnP_cons_eq_if_modifyHead]
    rw [List.flatMap_cons, htext]
    by_cases hx : x = a
    · subst hx
      rw [if_pos (beq_self_eq_true _), ha, List.singleton_append, List.splitOn_eq_splitOnP,
        List.splitOnP_cons_eq_if_modifyHead, if_pos (beq_self_eq_true _),
        ← List.splitOn_eq_splitOnP, ih]
      rfl
    · rw [if_neg (by simpa using hx), splitOn_append_of_notMem (h x hx), ih]
      obtain ⟨first, parts, hsplit⟩ := List.exists_cons_of_ne_nil
        (List.splitOnP_ne_nil (· == a) text)
      rw [List.splitOn_eq_splitOnP, hsplit]
      rfl

end

end DohProxy.Lib.Text
