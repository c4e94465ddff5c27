import DohProxy.Dns.PayloadSize
import Mathlib.Order.Bounds.Basic

/-!
# The length of a padded response

What `add_edns_padding` lets an observer of lengths see of a response that segments to its end.

## What is proved

* `isLeast_paddedLen` — `padded_len` is the least boundary that is long enough, where there is one.
* `addEdnsPadding_length` — padding succeeds **exactly when** the response with an OPT record has at
  most 4080 bytes, its length is then four more than that boundary, and so responses between the
  same two boundaries get the same length.
-/

namespace DohProxy.Dns

open Lib Outcome

/-- The first of an ascending list that passes a test is the least one. -/
theorem isLeast_find? {α : Type} [Preorder α] {p : α → Bool} {xs : List α} {a : α}
    (hxs : xs.Pairwise (· ≤ ·)) (h : xs.find? p = some a) :
    IsLeast {b | b ∈ xs ∧ p b = true} a := by
  obtain ⟨hp, as, bs, rfl, hno⟩ := List.find?_eq_some_iff_append.mp h
  refine ⟨⟨by simp, hp⟩, ?_⟩
  rintro b ⟨hmem, hb⟩
  obtain ⟨-, hrest, -⟩ := List.pairwise_append.mp hxs
  rcases List.mem_append.mp hmem with has | hbs
  · have := hno b has
    rw [hb] at this
    cases this
  · rcases List.mem_cons.mp hbs with rfl | hbs
    · exact le_rfl
    · exact (List.pairwise_cons.mp hrest).1 b hbs

theorem isLeast_paddedLen {n : ℕ} (h : n ≤ 4080) :
    IsLeast {b | b ∈ paddingBoundaries ∧ n ≤ b} (paddedLen n) := by
  unfold paddedLen
  cases hb : paddingBoundaries.find? fun boundary => n ≤ boundary with
  | none =>
    rw [List.find?_eq_none] at hb
    exact absurd (decide_eq_true h) (hb 4080 (by decide))
  | some b =>
    have hleast := isLeast_find? (show paddingBoundaries.Pairwise (· ≤ ·) by decide) hb
    simpa only [decide_eq_true_eq, Option.getD_some] using hleast

/-- The length of a message once it has an OPT record. -/
def Message.lengthWithOpt (m : Message) : ℕ :=
  m.bytes.length + if optCount m.additionals = 0 then 11 else 0

section

variable {m : Message}

/-- A message that is not too long gets the length of its boundary, and an option header. -/
theorem addEdnsPadding_of_le (hlen : m.bytes.length ≤ 4085) (hopt : optCount m.additionals ≤ 1)
    (h : m.lengthWithOpt ≤ 4080) :
    ∃ packet', addEdnsPadding m.bytes = (.ok (), packet') ∧
      packet'.length = 4 + paddedLen m.lengthWithOpt := by
  have hrs := m.additionalRecords (by omega)
  have hpad := length_add_paddingOf (show m.lengthWithOpt ≤ 4096 by omega)
  unfold Message.lengthWithOpt at h hpad ⊢
  rcases Nat.le_one_iff_eq_zero_or_eq_one.mp hopt with hzero | hone
  · rw [if_pos hzero] at h hpad ⊢
    rw [addEdnsPadding_of_none hrs hzero, if_pos hlen, padAt_optRecord hlen, if_pos h]
    refine ⟨_, rfl, ?_⟩
    rw [List.length_append, length_setU16, List.length_append, length_setU16, ← hpad]
    rfl
  · rw [if_neg (by omega), Nat.add_zero] at h hpad ⊢
    obtain ⟨e, -, he, hp⟩ := addEdnsPadding_of_one hrs hone
    rw [hp, padAt_of_fits he (by omega), if_pos h]
    exact ⟨_, rfl, by rw [List.length_append, length_setU16, ← hpad]⟩

/-- A message that is too long gets an error. -/
theorem addEdnsPadding_of_gt (hlen : m.bytes.length ≤ 4085) (hopt : optCount m.additionals ≤ 1)
    (h : 4080 < m.lengthWithOpt) : ∃ msg, (addEdnsPadding m.bytes).1 = .err msg := by
  have hrs := m.additionalRecords (by omega)
  unfold Message.lengthWithOpt at h
  rcases Nat.le_one_iff_eq_zero_or_eq_one.mp hopt with hzero | hone
  · rw [if_pos hzero] at h
    rw [addEdnsPadding_of_none hrs hzero, if_pos hlen, padAt_optRecord hlen, if_neg (by omega)]
    exact ⟨_, rfl⟩
  · rw [if_neg (by omega)] at h
    obtain ⟨e, -, he, hp⟩ := addEdnsPadding_of_one hrs hone
    rw [hp, padAt_of_fits he (by omega), if_neg (by omega)]
    exact ⟨_, rfl⟩

theorem addEdnsPadding_eq_ok_iff (hlen : m.bytes.length ≤ 4085)
    (hopt : optCount m.additionals ≤ 1) :
    (addEdnsPadding m.bytes).1 = .ok () ↔ m.lengthWithOpt ≤ 4080 := by
  constructor
  · intro hok
    by_contra hgt
    obtain ⟨msg, herr⟩ := addEdnsPadding_of_gt hlen hopt (by omega)
    rw [hok] at herr
    cases herr
  · intro h
    obtain ⟨packet', hok, -⟩ := addEdnsPadding_of_le hlen hopt h
    rw [hok]

/-- A padded message ends four bytes after its boundary. -/
theorem exists_isLeast_boundary {packet packet' : Packet} (hm : segment packet = .ok m)
    (hlen : packet.length ≤ 4085) (hopt : optCount m.additionals ≤ 1)
    (hok : addEdnsPadding packet = (.ok (), packet')) :
    ∃ b, IsLeast {b | b ∈ paddingBoundaries ∧ m.lengthWithOpt ≤ b} b ∧
      packet'.length = 4 + b := by
  rw [segment_eq_ok_iff] at hm
  subst hm
  have h := (addEdnsPadding_eq_ok_iff hlen hopt).mp (by rw [hok])
  obtain ⟨packet'', hok', hlen'⟩ := addEdnsPadding_of_le hlen hopt h
  rw [hok, Prod.mk.injEq] at hok'
  exact ⟨_, isLeast_paddedLen h, by rw [hok'.2, hlen']⟩

/-- **The length of a padded response** is that of the least boundary from its length with an OPT
record on, and the four bytes of an option's header. -/
theorem addEdnsPadding_length {packet : Packet} (hm : segment packet = .ok m)
    (hlen : packet.length ≤ 4085) (hopt : optCount m.additionals ≤ 1) :
    ((addEdnsPadding packet).1 = .ok () ↔ m.lengthWithOpt ≤ 4080) ∧
    (∀ packet', addEdnsPadding packet = (.ok (), packet') →
      ∃ b, IsLeast {b | b ∈ paddingBoundaries ∧ m.lengthWithOpt ≤ b} b ∧
        packet'.length = 4 + b) ∧
    (∀ other m₂, segment other = .ok m₂ → other.length ≤ 4085 → optCount m₂.additionals ≤ 1 →
      (∀ b ∈ paddingBoundaries, m.lengthWithOpt ≤ b ↔ m₂.lengthWithOpt ≤ b) →
      ∀ packet' other', addEdnsPadding packet = (.ok (), packet') →
        addEdnsPadding other = (.ok (), other') → packet'.length = other'.length) ∧
    (addEdnsPadding packet).2.length ≤ 4096 := by
  refine ⟨?_, fun packet' => exists_isLeast_boundary hm hlen hopt, ?_, ?_⟩
  · rw [segment_eq_ok_iff] at hm
    subst hm
    exact addEdnsPadding_eq_ok_iff hlen hopt
  · intro other m₂ hm₂ hlen₂ hopt₂ hsame packet' other' hok hok₂
    obtain ⟨b, hb, hlen'⟩ := exists_isLeast_boundary hm hlen hopt hok
    obtain ⟨b₂, hb₂, hlen₂'⟩ := exists_isLeast_boundary hm₂ hlen₂ hopt₂ hok₂
    have hset : {b | b ∈ paddingBoundaries ∧ m.lengthWithOpt ≤ b} =
        {b | b ∈ paddingBoundaries ∧ m₂.lengthWithOpt ≤ b} := by
      ext b
      exact and_congr_right (hsame b)
    rw [← hset] at hb₂
    rw [hlen', hlen₂', hb.unique hb₂]
  · have := (addEdnsPadding_spec packet).2
    omega

/-- The reply for the root is padded. -/
theorem addEdnsPadding_length_root :
    (addEdnsPadding (rootQuery [rootA] (by decide)).bytes).1 = .ok () ↔
      (rootQuery [rootA] (by decide)).lengthWithOpt ≤ 4080 :=
  (addEdnsPadding_length (segment_complete _) (by decide) (by decide)).1

end

end DohProxy.Dns
