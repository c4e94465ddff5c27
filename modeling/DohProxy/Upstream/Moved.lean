import DohProxy.Upstream.Pack

/-!
# Packets with bytes put in their middle

Where bytes are put in the middle of a packet, what stands after them moves. The offsets in
compression pointers do not move with it.

## The model

`NamePart` says where the parts of a packet's question names and owner names stand: labels, pointers
and root bytes. `PointerAt` is a part that is a pointer, with the offset it leads to.

## What is proved

* `WireName.moved` — **a name that moved spells what it did** if its pointers lead to names that
  did not move.
* `unpackQuestions_moved`, `unpackRrSection_moved` — so do the questions and the records with such
  names.
-/

namespace DohProxy.Upstream

open Lib Outcome

/-- A part of the name at `off` stands at `x`. -/
inductive InName (packet : List UInt8) (off : ℕ) : ℕ → Prop where
  /-- Its first part. -/
  | first : InName packet off off
  /-- The part after a label. -/
  | behind {x : ℕ} {len : UInt8} : InName packet off x → packet[x]? = some len → 0 < len.toNat →
      len.toNat < 64 → InName packet off (x + 1 + len.toNat)

/-- A part of a question name or an owner name stands at `x`. -/
def NamePart (packet : List UInt8) (x : ℕ) : Prop := ∃ off ∈ nameOffsets packet, InName packet off x

/-- A compression pointer of a question name or an owner name stands at `x` and leads to `t`. -/
def PointerAt (packet : List UInt8) (x t : ℕ) : Prop :=
  NamePart packet x ∧ ∃ high low, packet[x]? = some high ∧ 192 ≤ high.toNat ∧
    packet[x + 1]? = some low ∧ pointerTarget high low = t

/-- The compression pointers lead to labels of question names and owner names earlier in the
packet. -/
def PointersToLabels (packet : List UInt8) : Prop :=
  ∀ x t, PointerAt packet x t → t < x ∧ NamePart packet t ∧
    ∃ len, packet[t]? = some len ∧ len.toNat < 64

/-- The name at `s` is read from `packet'`, `d` places further on. -/
def NameMoved (packet packet' : List UInt8) (d s : ℕ) : Prop :=
  ∀ name next, Name.fromWire packet s = .ok (name, next) →
    Name.fromWire packet' (s + d) = .ok (name, next + d)

/-- The question name and the owner names of `m'` are those of `m`. -/
structure Msg.SameNames (m m' : Msg) : Prop where
  questions : m'.questions.map Question.name = m.questions.map Question.name
  answers : m'.answers.map ResourceRecord.name = m.answers.map ResourceRecord.name
  authorities : m'.authorities.map ResourceRecord.name = m.authorities.map ResourceRecord.name
  additionals : m'.additionals.map ResourceRecord.name = m.additionals.map ResourceRecord.name

section

variable {packet packet' : List UInt8} {k off next d : ℕ} {labels : List (List UInt8)}

/-! ### Names -/

/-- Offsets among which each part is followed by the next are all there are. -/
theorem NamePart.mem {parts : List ℕ} (hnames : ∀ off ∈ nameOffsets packet, off ∈ parts)
    (hnext : parts.all fun x => match packet[x]? with
      | some len => len.toNat = 0 || 64 ≤ len.toNat || parts.contains (x + 1 + len.toNat)
      | none => true) {x : ℕ} (h : NamePart packet x) : x ∈ parts := by
  obtain ⟨off, hoff, hin⟩ := h
  induction hin with
  | first => exact hnames off hoff
  | @behind x len _ hb hpos hlt ih =>
    have hx := List.all_eq_true.mp hnext x ih
    simp only [hb, Bool.or_eq_true, decide_eq_true_eq, List.contains_iff_mem] at hx
    rcases hx with (hzero | hlarge) | hmem
    · omega
    · omega
    · exact hmem

/-- The name of the root. -/
theorem Name.fromWire_root (h : packet[off]? = some 0) :
    Name.fromWire packet off = .ok (⟨[]⟩, off + 1) :=
  Name.fromWire_eq_ok_iff.mpr ⟨0, Nat.zero_le _, by simp, .root h⟩

/-- At each of its parts a name goes on to its end. -/
theorem InName.wireName (h : WireName packet k off labels next) {x : ℕ}
    (hx : InName packet off x) : off ≤ x ∧ ∃ labels', WireName packet k x labels' next := by
  induction hx with
  | first => exact ⟨Nat.le_refl _, labels, h⟩
  | @behind x len _ hb hpos hlt ih =>
    obtain ⟨hle, labels', h'⟩ := ih
    refine ⟨by omega, ?_⟩
    cases h' with
    | root hb' =>
      cases hb.symm.trans hb'
      exact absurd hpos (by decide)
    | label hb' _ _ _ _ h' =>
      cases hb.symm.trans hb'
      exact ⟨_, h'⟩
    | pointer hb' hh =>
      cases hb.symm.trans hb'
      omega

/-- The pointers of a packet lead to names that stand in `packet'` where they were. -/
def TargetsKept (packet packet' : List UInt8) : Prop :=
  ∀ x t, PointerAt packet x t → NamePart packet t ∧
    ∀ k labels next, WireName packet k t labels next → SameAt packet packet' 0 t next

/-- **A name that moved** spells what it did, if its pointers lead to names that did not. -/
theorem WireName.moved (hlen : packet.length ≤ packet'.length)
    (htargets : TargetsKept packet packet') (h : WireName packet k off labels next) :
    ∀ {d : ℕ}, NamePart packet off → SameAt packet packet' d off next →
      WireName packet' k (off + d) labels (next + d) := by
  induction h with
  | @root off hb =>
    intro d _ hsame
    rw [Nat.add_right_comm]
    exact .root ((hsame off (Nat.le_refl _) (Nat.lt_succ_self _)).trans hb)
  | @label k off next len bs labels hb hpos hlt hbs hd h ih =>
    rintro d ⟨s, hs, hin⟩ hsame
    obtain ⟨hlt', -⟩ := h.lt_next
    have hpiece : packet'.drop (off + d + 1) = bs ++ packet'.drop (off + d + 1 + len.toNat) := by
      rw [← hbs] at hd ⊢
      have := drop_of_sameAt hd (hsame.mono (by omega) (by omega))
      rwa [Nat.add_right_comm off, Nat.add_right_comm (off + 1)]
    have hrest := ih ⟨s, hs, .behind hin hb hpos hlt⟩ (hsame.mono (by omega) (Nat.le_refl _))
    rw [show off + 1 + len.toNat + d = off + d + 1 + len.toNat by omega] at hrest
    exact .label ((hsame off (by omega) (by omega)).trans hb) hpos hlt hbs hpiece hrest
  | @pointer k off next high low labels hb hh hl hptr h ih =>
    intro d hpart hsame
    obtain ⟨htarget, hkept⟩ := htargets off _ ⟨hpart, high, low, hb, hh, hl, rfl⟩
    have hlow := hsame (off + 1) (by omega) (by omega)
    rw [Nat.add_right_comm] at hlow ⊢
    -- the name the pointer leads to stands where it did
    exact .pointer ((hsame off (by omega) (by omega)).trans hb) hh (hlow.trans hl) (by omega)
      (ih htarget (hkept _ _ _ h))

theorem Name.moved (hlen : packet.length ≤ packet'.length) (htargets : TargetsKept packet packet')
    {s : ℕ} {name : Name} (hs : s ∈ nameOffsets packet)
    (hname : Name.fromWire packet s = .ok (name, next)) (hsame : SameAt packet packet' d s next) :
    NameMoved packet packet' d s := by
  intro name' next' h
  rw [hname] at h
  cases h
  obtain ⟨k, hk, hoctets, hwire⟩ := Name.fromWire_eq_ok_iff.mp hname
  exact Name.fromWire_eq_ok_iff.mpr
    ⟨k, hk, hoctets, hwire.moved hlen htargets ⟨s, hs, .first⟩ hsame⟩

/-! ### Records and questions -/

/-- **A record that moved.** -/
theorem unpackRr_moved {rr : ResourceRecord} (h : unpackRr packet off = .ok (rr, next))
    (hname : NameMoved packet packet' d off) (hsame : SameAt packet packet' d off next) :
    unpackRr packet' (off + d) = .ok (rr, next + d) := by
  obtain ⟨e, rtype, hn, ht, hfit, hnext, -, hd⟩ := unpackRr_fields h
  obtain ⟨_, -, -, hwire⟩ := Name.fromWire_eq_ok_iff.mp hn
  have hlt := hwire.lt_next
  simp only [← List.append_assoc] at hd
  generalize hfields : u16Bytes rtype ++ u16Bytes rr.rrClass ++ u32Bytes rr.ttl ++
    u16Bytes (UInt16.ofNat rr.rdata.length) ++ rr.rdata = fields at hd
  have hlen : fields.length = 10 + rr.rdata.length := by
    rw [← hfields]
    simp only [List.length_append, length_u16Bytes, length_u32Bytes]
  have hnext' : next = e + fields.length := by omega
  rw [hnext'] at hd
  have hd' := drop_of_sameAt hd (hsame.mono (by omega) (by omega))
  rw [← hfields] at hd'
  simp only [List.append_assoc] at hd'
  rw [unpackRr_of_drop (hname _ _ hn) hfit hd', ← ht, hnext]
  simp only [Outcome.ok.injEq, Prod.mk.injEq, true_and]
  omega

theorem le_stop_of_unpackRrSection : ∀ {n off stop : ℕ} {records : List ResourceRecord},
    unpackRrSection packet n off = .ok (records, stop) → off ≤ stop := by
  intro n
  induction n with
  | zero =>
    intro off stop records h
    cases h
    exact Nat.le_refl _
  | succ n ih =>
    intro off stop records h
    obtain ⟨rr, e, rest, hrr, hrest, rfl⟩ := unpackRrSection_succ h
    exact (lt_next_of_unpackRr hrr).1.le.trans (ih hrest)

/-- Each owner name lies between the ends of its section. -/
theorem mem_rrOffsets : ∀ {n off stop s : ℕ} {records : List ResourceRecord},
    unpackRrSection packet n off = .ok (records, stop) → s ∈ rrOffsets packet n off →
      off ≤ s ∧ ∃ name next, Name.fromWire packet s = .ok (name, next) ∧ next ≤ stop := by
  intro n
  induction n with
  | zero =>
    intro off stop s records _ hs
    cases hs
  | succ n ih =>
    intro off stop s records h hs
    obtain ⟨rr, e, rest, hrr, hrest, rfl⟩ := unpackRrSection_succ h
    have hlt := (lt_next_of_unpackRr hrr).1
    rw [rrOffsets, hrr, List.mem_cons] at hs
    rcases hs with rfl | hs
    · obtain ⟨e', _, hn, -, -, hnext, -, -⟩ := unpackRr_fields hrr
      have := le_stop_of_unpackRrSection hrest
      exact ⟨Nat.le_refl _, _, e', hn, by omega⟩
    · obtain ⟨hle, name, next, hn, hnext⟩ := ih hrest hs
      exact ⟨by omega, name, next, hn, hnext⟩

/-- **Records that moved.** -/
theorem unpackRrSection_moved : ∀ {n off stop : ℕ} {records : List ResourceRecord},
    unpackRrSection packet n off = .ok (records, stop) →
      (∀ s ∈ rrOffsets packet n off, NameMoved packet packet' d s) →
      SameAt packet packet' d off stop →
        unpackRrSection packet' n (off + d) = .ok (records, stop + d) := by
  intro n
  induction n with
  | zero =>
    intro off stop records h _ _
    cases h
    rfl
  | succ n ih =>
    intro off stop records h hnames hsame
    obtain ⟨rr, e, rest, hrr, hrest, rfl⟩ := unpackRrSection_succ h
    rw [rrOffsets, hrr, List.forall_mem_cons] at hnames
    have hlt := (lt_next_of_unpackRr hrr).1
    have hle := le_stop_of_unpackRrSection hrest
    have hrr' := unpackRr_moved hrr hnames.1 (hsame.mono (Nat.le_refl _) hle)
    have hrest' := ih hrest hnames.2 (hsame.mono hlt.le (Nat.le_refl _))
    simp only [unpackRrSection, hrr', ok_bind, hrest', pure_eq_ok]

theorem le_stop_of_unpackQuestions : ∀ {n off stop : ℕ} {questions : List Question},
    Msg.unpackQuestions packet n off = .ok (questions, stop) → off ≤ stop := by
  intro n
  induction n with
  | zero =>
    intro off stop questions h
    cases h
    exact Nat.le_refl _
  | succ n ih =>
    intro off stop questions h
    obtain ⟨name, e, rest, -, hlt, -, hrest, -⟩ := Msg.unpackQuestions_succ h
    exact hlt.le.trans ((Nat.le_add_right e 4).trans (ih hrest))

/-- Each question name ends where the questions do, or before. -/
theorem mem_questionOffsets : ∀ {n off stop s : ℕ} {questions : List Question},
    Msg.unpackQuestions packet n off = .ok (questions, stop) → s ∈ questionOffsets packet n off →
      ∃ name next, Name.fromWire packet s = .ok (name, next) ∧ next ≤ stop := by
  intro n
  induction n with
  | zero =>
    intro off stop s questions _ hs
    cases hs
  | succ n ih =>
    intro off stop s questions h hs
    obtain ⟨name, e, rest, hname, -, -, hrest, -⟩ := Msg.unpackQuestions_succ h
    rw [questionOffsets, hname, List.mem_cons] at hs
    rcases hs with rfl | hs
    · exact ⟨name, e, hname, (Nat.le_add_right e 4).trans (le_stop_of_unpackQuestions hrest)⟩
    · exact ih hrest hs

/-- **Questions that moved.** -/
theorem unpackQuestions_moved : ∀ {n off stop : ℕ} {questions : List Question},
    Msg.unpackQuestions packet n off = .ok (questions, stop) →
      (∀ s ∈ questionOffsets packet n off, NameMoved packet packet' d s) →
      SameAt packet packet' d off stop →
        Msg.unpackQuestions packet' n (off + d) = .ok (questions, stop + d) := by
  intro n
  induction n with
  | zero =>
    intro off stop questions h _ _
    cases h
    rfl
  | succ n ih =>
    intro off stop questions h hnames hsame
    obtain ⟨name, e, rest, hname, hlt, hroom, hrest, rfl⟩ := Msg.unpackQuestions_succ h
    rw [questionOffsets, hname, List.forall_mem_cons] at hnames
    have hle := le_stop_of_unpackQuestions hrest
    have hname' := hnames.1 _ _ hname
    have hrest' := ih hrest hnames.2 (hsame.mono (by omega) (Nat.le_refl _))
    have hd : packet.drop e = (u16Bytes (be16At packet e) ++ u16Bytes (be16At packet (e + 2))) ++
        packet.drop (e + 4) := by
      rw [drop_eq_u16Bytes (by omega), drop_eq_u16Bytes (show e + 2 + 2 ≤ _ by omega),
        List.append_assoc]
    have hd' := drop_of_sameAt hd (hsame.mono hlt.le hle)
    rw [List.append_assoc] at hd'
    have hlen := length_of_drop hd' (by simp [u16Bytes])
    have hd₂ := drop_of_drop _ hd'
    simp only [List.length_append, length_u16Bytes, Nat.reduceAdd] at hlen hd₂
    rw [show e + 4 + d = e + d + 4 by omega] at hrest'
    simp only [Msg.unpackQuestions, hname', ok_bind,
      ensure_pos (show ¬ packet'.length - (e + d) < 4 by omega), readU16_of_drop hd',
      readU16_of_drop hd₂, hrest', pure_eq_ok]

end

end DohProxy.Upstream
